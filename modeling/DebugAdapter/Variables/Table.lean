import DebugAdapter.Variables.Ref

/-!
# Stored values

The structured values handed out to a client, by slot. Slots are consecutive
numbers from 1 and are never given out again: a cleared table goes on where it
stopped, so a slot of one generation never names a value of the next. When
the slots are used up nothing more is stored.
-/

namespace DebugAdapter

/-- The values of the present generation, and the slot of the first of them. -/
structure ValueTable where
  first : Nat
  values : Array Value

namespace ValueTable

def empty : ValueTable := ⟨1, #[]⟩

instance : Inhabited ValueTable := ⟨empty⟩

def nextSlot (t : ValueTable) : Nat := t.first + t.values.size

/-- Stores a value; no slot if there is none left. -/
def insert (t : ValueTable) (v : Value) : Option Nat × ValueTable :=
  if t.nextSlot ≤ VarRef.maxSlot then
    (some t.nextSlot, { t with values := t.values.push v })
  else (none, t)

def get? (t : ValueTable) (slot : Nat) : Option Value :=
  if t.first ≤ slot then t.values[slot - t.first]? else none

/-- Starts a new generation. -/
def clear (t : ValueTable) : ValueTable := ⟨t.nextSlot, #[]⟩

def size (t : ValueTable) : Nat := t.values.size

def isEmpty (t : ValueTable) : Bool := t.values.isEmpty

@[simp] theorem nextSlot_clear (t : ValueTable) : t.clear.nextSlot = t.nextSlot := by
  simp [clear, nextSlot]

@[simp] theorem get?_clear (t : ValueTable) (slot : Nat) : t.clear.get? slot = none := by
  simp [clear, get?]

end ValueTable

end DebugAdapter
