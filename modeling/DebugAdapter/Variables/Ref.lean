import DebugAdapter.Failure

/-!
# Variable references

A reference names a scope of a frame, or a stored value in it. It travels as
one positive integer of 31 bits: two bits of scope, eight bits of the frame
plus one, and 21 bits of slot. The frame field is never zero, so no handle is
zero, the number that means "no children". Reading a handle accepts exactly
the numbers that references are written as.
-/

namespace DebugAdapter

/-- A scope of a frame, or with a slot other than zero a value stored there. -/
structure VarRef where
  scope : ScopeKind
  frame : Nat
  slot : Nat
  deriving Repr, DecidableEq

namespace VarRef

def maxSlot : Nat := 0x1fffff
def maxFrame : Nat := 0xfe
def maxHandle : Nat := 0x7fffffff

def Fits (r : VarRef) : Prop := r.frame ≤ maxFrame ∧ r.slot ≤ maxSlot

instance (r : VarRef) : Decidable r.Fits := inferInstanceAs (Decidable (_ ∧ _))

/-- The reference, none if the frame or the slot is out of range. -/
def make? (scope : ScopeKind) (frame slot : Nat) : Option VarRef :=
  if (VarRef.mk scope frame slot).Fits then some ⟨scope, frame, slot⟩ else none

def root? (scope : ScopeKind) (frame : Nat) : Option VarRef := make? scope frame 0

def isRoot (r : VarRef) : Bool := r.slot = 0

def encode (r : VarRef) : Nat :=
  r.scope.number * 0x20000000 + (r.frame + 1) * 0x200000 + r.slot

def decode (handle : Int) : Except Failure VarRef :=
  if handle ≤ 0 ∨ handle > maxHandle then .error (.invalidHandle handle)
  else
    let n := handle.toNat
    let frame := n / 0x200000 % 0x100
    if frame = 0 then .error (.invalidHandle handle)
    else match ScopeKind.ofNumber? (n / 0x20000000) with
      | none => .error (.invalidHandle handle)
      | some scope => .ok ⟨scope, frame - 1, n % 0x200000⟩

end VarRef

end DebugAdapter
