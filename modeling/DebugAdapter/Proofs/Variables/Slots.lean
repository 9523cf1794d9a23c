import DebugAdapter.Proofs.Variables.Issues
import Mathlib.Data.List.DropRight

/-!
# Slots in the life of a table

Values are stored and generations begun in any order. The counter of slots
outlives the generations: it gives out 1, 2, 3 and so on up to the last slot,
and nothing after that. What a table holds is what was stored in its last
generation. `Tells` says both of a table and what has been done to it, each
operation keeps it (`tells_operate`), and `slots_allocated` reads it off at the
end of any life.
-/

namespace DebugAdapter

namespace ValueTable

inductive Operation where
  | insert (v : Value)
  | clear

namespace Operation

def inserts : Operation → Bool
  | .insert _ => true
  | .clear => false

end Operation

inductive Deed where
  | inserted (v : Value) (slot : Option Nat)
  | cleared

namespace Deed

def answer? : Deed → Option (Option Nat)
  | .inserted _ slot => some slot
  | .cleared => none

def grant? : Deed → Option (Nat × Value)
  | .inserted v slot => slot.map (·, v)
  | .cleared => none

def clears : Deed → Bool
  | .inserted .. => false
  | .cleared => true

end Deed

def operate (t : ValueTable) : Operation → Deed × ValueTable
  | .insert v => (.inserted v (t.insert v).1, (t.insert v).2)
  | .clear => (.cleared, t.clear)

def live (t : ValueTable) : List Operation → List Deed × ValueTable
  | [] => ([], t)
  | op :: ops =>
    let (deed, t) := t.operate op
    let (deeds, t) := t.live ops
    (deed :: deeds, t)

def answers (deeds : List Deed) : List (Option Nat) := deeds.filterMap Deed.answer?

/-- The slots given out since the last clear, each with its value. -/
def granted (deeds : List Deed) : List (Nat × Value) :=
  (deeds.rtakeWhile fun deed => !deed.clears).filterMap Deed.grant?

/-- What storing `n` values is answered: the slots one after the other, and
none when they are used up. -/
def slotsFor (n : Nat) : List (Option Nat) :=
  (List.range' 1 (min n VarRef.maxSlot)).map some ++ List.replicate (n - VarRef.maxSlot) none

def entries (t : ValueTable) : List (Nat × Value) :=
  (t.values.toList.zipIdx t.first).map Prod.swap

-- ---------------------------------------------------------------------------
-- Entries
-- ---------------------------------------------------------------------------

theorem mem_entries {t : ValueTable} : (slot, v) ∈ t.entries ↔ t.get? slot = some v := by
  have swapped : (slot, v) ∈ t.entries ↔ (v, slot) ∈ t.values.toList.zipIdx t.first := by
    simp [entries]
  simp [swapped, List.mk_mem_zipIdx_iff_le_and_getElem?_sub, get?]

@[simp] theorem length_entries (t : ValueTable) : t.entries.length = t.size := by
  simp [entries, size]

@[simp] theorem entries_clear (t : ValueTable) : t.clear.entries = [] := rfl

theorem entries_insert (t : ValueTable) (v : Value) :
    (t.insert v).2.entries = t.entries ++ (Deed.inserted v (t.insert v).1).grant?.toList := by
  by_cases free : t.nextSlot ≤ VarRef.maxSlot
  · simp [insert_of_le free, entries, Deed.grant?, List.zipIdx_append, nextSlot]
  · simp [insert_of_gt free, Deed.grant?]

-- ---------------------------------------------------------------------------
-- Deeds
-- ---------------------------------------------------------------------------

theorem answers_concat (deeds : List Deed) (deed : Deed) :
    answers (deeds ++ [deed]) = answers deeds ++ deed.answer?.toList := by
  cases h : deed.answer? <;> simp [answers, h]

theorem granted_concat (deeds : List Deed) (deed : Deed) :
    granted (deeds ++ [deed]) =
      if deed.clears then [] else granted deeds ++ deed.grant?.toList := by
  cases deed with
  | inserted v slot => cases slot <;> simp [granted, Deed.clears, Deed.grant?]
  | cleared => simp [granted, Deed.clears]

theorem slotsFor_succ (n : Nat) :
    slotsFor (n + 1) = slotsFor n ++ [if n < VarRef.maxSlot then some (n + 1) else none] := by
  unfold slotsFor
  by_cases free : n < VarRef.maxSlot
  · have whole : min (n + 1) VarRef.maxSlot = n + 1 := by omega
    have before : min n VarRef.maxSlot = n := by omega
    have spent : n + 1 - VarRef.maxSlot = 0 := by omega
    have spent' : n - VarRef.maxSlot = 0 := by omega
    rw [whole, before, spent, spent', List.range'_1_concat]
    simp [free, Nat.add_comm]
  · have whole : min (n + 1) VarRef.maxSlot = VarRef.maxSlot := by omega
    have before : min n VarRef.maxSlot = VarRef.maxSlot := by omega
    have spent : n + 1 - VarRef.maxSlot = n - VarRef.maxSlot + 1 := by omega
    simp [whole, before, spent, free, List.replicate_succ']

@[simp] theorem length_slotsFor (n : Nat) : (slotsFor n).length = n := by
  simp [slotsFor]
  omega

-- ---------------------------------------------------------------------------
-- Lives
-- ---------------------------------------------------------------------------

/-- A table is what the deeds so far have made of an empty one. -/
structure Tells (t : ValueTable) (deeds : List Deed) : Prop where
  answered : answers deeds = slotsFor (answers deeds).length
  /-- The counter stops behind the last slot. -/
  next : t.nextSlot = min (answers deeds).length VarRef.maxSlot + 1
  held : t.entries = granted deeds

theorem tells_empty : empty.Tells [] := ⟨rfl, rfl, rfl⟩

theorem tells_insert {t : ValueTable} (h : t.Tells deeds) (v : Value) :
    (t.insert v).2.Tells (deeds ++ [.inserted v (t.insert v).1]) := by
  obtain ⟨answered, next, held⟩ := h
  have slot : (t.insert v).1 = if (answers deeds).length < VarRef.maxSlot
      then some ((answers deeds).length + 1) else none := by
    by_cases free : t.nextSlot ≤ VarRef.maxSlot
    · have unspent : (answers deeds).length < VarRef.maxSlot := by omega
      simp only [insert_of_le free, if_pos unspent, Option.some.injEq]
      omega
    · have spent : ¬(answers deeds).length < VarRef.maxSlot := by omega
      simp only [insert_of_gt free, if_neg spent]
  constructor
  · simp [answers_concat, Deed.answer?, slotsFor_succ, ← answered, slot]
  · rw [answers_concat, List.length_append]
    by_cases free : t.nextSlot ≤ VarRef.maxSlot
    · simp [Deed.answer?, nextSlot_insert free]
      omega
    · simp [Deed.answer?, insert_of_gt free]
      omega
  · simp [granted_concat, Deed.clears, entries_insert, held]

theorem tells_clear {t : ValueTable} (h : t.Tells deeds) : t.clear.Tells (deeds ++ [.cleared]) := by
  obtain ⟨answered, next, -⟩ := h
  have same : answers (deeds ++ [.cleared]) = answers deeds := by simp [answers, Deed.answer?]
  constructor
  · rwa [same]
  · rwa [same, nextSlot_clear]
  · simp [granted_concat, Deed.clears]

theorem tells_operate {t : ValueTable} (h : t.Tells deeds) (op : Operation) :
    (t.operate op).2.Tells (deeds ++ [(t.operate op).1]) := by
  cases op with
  | insert v => exact tells_insert h v
  | clear => exact tells_clear h

theorem tells_live {t : ValueTable} (h : t.Tells deeds) (ops : List Operation) :
    (t.live ops).2.Tells (deeds ++ (t.live ops).1) := by
  induction ops generalizing t deeds with
  | nil => simpa [live] using h
  | cons op ops ih => simpa [live] using ih (tells_operate h op)

theorem length_answers (t : ValueTable) (ops : List Operation) :
    (answers (t.live ops).1).length = ops.countP Operation.inserts := by
  induction ops generalizing t with
  | nil => rfl
  | cons op ops ih =>
    have rest := ih (t.operate op).2
    cases op <;> simpa [live, operate, answers, List.filterMap_cons, List.countP_cons, Deed.answer?,
      Operation.inserts] using rest

/-- Over the life of a table, storing values gives out the slots 1, 2, 3 and so on up to the
last, and from then on no slot, whatever generations begin; a table without a free slot is
left as it is. At any time a slot holds a value exactly if it was given out for it since the
last clear, and there are as many values as slots given out since then. -/
theorem slots_allocated (ops : List Operation) :
    let deeds := (empty.live ops).1
    let t := (empty.live ops).2
    let n := ops.countP Operation.inserts
    answers deeds = (List.range' 1 (min n VarRef.maxSlot)).map some ++
        List.replicate (n - VarRef.maxSlot) none ∧
      (VarRef.maxSlot ≤ n → ∀ v, t.insert v = (none, t)) ∧
      (∀ slot v, t.get? slot = some v ↔ (slot, v) ∈ granted deeds) ∧
      t.size = (granted deeds).length := by
  intro deeds t n
  have count : (answers deeds).length = n := empty.length_answers ops
  obtain ⟨answered, next, held⟩ : t.Tells deeds := tells_live tells_empty ops
  rw [count] at answered next
  refine ⟨answered, fun spent v => insert_of_gt (by omega) v, fun slot v => ?_, ?_⟩
  · rw [← held, mem_entries]
  · rw [← held, length_entries]

end ValueTable

end DebugAdapter
