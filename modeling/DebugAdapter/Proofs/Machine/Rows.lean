import DebugAdapter.Proofs.Machine.Handles
import DebugAdapter.Proofs.Variables.Issues

/-!
# Rows in words

The counter of the slots is an unsigned word of 32 bits, and a number that is shown as an
integer is cast to a signed word before. The counter stays small enough (`Counted`) because a
table stops storing values before it, not because an addition fails.
-/

namespace DebugAdapter

-- ---------------------------------------------------------------------------
-- Texts
-- ---------------------------------------------------------------------------

namespace Value

def numberTextInWords (x : Binary64) : Checked String :=
  match x.integer? with
  | some n =>
    if n.natAbs < integerLimit then return intText (← Word.ofInt .i64 n).val
    else return fractionText x
  | none => return fractionText x

mutual

def textInWords (quoted : Bool) : Value → Checked String
  | .number x => numberTextInWords x
  | .string s => return if quoted then Text.quote s else s
  | .tuple items => return "(" ++ (← itemsInWords quoted items) ++ ")"
  | v => return v.scalarText

def itemsInWords (quoted : Bool) : List Value → Checked String
  | [] => return ""
  | [v] => v.textInWords quoted
  | v :: rest => return (← v.textInWords quoted) ++ ", " ++ (← itemsInWords quoted rest)

end

theorem yields_numberText (x : Binary64) : Yields (numberTextInWords x) (· = numberText x) := by
  unfold numberTextInWords numberText
  cases x.integer? with
  | none => exact .pure rfl
  | some n =>
    dsimp only
    split
    · rename_i small
      simp only [integerLimit] at small
      refine (yields_ofInt (by simp; omega)).bind fun whole same => .pure ?_
      rw [same]
    · exact .pure rfl

mutual

theorem yields_text (quoted : Bool) :
    ∀ v : Value, Yields (v.textInWords quoted) (· = if quoted then v.debugText else v.display)
  | .number x => by
    cases quoted <;> simpa [textInWords, debugText, display, scalarText] using yields_numberText x
  | .string s => by
    cases quoted <;> simpa [textInWords, debugText, display, scalarText] using .pure rfl
  | .tuple items => by
    unfold textInWords debugText display
    refine (yields_items quoted items).bind fun text same => .pure ?_
    rw [same]
    cases quoted <;> rfl
  | .nil | .void | .boolean _ | .function .. | .hostFunction _ | .table .. | .userData ..
  | .coroutine .. => by
    unfold textInWords debugText display
    exact .pure (ite_self _).symm

theorem yields_items (quoted : Bool) : ∀ items : List Value,
    Yields (itemsInWords quoted items) (· = if quoted then debugItems items else displayItems items)
  | [] => by
    unfold itemsInWords debugItems displayItems
    exact .pure (ite_self _).symm
  | [v] => by
    unfold itemsInWords debugItems displayItems
    exact yields_text quoted v
  | v :: w :: rest => by
    unfold itemsInWords debugItems displayItems
    refine (yields_text quoted v).bind fun first same => ?_
    refine (yields_items quoted (w :: rest)).bind fun others same' => .pure ?_
    rw [same, same']
    cases quoted <;> rfl

end

end Value

-- ---------------------------------------------------------------------------
-- Slots
-- ---------------------------------------------------------------------------

namespace ValueTable

/-- The counter of the slots has not gone past the number after the greatest slot. -/
def Counted (t : ValueTable) : Prop := t.nextSlot ≤ VarRef.maxSlot + 1

theorem counted_empty : empty.Counted := by
  simp [Counted, empty, nextSlot]

theorem Counted.clear {t : ValueTable} (h : t.Counted) : t.clear.Counted := by
  simpa [Counted] using h

theorem Counted.insert {t : ValueTable} (h : t.Counted) (v : Value) : (t.insert v).2.Counted := by
  by_cases free : t.nextSlot ≤ VarRef.maxSlot
  · simpa [Counted, nextSlot_insert free] using free
  · rwa [insert_of_gt free]

theorem Issues.counted (h : Issues t hs vs u) : t.Counted → u.Counted := by
  induction h with
  | done => exact id
  | nothing _ ih => exact ih
  | lost t v _ ih => exact fun h => ih (h.insert v)
  | handle t v _ _ _ _ ih => exact fun h => ih (h.insert v)

def insertInWords (t : ValueTable) (v : Value) : Checked (Option (Word .u32) × ValueTable) := do
  let next ← Word.ofInt .u32 t.nextSlot
  if next.toNat ≤ VarRef.maxSlot then
    let _ ← next.add (.small 1)
    return (some next, { t with values := t.values.push v })
  else return (none, t)

def handleForInWords (t : ValueTable) (scope : ScopeKind) (frame : Nat) (v : Value) :
    Checked (Nat × ValueTable) :=
  if v.isStructured then do
    let (slot, t) ← t.insertInWords v
    match slot.bind fun slot => VarRef.make? scope frame slot.toNat with
    | some ref => return ((← ref.encodeInWords).toNat, t)
    | none => return (0, t)
  else return (0, t)

def rowInWords (t : ValueTable) (scope : ScopeKind) (frame : Nat) (name : String) (v : Value) :
    Checked (Variable × ValueTable) := do
  let text ← v.textInWords true
  let (handle, t) ← t.handleForInWords scope frame v
  return (⟨name, text, some v.typeName, handle⟩, t)

def rowsInWords (t : ValueTable) (scope : ScopeKind) (frame : Nat) :
    List (String × Value) → Checked (List Variable × ValueTable)
  | [] => return ([], t)
  | (name, v) :: rest => do
    let (row, t) ← t.rowInWords scope frame name v
    let (rows, t) ← t.rowsInWords scope frame rest
    return (row :: rows, t)

def watchRowInWords (t : ValueTable) (scope : ScopeKind) (frame : Nat) (w : Watch) :
    Checked (Variable × ValueTable) :=
  match w.value with
  | some v => t.rowInWords scope frame w.name v
  | none => return (Variable.leaf w.name "(undefined)" none, t)

def watchRowsInWords (t : ValueTable) (scope : ScopeKind) (frame : Nat) :
    List Watch → Checked (List Variable × ValueTable)
  | [] => return ([], t)
  | w :: rest => do
    let (row, t) ← t.watchRowInWords scope frame w
    let (rows, t) ← t.watchRowsInWords scope frame rest
    return (row :: rows, t)

def headRowsInWords (v : Value) : Checked (List Variable) :=
  match v with
  | .table .. => return headRows v
  | v => do
    let text ← v.textInWords false
    return .leaf "(value)" text (some v.typeName) :: (headRows v).tail

def expandInWords (t : ValueTable) (scope : ScopeKind) (frame : Nat) (v : Value) :
    Checked (List Variable × ValueTable) := do
  let heads ← headRowsInWords v
  let (rows, t) ← t.rowsInWords scope frame (children v)
  return (heads ++ rows, t)

section
variable {t : ValueTable} (h : t.Counted) (scope : ScopeKind) (frame : Nat)
include h

theorem yields_insert (v : Value) :
    Yields (t.insertInWords v) fun r => (r.1.map Word.toNat, r.2) = t.insert v := by
  simp only [Counted, VarRef.maxSlot] at h
  refine (yields_ofInt (by simp; omega)).bind fun next counted => ?_
  have same := Word.toNat_of_val counted
  rw [same]
  by_cases free : t.nextSlot ≤ VarRef.maxSlot
  · rw [if_pos free, insert_of_le free]
    refine (yields_ofInt (by simp; omega)).bind fun after _ => .pure ?_
    simp [same]
  · rw [if_neg free, insert_of_gt free]
    exact .pure rfl

theorem yields_handleFor (v : Value) :
    Yields (t.handleForInWords scope frame v) (· = t.handleFor scope frame v) := by
  unfold handleForInWords handleFor
  split
  · refine (yields_insert h v).bind fun r same => ?_
    rcases r with ⟨slot, u⟩
    rw [← same]
    simp only [Option.bind_map, Function.comp_def]
    cases made : slot.bind fun slot => VarRef.make? scope frame slot.toNat with
    | none => exact .pure rfl
    | some ref =>
      rcases Option.bind_eq_some_iff.mp made with ⟨slot, -, made⟩
      refine (VarRef.yields_encode (VarRef.make?_eq_some.mp made).1).bind fun handle written => ?_
      exact .pure (by rw [Word.toNat_of_val written])
  · exact .pure rfl

theorem yields_row (name : String) (v : Value) :
    Yields (t.rowInWords scope frame name v) (· = t.row scope frame name v) := by
  refine (v.yields_text true).bind fun text shown => ?_
  refine (yields_handleFor h scope frame v).bind fun r same => .pure ?_
  rw [same, shown]
  rfl

end

theorem Counted.row {t : ValueTable} (h : t.Counted) (scope : ScopeKind) (frame : Nat)
    (name : String) (v : Value) : (t.row scope frame name v).2.Counted :=
  (Issues.row .done).counted h

theorem yields_rows {t : ValueTable} (h : t.Counted) (scope : ScopeKind) (frame : Nat)
    (named : List (String × Value)) :
    Yields (t.rowsInWords scope frame named) (· = t.rows scope frame named) := by
  induction named generalizing t with
  | nil => exact .pure rfl
  | cons e named ih =>
    refine (yields_row h scope frame e.1 e.2).bind fun first same => ?_
    rw [same]
    refine (ih (h.row scope frame e.1 e.2)).bind fun others same => .pure ?_
    rw [same]
    rfl

theorem yields_watchRows {t : ValueTable} (h : t.Counted) (scope : ScopeKind) (frame : Nat)
    (watches : List Watch) :
    Yields (t.watchRowsInWords scope frame watches) (· = t.watchRows scope frame watches) := by
  induction watches generalizing t with
  | nil => exact .pure rfl
  | cons w watches ih =>
    rcases w with ⟨name, _ | v⟩
    · refine (ih h).bind fun others same => .pure ?_
      rw [same]
      rfl
    · refine (yields_row h scope frame name v).bind fun first same => ?_
      rw [same]
      refine (ih (h.row scope frame name v)).bind fun others same => .pure ?_
      rw [same]
      rfl

theorem yields_headRows (v : Value) : Yields (headRowsInWords v) (· = headRows v) := by
  cases v with
  | table => exact .pure rfl
  | _ =>
    refine (Value.yields_text false _).bind fun text same => .pure ?_
    rw [same]
    rfl

theorem yields_expand {t : ValueTable} (h : t.Counted) (scope : ScopeKind) (frame : Nat)
    (v : Value) : Yields (t.expandInWords scope frame v) (· = t.expand scope frame v) := by
  refine (yields_headRows v).bind fun heads shown => ?_
  refine (yields_rows h scope frame (children v)).bind fun rows same => .pure ?_
  rw [same, shown]
  rfl

end ValueTable

end DebugAdapter
