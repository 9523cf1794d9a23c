import DebugAdapter.Proofs.Variables.Issues

/-!
# What expanding a value stores

The rows of an expanded value are its head rows, and then one row for each child. Children
that have children of their own are stored as they are shown, each in the next free slot.
Once there is none they are shown without a handle, and the table stays as it is.
`expand_registers`: the handles of the rows name the children that were stored, and
nothing else has been stored.
-/

namespace DebugAdapter

-- ---------------------------------------------------------------------------
-- Children
-- ---------------------------------------------------------------------------

namespace Value

def child? (v : Value) (i : Nat) : Option (String × Value) :=
  match v with
  | .table _ _ _ _ entries => entries[i]?.map fun e => ("[" ++ e.1.debugText ++ "]", e.2)
  | .tuple items => items[i]?.map fun item => ("[" ++ Decimal.digitsText i ++ "]", item)
  | _ => none

/-- The rows at the head of a value: what a table is and how long, and for any other value
its text and what is known of its details. -/
inductive Heads : Value → List Variable → Prop
  | table {id : Nat} : Heads (.table id none prime length entries)
      [.leaf "(table #id)" (Decimal.digitsText id) (if prime then "prime table" else "table"),
        .leaf "(length)" (Decimal.digitsText length) "number"]
  | tableWithMetatable {id : Nat} : Heads (.table id (some metatable) prime length entries)
      [.leaf "(table #id)" (Decimal.digitsText id)
          (if prime then "prime table with metatable" else "table with metatable"),
        .leaf "(metatable #id)" (Decimal.digitsText metatable) "table",
        .leaf "(length)" (Decimal.digitsText length) "number"]
  | tuple : Heads (.tuple items) [.leaf "(value)" ("(" ++ displayItems items ++ ")") "tuple"]
  | nil : Heads .nil [.leaf "(value)" "nil" "nil"]
  | void : Heads .void [.leaf "(value)" "void" "void"]
  | boolean : Heads (.boolean b)
      [.leaf "(value)" (if b then "true" else "false") "boolean"]
  | number : Heads (.number x) [.leaf "(value)" (numberText x) "number"]
  | string : Heads (.string s) [.leaf "(value)" s "string"]
  | function : Heads (.function entryPoint upvalues)
      [.leaf "(value)" ("function: " ++ hexWord entryPoint) "function",
        .leaf "(address)" (hexWord entryPoint) none,
        .leaf "(upvalues)" (Decimal.digitsText upvalues) none]
  | hostFunction : Heads (.hostFunction (some name))
      [.leaf "(value)" ("hostfunction: " ++ name) "hostfunction", .leaf "(name)" name none]
  | unnamedHostFunction : Heads (.hostFunction none)
      [.leaf "(value)" "hostfunction: (unnamed)" "hostfunction",
        .leaf "(name)" "(unnamed)" none]
  | userData : Heads (.userData (some descriptor) object)
      [.leaf "(value)" ("userdata: " ++ descriptor) "userdata",
        .leaf "(descriptor)" descriptor none,
        .leaf "(native object)" (object.getD "(null)") none]
  | bareUserData : Heads (.userData none object)
      [.leaf "(value)" "userdata: ?" "userdata", .leaf "(descriptor)" "null!" "nil",
        .leaf "(native object)" (object.getD "(null)") none]
  | coroutine : Heads (.coroutine state kind autoYields)
      [.leaf "(value)" ("thread: " ++ state) "thread",
        .leaf "(coroutine state)" state none, .leaf "(coroutine type)" kind none,
        .leaf "(auto-yield counter)" (Decimal.digitsText autoYields) none]

def structuredBefore (v : Value) : Nat → Nat
  | 0 => 0
  | i + 1 => v.structuredBefore i + if (v.child? i).any fun c => c.2.isStructured then 1 else 0

end Value

/-- A row shows a child under a reference to its place in a table. If the child has
children of its own, and the table has such a place, it is found there. -/
structure Variable.Registers (row : Variable) (t : ValueTable) (ref : VarRef)
    (child : String × Value) : Prop where
  name : row.name = child.1
  value : row.value = child.2.debugText
  type : row.type = some child.2.typeName
  handle : if child.2.isStructured ∧ ref.slot ≤ VarRef.maxSlot then
      VarRef.decode row.handle = .ok ref ∧ t.get? ref.slot = some child.2
    else row.handle = 0

namespace ValueTable

-- ---------------------------------------------------------------------------
-- Storing values in a row
-- ---------------------------------------------------------------------------

def room (t : ValueTable) : Nat := VarRef.maxSlot + 1 - t.nextSlot

def store (t : ValueTable) (vs : List Value) : ValueTable :=
  { t with values := t.values ++ (vs.take t.room).toArray }

section
variable {t : ValueTable} {v : Value} {vs : List Value}

@[simp] theorem store_nil (t : ValueTable) : t.store [] = t := by
  simp [store]

theorem room_insert (free : t.nextSlot ≤ VarRef.maxSlot) (v : Value) :
    t.room = (t.insert v).2.room + 1 := by
  rw [room, room, nextSlot_insert free]
  omega

theorem room_of_full (full : ¬t.nextSlot ≤ VarRef.maxSlot) : t.room = 0 := by
  rw [room]
  omega

theorem store_of_full (full : ¬t.nextSlot ≤ VarRef.maxSlot) (vs : List Value) : t.store vs = t := by
  rw [store, room_of_full full]
  simp

theorem store_cons (t : ValueTable) (v : Value) (vs : List Value) :
    t.store (v :: vs) = (t.insert v).2.store vs := by
  by_cases free : t.nextSlot ≤ VarRef.maxSlot
  · rw [store, room_insert free v, List.take_succ_cons, store, insert_of_le free]
    simp
  · rw [insert_of_gt free, store_of_full free, store_of_full free]

theorem store_singleton (t : ValueTable) (v : Value) : t.store [v] = (t.insert v).2 := by
  rw [store_cons, store_nil]

theorem nextSlot_store (t : ValueTable) (vs : List Value) :
    (t.store vs).nextSlot = t.nextSlot + min t.room vs.length := by
  simp [nextSlot, store, Nat.add_assoc]

theorem store_append (t : ValueTable) (vs ws : List Value) :
    t.store (vs ++ ws) = (t.store vs).store ws := by
  induction vs generalizing t with
  | nil => rw [List.nil_append, store_nil]
  | cons v vs ih => rw [List.cons_append, store_cons, store_cons, ih]

theorem get?_store_of_lt {slot : Nat} (old : slot < t.nextSlot) (vs : List Value) :
    (t.store vs).get? slot = t.get? slot := by
  by_cases here : t.first ≤ slot
  · have place : slot - t.first < t.values.size := by
      simp only [nextSlot] at old
      omega
    simp [get?, store, here, Array.getElem?_append_left place]
  · simp [get?, store, here]

theorem get?_store (t : ValueTable) (vs : List Value) (i : Nat) :
    (t.store vs).get? (t.nextSlot + i) = (vs.take t.room)[i]? := by
  have there : t.first ≤ t.nextSlot + i := by
    simp only [nextSlot]
    omega
  have place : t.nextSlot + i - t.first = t.values.size + i := by
    simp only [nextSlot]
    omega
  simp [get?, store, there, place, Array.getElem?_append_right]

theorem get?_of_nextSlot_le {slot : Nat} (new : t.nextSlot ≤ slot) : t.get? slot = none := by
  cases found : t.get? slot with
  | none => rfl
  | some v => exact absurd (lt_nextSlot_of_get? found) (by omega)

theorem isSome_get?_store (t : ValueTable) (vs : List Value) (slot : Nat) :
    ((t.store vs).get? slot).isSome ↔
      (t.get? slot).isSome ∨ slot ∈ List.range' t.nextSlot (min t.room vs.length) := by
  rw [List.mem_range'_1]
  by_cases old : slot < t.nextSlot
  · rw [get?_store_of_lt old]
    simp only [Nat.not_le_of_lt old, false_and, or_false]
  · obtain ⟨i, rfl⟩ := Nat.exists_eq_add_of_le (Nat.le_of_not_lt old)
    rw [get?_store, get?_of_nextSlot_le (Nat.le_add_right ..), isSome_getElem?, List.length_take,
      Nat.add_lt_add_iff_left]
    simp

end

-- ---------------------------------------------------------------------------
-- Rows
-- ---------------------------------------------------------------------------

def structured (named : List (String × Value)) : List Value :=
  (named.map Prod.snd).filter Value.isStructured

section
variable {scope : ScopeKind} {frame : Nat} {named : List (String × Value)}

/-- The number under which a value is shown that would be stored in a slot. -/
def numberIn (scope : ScopeKind) (frame slot : Nat) (v : Value) : Nat :=
  if v.isStructured ∧ slot ≤ VarRef.maxSlot then (VarRef.mk scope frame slot).encode else 0

theorem handleFor_eq (fits : frame ≤ VarRef.maxFrame) (t : ValueTable) (v : Value) :
    t.handleFor scope frame v =
      (numberIn scope frame t.nextSlot v, t.store ([v].filter Value.isStructured)) := by
  unfold handleFor numberIn
  by_cases structured : v.isStructured
  · rw [List.filter_cons_of_pos structured, List.filter_nil, store_singleton]
    by_cases free : t.nextSlot ≤ VarRef.maxSlot
    · have made : VarRef.make? scope frame t.nextSlot = some ⟨scope, frame, t.nextSlot⟩ :=
        if_pos ⟨fits, free⟩
      simp [structured, free, insert_of_le free, made]
    · simp [structured, free, insert_of_gt free]
  · simp [structured]

theorem structured_append (a b : List (String × Value)) :
    structured (a ++ b) = structured a ++ structured b := by
  rw [structured, List.map_append, List.filter_append, structured, structured]

theorem structured_cons (e : String × Value) (named : List (String × Value)) :
    structured (e :: named) = [e.2].filter Value.isStructured ++ structured named :=
  structured_append [e] named

/-- Where the values before it do not all fit, a value has no slot of its own either. -/
theorem numberIn_nextSlot_store (t : ValueTable) (vs : List Value) (v : Value) :
    numberIn scope frame (t.store vs).nextSlot v =
      numberIn scope frame (t.nextSlot + vs.length) v := by
  rw [nextSlot_store]
  by_cases free : vs.length ≤ t.room
  · rw [Nat.min_eq_right free]
  · have room := Nat.lt_of_not_le free
    rw [Nat.min_eq_left (Nat.le_of_lt room), numberIn, numberIn, if_neg, if_neg]
    all_goals
      rintro ⟨-, low⟩
      simp only [ValueTable.room] at room low
      omega

theorem rows_snd (fits : frame ≤ VarRef.maxFrame) (t : ValueTable)
    (named : List (String × Value)) :
    (t.rows scope frame named).2 = t.store (structured named) := by
  induction named generalizing t with
  | nil => exact (store_nil t).symm
  | cons e named ih =>
    rw [structured_cons, store_append, ← ih]
    simp only [rows, row, handleFor_eq fits]

theorem getElem?_rows (fits : frame ≤ VarRef.maxFrame) (t : ValueTable)
    (named : List (String × Value)) (i : Nat) :
    (t.rows scope frame named).1[i]? = named[i]?.map fun e =>
      ⟨e.1, e.2.debugText, some e.2.typeName,
        numberIn scope frame (t.store (structured (named.take i))).nextSlot e.2⟩ := by
  induction named generalizing t i with
  | nil => rfl
  | cons e named ih =>
    simp only [rows, row, handleFor_eq fits]
    cases i with
    | zero => simp [structured]
    | succ i =>
      rw [List.getElem?_cons_succ, List.getElem?_cons_succ, ih, List.take_succ_cons,
        structured_cons, store_append]

theorem slots_rows (fits : frame ≤ VarRef.maxFrame) (t : ValueTable)
    (named : List (String × Value)) :
    (nonzero (numbers (t.rows scope frame named).1)).map VarRef.slotOf =
      List.range' t.nextSlot (min t.room (structured named).length) := by
  induction named generalizing t with
  | nil => simp [rows, numbers, structured]
  | cons e named ih =>
    have rest := ih (t.store ([e.2].filter Value.isStructured))
    simp only [rows, row, handleFor_eq fits, numbers, List.map_cons, structured_cons] at rest ⊢
    by_cases hasChildren : e.2.isStructured
    · rw [List.filter_cons_of_pos hasChildren, List.filter_nil] at rest ⊢
      by_cases free : t.nextSlot ≤ VarRef.maxSlot
      · have slot := VarRef.slotOf_encode (r := ⟨scope, frame, t.nextSlot⟩) ⟨fits, free⟩
        rw [store_singleton, nextSlot_insert free] at rest
        rw [numberIn, if_pos ⟨hasChildren, free⟩, nonzero_cons_encode, List.map_cons, slot,
          store_singleton, rest, room_insert free e.2, List.singleton_append, List.length_cons,
          Nat.succ_min_succ, List.range'_succ]
      · rw [numberIn, if_neg fun h => free h.2, Int.ofNat_zero, nonzero_cons_zero, rest,
          store_of_full free, room_of_full free, Nat.zero_min, Nat.zero_min]
    · rw [List.filter_cons_of_neg hasChildren, List.filter_nil, store_nil] at rest
      rw [numberIn, if_neg fun h => hasChildren h.1, Int.ofNat_zero, nonzero_cons_zero,
        List.filter_cons_of_neg hasChildren, List.filter_nil, store_nil, rest, List.nil_append]

end

-- ---------------------------------------------------------------------------
-- Expansion
-- ---------------------------------------------------------------------------

theorem heads_headRows (v : Value) : v.Heads (headRows v) := by
  cases v with
  | table id metatable prime length entries =>
    cases metatable <;> cases prime <;> constructor
  | hostFunction name => cases name <;> constructor
  | userData descriptor object => cases descriptor <;> constructor
  | _ => constructor

theorem getElem?_children (v : Value) (i : Nat) : (children v)[i]? = v.child? i := by
  cases v with
  | table id metatable prime length entries => simp [children, Value.child?, bracketed]
  | tuple items =>
    simp only [children, Value.child?, bracketed, List.getElem?_map, List.getElem?_zipIdx,
      Option.map_map, Nat.zero_add]
    rfl
  | _ => rfl

theorem structuredBefore_eq (v : Value) (i : Nat) :
    v.structuredBefore i = (structured ((children v).take i)).length := by
  induction i with
  | zero => simp [Value.structuredBefore, structured]
  | succ i ih =>
    rw [Value.structuredBefore, ih, List.take_add_one, getElem?_children]
    cases v.child? i with
    | none => simp
    | some c =>
      simp only [structured, Option.any_some, Option.toList_some, List.map_append, List.map_cons,
        List.map_nil, List.filter_append, List.length_append]
      by_cases hasChildren : c.2.isStructured <;> simp [hasChildren]

theorem getElem?_structured {named : List (String × Value)} {i : Nat} {e : String × Value}
    (there : named[i]? = some e) (hasChildren : e.2.isStructured) :
    (structured named)[(structured (named.take i)).length]? = some e.2 := by
  obtain ⟨place, rfl⟩ := List.getElem?_eq_some_iff.mp there
  have whole : named = named.take i ++ named[i] :: named.drop (i + 1) := by
    rw [← List.drop_eq_getElem_cons place, List.take_append_drop]
  have parts : structured named =
      structured (named.take i) ++ named[i].2 :: structured (named.drop (i + 1)) := by
    refine (congrArg structured whole).trans ?_
    rw [structured_append, structured_cons, List.filter_cons_of_pos hasChildren, List.filter_nil,
      List.singleton_append]
  rw [parts, List.getElem?_append_right (Nat.le_refl _), Nat.sub_self, List.getElem?_cons_zero]

section
variable {scope : ScopeKind} {frame : Nat} (t : ValueTable) (v : Value)

theorem registers_rows (fits : frame ≤ VarRef.maxFrame) {i : Nat} {row : Variable}
    {child : String × Value} (shown : (t.rows scope frame (children v)).1[i]? = some row)
    (there : v.child? i = some child) :
    row.Registers (t.rows scope frame (children v)).2
      ⟨scope, frame, t.nextSlot + v.structuredBefore i⟩ child := by
  rw [getElem?_rows fits, getElem?_children, there, Option.map_some, numberIn_nextSlot_store,
    ← structuredBefore_eq] at shown
  cases shown
  refine ⟨rfl, rfl, rfl, ?_⟩
  split
  · rename_i stored
    obtain ⟨hasChildren, free⟩ := stored
    have kept : v.structuredBefore i < t.room := by
      rw [room]
      dsimp only at free
      omega
    refine ⟨?_, ?_⟩
    · rw [numberIn, if_pos ⟨hasChildren, free⟩]
      exact VarRef.decode_encode ⟨fits, free⟩
    · rw [rows_snd fits, get?_store, List.getElem?_take_of_lt kept, structuredBefore_eq]
      exact getElem?_structured (by rw [getElem?_children, there]) hasChildren
  · rename_i unstored
    exact if_neg unstored

theorem slots_expand (fits : frame ≤ VarRef.maxFrame) :
    (nonzero (numbers (t.expand scope frame v).1)).map VarRef.slotOf =
      List.range' t.nextSlot (min t.room (structured (children v)).length) := by
  have heads : nonzero (numbers (headRows v)) = [] :=
    List.filter_eq_nil_iff.mpr fun n shown => by
      obtain ⟨row, mem, rfl⟩ := List.mem_map.mp shown
      simp [handle_headRows v row mem]
  rw [← slots_rows fits, expand, numbers, List.map_append, nonzero_append]
  exact congrArg (List.map VarRef.slotOf) (congrArg (· ++ _) heads)

/-- Below the head rows of an expanded value, which tell of its kind, there is one row for
each child, in order. Children that have children of their own are stored one after the
other in the next free slots, and the handles of their rows name them there; when the slots
are used up, and for all other rows, there is no handle. The table gains these slots and no
others, and what was stored before stays. -/
theorem expand_registers (fits : frame ≤ VarRef.maxFrame) :
    let rows := (t.expand scope frame v).1
    let after := (t.expand scope frame v).2
    (∃ head below, rows = head ++ below ∧ v.Heads head ∧ (∀ row ∈ head, row.handle = 0) ∧
      ∀ i, (below[i]? = none ↔ v.child? i = none) ∧
        ∀ row child, below[i]? = some row → v.child? i = some child →
          row.Registers after ⟨scope, frame, t.nextSlot + v.structuredBefore i⟩ child) ∧
    (nonzero (numbers rows)).Pairwise (VarRef.slotOf · < VarRef.slotOf ·) ∧
    (∀ n ∈ nonzero (numbers rows), t.get? (VarRef.slotOf n) = none) ∧
    (∀ slot, (after.get? slot).isSome ↔
      (t.get? slot).isSome ∨ ∃ n ∈ nonzero (numbers rows), VarRef.slotOf n = slot) ∧
    ∀ slot w, t.get? slot = some w → after.get? slot = some w := by
  intro rows after
  have issues : t.Issues (numbers rows) (subjects v) after := t.issues_expand scope frame v
  obtain ⟨ascend, fresh⟩ := issues.ascending
  refine ⟨⟨headRows v, (t.rows scope frame (children v)).1, rfl, heads_headRows v,
    handle_headRows v, fun i => ⟨?_, ?_⟩⟩, ascend,
    fun n shown => get?_of_nextSlot_le (fresh n shown).1, fun slot => ?_,
    fun slot w held => issues.grows.get? held⟩
  · rw [getElem?_rows fits, getElem?_children, Option.map_eq_none_iff]
  · exact fun row child => t.registers_rows v fits
  · have stored : after = t.store (structured (children v)) := rows_snd fits t (children v)
    rw [stored, isSome_get?_store, ← slots_expand t v fits, List.mem_map]

end

/-- With one slot left, the first child that needs one gets it, and the next one none; a
value without children has its head rows only. -/
theorem last_slot_registers :
    let t : ValueTable := ⟨2097151, #[]⟩
    let v := Value.table 7 (some 5) true 2
      [(.string "x", .boolean true), (.string "y", .tuple []), (.string "z", .tuple [.nil])]
    let rows := (t.expand .closure 3 v).1
    let after := (t.expand .closure 3 v).2
    ∃ x y z, rows = [⟨"(table #id)", "7", "prime table with metatable", 0⟩,
        ⟨"(metatable #id)", "5", "table", 0⟩, ⟨"(length)", "2", "number", 0⟩, x, y, z] ∧
      x.handle = 0 ∧ VarRef.decode y.handle = .ok ⟨.closure, 3, 2097151⟩ ∧
      after.get? 2097151 = some (.tuple []) ∧ z.handle = 0 ∧
      (t.expand .closure 3 (.userData none (some "file"))).1 =
        [⟨"(value)", "userdata: ?", "userdata", 0⟩, ⟨"(descriptor)", "null!", "nil", 0⟩,
          ⟨"(native object)", "file", none, 0⟩] := by
  intro t v rows after
  obtain ⟨⟨_, rest, details, kind, -, ends⟩, -⟩ :=
    @expand_registers .closure 3 t (.userData none (some "file")) (by decide)
  cases kind
  obtain rfl : rest = [] := List.eq_nil_of_length_eq_zero
    (Nat.eq_zero_of_le_zero (List.getElem?_eq_none_iff.mp ((ends 0).1.mpr rfl)))
  obtain ⟨⟨head, below, all, heads, -, shown⟩, -⟩ := @expand_registers .closure 3 t v (by decide)
  replace heads : (Value.table 7 (some 5) true 2 _).Heads head := heads
  cases heads
  match below, all, shown with
  | [x, y, z], all, shown =>
    have first := ((shown 0).2 x _ rfl rfl).handle
    have second := ((shown 1).2 y _ rfl rfl).handle
    have third := ((shown 2).2 z _ rfl rfl).handle
    rw [if_neg (by decide)] at first third
    rw [if_pos (by decide)] at second
    exact ⟨x, y, z, all, first, second.1, second.2, third, details⟩
  | [], _, shown => cases (shown 0).1.mp rfl
  | [_], _, shown => cases (shown 1).1.mp rfl
  | [_, _], _, shown => cases (shown 2).1.mp rfl
  | _ :: _ :: _ :: _ :: _, _, shown => cases (shown 3).1.mpr rfl

end ValueTable

end DebugAdapter
