import DebugAdapter.Proofs.Json.RoundTrip

/-!
# How deep values nest

The reader goes into fewer containers than `depthLimit`, one inside the other. A value that
nests deeper than that is not read at all, wherever its deepest part stands
(`Regular.parse?`).
-/

namespace DebugAdapter

namespace Json

mutual

def nesting : Json → Nat
  | .arr items => itemsNesting items + 1
  | .obj members => membersNesting members + 1
  | _ => 0

def itemsNesting : List Json → Nat
  | [] => 0
  | j :: js => max j.nesting (itemsNesting js)

def membersNesting : List (String × Json) → Nat
  | [] => 0
  | m :: ms => max m.2.nesting (membersNesting ms)

end

/-- A value of the format, however deep it nests: integers of 64 bits, floating-point numbers
that their own digits give back, and objects that have their members sorted. -/
def Regular (j : Json) : Prop := ∃ n, Canonical n j

section
variable {n : Nat}

theorem itemsNesting_le {js : List Json} : itemsNesting js ≤ n ↔ ∀ j ∈ js, j.nesting ≤ n := by
  induction js with
  | nil => simp [itemsNesting]
  | cons j js ih => rw [itemsNesting, Nat.max_le, ih, List.forall_mem_cons]

theorem membersNesting_le {ms : List (String × Json)} :
    membersNesting ms ≤ n ↔ ∀ m ∈ ms, m.2.nesting ≤ n := by
  induction ms with
  | nil => simp [membersNesting]
  | cons m ms ih => rw [membersNesting, Nat.max_le, ih, List.forall_mem_cons]

theorem Canonical.iff_nesting_le {m : Nat} {j : Json} (h : Canonical m j) :
    Canonical n j ↔ j.nesting ≤ n := by
  induction h generalizing n with
  | null => simp [nesting]
  | bool b => simp [nesting]
  | int low high => simp [nesting, low, high]
  | float back => exact ⟨fun _ => Nat.zero_le _, fun _ => .float back⟩
  | str s => simp [nesting]
  | arr _ items =>
    cases n with
    | zero => exact ⟨nofun, nofun⟩
    | succ n =>
      rw [canonical_arr, nesting, Nat.succ_le_succ_iff, itemsNesting_le]
      exact forall₂_congr fun j mem => items j mem
  | obj sorted _ values =>
    cases n with
    | zero => exact ⟨nofun, nofun⟩
    | succ n =>
      rw [canonical_obj, nesting, Nat.succ_le_succ_iff, membersNesting_le, and_iff_right sorted]
      exact forall₂_congr fun m mem => values m mem

end

def inArrays : Nat → Json → Json
  | 0, j => j
  | n + 1, j => .arr [inArrays n j]

section
variable (n : Nat) {j : Json}

theorem nesting_inArrays : (inArrays n j).nesting = j.nesting + n := by
  induction n with
  | zero => rfl
  | succ n ih => rw [inArrays, nesting, itemsNesting, itemsNesting, Nat.max_zero, ih, Nat.add_assoc]

theorem Regular.inArrays (h : Regular j) : Regular (inArrays n j) := by
  obtain ⟨m, canonical⟩ := h
  refine ⟨m + n, ?_⟩
  induction n with
  | zero => exact canonical
  | succ n ih => exact .arr (List.forall_mem_singleton.mpr ih)

end

theorem Regular.start {j : Json} (h : Regular j) :
    ∃ c cs, chars j = c :: cs ∧ isSpace c = false ∧ c ≠ ']' := by
  obtain ⟨m, canonical⟩ := h
  exact canonical.reads.start

theorem Regular.skipSpace {j : Json} (h : Regular j) (rest : List Char) :
    Json.skipSpace (chars j ++ rest) = chars j ++ rest := by
  obtain ⟨m, canonical⟩ := h
  exact canonical.reads.skipSpace rest

/-- The text of `j` is not read where `n` more containers may open. -/
def Refuses (n : Nat) (j : Json) : Prop :=
  ∀ ⦃fuel rest⦄, 2 * (chars j).length ≤ fuel → Ends rest →
    value? fuel (n + 1) (chars j ++ rest) = none

structure Bounded (n : Nat) (j : Json) : Prop where
  regular : Regular j
  reads : j.nesting ≤ n → Reads n j j
  refuses : n < j.nesting → Refuses n j

-- ---------------------------------------------------------------------------
-- Arrays
-- ---------------------------------------------------------------------------

theorem items?_more_none (h : value? fuel depth cs = some (j, ',' :: rest))
    (more : items? fuel depth (skipSpace rest) = none) : items? (fuel + 1) depth cs = none := by
  rw [items?, h]
  exact congrArg (Option.map _) more

theorem value?_arr_none {cs : List Char} (start : cs = c :: cs' ∧ isSpace c = false ∧ c ≠ ']')
    (h : items? fuel (depth + 1) cs = none) : value? (fuel + 1) (depth + 2) ('[' :: cs) = none := by
  obtain ⟨rfl, blank, close⟩ := start
  rw [value?, if_neg (by omega), skipSpace_cons blank]
  split
  · rename_i same
    exact absurd (List.cons.inj same).1 close
  · exact congrArg (Option.map _) h

theorem items?_none {n fuel : Nat} (j : Json) (js : List Json) (items : ∀ i ∈ j :: js, Bounded n i)
    (deep : n < itemsNesting (j :: js)) (enough : 2 * (chars j ++ tailChars js).length < fuel)
    (rest : List Char) : items? fuel (n + 1) (chars j ++ (tailChars js ++ rest)) = none := by
  -- the items before the first that is too deep are read
  induction js generalizing j fuel with
  | nil =>
    rw [itemsNesting, itemsNesting, Nat.max_zero] at deep
    rw [List.length_append] at enough
    have refuses := (items j List.mem_cons_self).refuses deep
    cases fuel with
    | zero => rfl
    | succ fuel => rw [items?, refuses (by omega) (ends_tailChars [] rest)]
  | cons i js ih =>
    simp only [List.length_append, tailChars, List.length_cons] at enough
    obtain ⟨here, others⟩ := List.forall_mem_cons.mp items
    cases fuel with
    | zero => rfl
    | succ fuel =>
      by_cases flat : j.nesting ≤ n
      · have read := here.reads flat (by omega : _ ≤ fuel) (ends_tailChars (i :: js) rest)
        simp only [tailChars, List.cons_append, List.append_assoc] at read ⊢
        refine items?_more_none read ?_
        rw [(others i List.mem_cons_self).regular.skipSpace]
        rw [itemsNesting] at deep
        exact ih i others (by omega) (by rw [List.length_append]; omega)
      · have refuses := here.refuses (Nat.lt_of_not_le flat)
        rw [items?, refuses (by omega) (ends_tailChars (i :: js) rest)]

theorem refuses_arr {n : Nat} {js : List Json} (items : ∀ j ∈ js, Bounded n j)
    (deep : n < itemsNesting js) : Refuses (n + 1) (.arr js) := by
  intro fuel rest enough ends
  cases fuel with
  | zero => rfl
  | succ fuel =>
    cases js with
    | nil => cases deep
    | cons j js =>
      obtain ⟨c, cs, start, blank, close⟩ := (items j List.mem_cons_self).regular.start
      simp only [chars, List.cons_append, List.length_cons, List.append_assoc] at enough ⊢
      exact value?_arr_none ⟨by rw [start]; rfl, blank, close⟩
        (items?_none j js items deep (by omega) rest)

-- ---------------------------------------------------------------------------
-- Objects
-- ---------------------------------------------------------------------------

theorem members?_value_none {name : String} (h : value? fuel depth (skipSpace cs) = none) :
    members? (fuel + 1) depth (strChars name ++ ':' :: cs) = none := by
  rw [members?_strChars, h]
  rfl

theorem members?_more_none {name : String}
    (h : value? fuel depth (skipSpace cs) = some (j, ',' :: rest))
    (more : members? fuel depth (skipSpace rest) = none) :
    members? (fuel + 1) depth (strChars name ++ ':' :: cs) = none := by
  rw [members?_strChars, h]
  exact congrArg (Option.map _) more

theorem value?_obj_none (name : String)
    (h : members? fuel (depth + 1) (strChars name ++ cs) = none) :
    value? (fuel + 1) (depth + 2) ('\x7b' :: (strChars name ++ cs)) = none := by
  rw [strChars_append] at *
  rw [value?, if_neg (by omega), skipSpace_cons rfl]
  exact congrArg (Option.map _) h

theorem members?_none {n fuel : Nat} (m : String × Json) (ms : List (String × Json))
    (values : ∀ m' ∈ m :: ms, Bounded n m'.2) (deep : n < membersNesting (m :: ms))
    (enough : 2 * (chars m.2 ++ memberChars ms).length < fuel) (rest : List Char) :
    members? fuel (n + 1) (strChars m.1 ++ ':' :: (chars m.2 ++ (memberChars ms ++ rest))) =
      none := by
  induction ms generalizing m fuel with
  | nil =>
    rw [membersNesting, membersNesting, Nat.max_zero] at deep
    rw [List.length_append] at enough
    have value := values m List.mem_cons_self
    cases fuel with
    | zero => rfl
    | succ fuel =>
      refine members?_value_none ?_
      rw [value.regular.skipSpace]
      exact value.refuses deep (by omega) (ends_memberChars [] rest)
  | cons m' ms ih =>
    simp only [List.length_append, memberChars, List.length_cons] at enough
    obtain ⟨value, others⟩ := List.forall_mem_cons.mp values
    cases fuel with
    | zero => rfl
    | succ fuel =>
      by_cases flat : m.2.nesting ≤ n
      · have read := value.reads flat (by omega : _ ≤ fuel) (ends_memberChars (m' :: ms) rest)
        rw [← value.regular.skipSpace] at read
        simp only [memberChars, List.cons_append, List.append_assoc] at read ⊢
        refine members?_more_none read ?_
        rw [skipSpace_strChars]
        rw [membersNesting] at deep
        exact ih m' others (by omega) (by rw [List.length_append]; omega)
      · refine members?_value_none ?_
        rw [value.regular.skipSpace]
        exact value.refuses (Nat.lt_of_not_le flat) (by omega) (ends_memberChars (m' :: ms) rest)

theorem refuses_obj {n : Nat} {ms : List (String × Json)} (values : ∀ m ∈ ms, Bounded n m.2)
    (deep : n < membersNesting ms) : Refuses (n + 1) (.obj ms) := by
  intro fuel rest enough ends
  cases fuel with
  | zero => rfl
  | succ fuel =>
    cases ms with
    | nil => cases deep
    | cons m ms =>
      simp only [chars, List.cons_append, List.length_cons, List.length_append, List.append_assoc]
        at enough ⊢
      refine value?_obj_none m.1 (members?_none m ms values deep ?_ rest)
      rw [List.length_append]
      omega

-- ---------------------------------------------------------------------------
-- All values
-- ---------------------------------------------------------------------------

theorem refuses_container {j : Json} {c : Char} (container : c = '[' ∨ c = '\x7b')
    (start : (chars j).head? = some c) : Refuses 0 j := by
  intro fuel rest enough ends
  obtain ⟨cs, written⟩ := List.head?_eq_some_iff.mp start
  cases fuel with
  | zero => rfl
  | succ fuel => obtain rfl | rfl := container <;> rw [written] <;> rfl

theorem Canonical.bounded {m : Nat} {j : Json} (h : Canonical m j) (n : Nat) : Bounded n j := by
  refine ⟨⟨m, h⟩, fun flat => (h.iff_nesting_le.mpr flat).reads, fun deep => ?_⟩
  induction h generalizing n with
  | @arr js _ canonical items =>
    cases n with
    | zero => exact refuses_container (.inl rfl) (by cases js <;> rfl)
    | succ n =>
      refine refuses_arr (fun i mem => ⟨⟨_, canonical i mem⟩, ?_, items i mem n⟩) ?_
      · exact fun flat => ((canonical i mem).iff_nesting_le.mpr flat).reads
      · exact Nat.lt_of_succ_lt_succ deep
  | @obj ms _ sorted canonical values =>
    cases n with
    | zero => exact refuses_container (.inr rfl) (by cases ms <;> rfl)
    | succ n =>
      refine refuses_obj (fun k mem => ⟨⟨_, canonical k mem⟩, ?_, values k mem n⟩) ?_
      · exact fun flat => ((canonical k mem).iff_nesting_le.mpr flat).reads
      · exact Nat.lt_of_succ_lt_succ deep
  | _ => cases deep

theorem Refuses.parse? {j : Json} (h : Refuses 127 j) (regular : Regular j) :
    Json.parse? j.print = none := by
  have read : value? (2 * (chars j).length + 2) depthLimit (chars j ++ []) = none :=
    h (by omega) nofun
  have start := regular.skipSpace []
  rw [List.append_nil] at read start
  rw [Json.parse?, print, String.toList_ofList, parseChars?, start, read]

/-- A value of the format is read back from its text if it nests less deep than the limit,
and is not read otherwise. -/
theorem Regular.parse? {j : Json} (h : Regular j) :
    Json.parse? j.print = if j.nesting < depthLimit then some j else none := by
  obtain ⟨m, canonical⟩ := h
  have bounded := canonical.bounded 127
  split
  · rename_i flat
    exact (bounded.reads (Nat.le_of_lt_succ flat)).parse?
  · rename_i deep
    exact (bounded.refuses (Nat.lt_of_not_le fun flat => deep (Nat.lt_succ_of_le flat))).parse?
      bounded.regular

end Json

end DebugAdapter
