import DebugAdapter.Proofs.Json.Members
import DebugAdapter.Proofs.Json.Tokens

/-!
# Reading what is written

A value of the format is read back as itself, as long as it nests no deeper
than the reader goes. An object whose members stand in another order is read
back with its members sorted.
-/

namespace DebugAdapter

namespace Json

/-- Values of the format that nest at most `n` deep: integers of 64 bits,
floating-point numbers that their own digits give back, and objects that have
their members sorted. -/
inductive Canonical : Nat → Json → Prop
  | null : Canonical n .null
  | bool (b : Bool) : Canonical n (.bool b)
  | int (low : minInt64 ≤ i) (high : i ≤ maxUInt64) : Canonical n (.int i)
  | float (back : number? (floatChars x) = some (.float x, [])) : Canonical n (.float x)
  | str (s : String) : Canonical n (.str s)
  | arr (items : ∀ j ∈ js, Canonical n j) : Canonical (n + 1) (.arr js)
  | obj (sorted : ms.Pairwise fun a b => a.1 < b.1) (values : ∀ m ∈ ms, Canonical n m.2) :
    Canonical (n + 1) (.obj ms)

section
variable {n : Nat}

@[simp] theorem canonical_null : Canonical n .null := .null

@[simp] theorem canonical_bool (b : Bool) : Canonical n (.bool b) := .bool b

@[simp] theorem canonical_str (s : String) : Canonical n (.str s) := .str s

@[simp] theorem canonical_int {i : Int} : Canonical n (.int i) ↔ minInt64 ≤ i ∧ i ≤ maxUInt64 := by
  constructor
  · intro h
    cases h with
    | int low high => exact ⟨low, high⟩
  · exact fun h => .int h.1 h.2

@[simp] theorem canonical_arr {js : List Json} :
    Canonical (n + 1) (.arr js) ↔ ∀ j ∈ js, Canonical n j := by
  constructor
  · intro h
    cases h with
    | arr items => exact items
  · exact .arr

@[simp] theorem canonical_obj {ms : List (String × Json)} :
    Canonical (n + 1) (.obj ms) ↔
      ms.Pairwise (fun a b => a.1 < b.1) ∧ ∀ m ∈ ms, Canonical n m.2 := by
  constructor
  · intro h
    cases h with
    | obj sorted values => exact ⟨sorted, values⟩
  · exact fun h => .obj h.1 h.2

end

/-- The text of `j` is read as `j'` where `n` more containers may open, whatever
stands after it. A character pays for two calls: the one that reads an item or a
member, and the one that reads its value. -/
def Reads (n : Nat) (j j' : Json) : Prop :=
  ∀ ⦃fuel rest⦄, 2 * (chars j).length ≤ fuel → Ends rest →
    value? fuel (n + 1) (chars j ++ rest) = some (j', rest)

-- ---------------------------------------------------------------------------
-- Heads
-- ---------------------------------------------------------------------------

theorem skipSpace_cons {c : Char} (h : isSpace c = false) (cs : List Char) :
    skipSpace (c :: cs) = c :: cs := List.dropWhile_cons_of_neg (by simp [h])

theorem plain_of_isDigit {c : Char} (digit : c.isDigit) : isSpace c = false ∧ c ≠ ']' := by
  have other (d : Char) (plain : d.isDigit = false) : c ≠ d := by
    rintro rfl
    rw [digit] at plain
    cases plain
  refine ⟨?_, other ']' rfl⟩
  simp only [isSpace, other ' ' rfl, other '\n' rfl, other '\t' rfl, other '\r' rfl,
    decide_false, Bool.or_self]

theorem value?_start (h : value? fuel depth cs = some p) :
    ∃ c cs', cs = c :: cs' ∧ isSpace c = false ∧ c ≠ ']' := by
  cases cs with
  | nil => cases fuel <;> simp [value?, unsigned?, whole?, takeDigits] at h
  | cons c cs =>
    refine ⟨c, cs, rfl, ?_⟩
    cases fuel with
    | zero => simp [value?] at h
    | succ fuel =>
      rw [value?.eq_def] at h
      dsimp only at h
      split at h
      case h_8 => exact plain_of_isDigit (unsigned?_head h)
      all_goals
        rename_i same
        cases same
        exact ⟨rfl, by decide⟩

theorem Reads.start {n : Nat} {j j' : Json} (h : Reads n j j') :
    ∃ c cs, chars j = c :: cs ∧ isSpace c = false ∧ c ≠ ']' := by
  have read : value? _ _ (chars j ++ []) = some (j', []) := h (Nat.le_refl _) nofun
  rw [List.append_nil] at read
  exact value?_start read

theorem Reads.skipSpace {n : Nat} {j j' : Json} (h : Reads n j j') (rest : List Char) :
    Json.skipSpace (chars j ++ rest) = chars j ++ rest := by
  obtain ⟨c, cs, start, blank, -⟩ := h.start
  rw [start]
  exact skipSpace_cons blank _

-- ---------------------------------------------------------------------------
-- Arrays
-- ---------------------------------------------------------------------------

theorem items?_last (h : value? fuel depth cs = some (j, ']' :: rest)) :
    items? (fuel + 1) depth cs = some ([j], rest) := by
  rw [items?, h]
  rfl

theorem items?_more (h : value? fuel depth cs = some (j, ',' :: rest))
    (more : items? fuel depth (skipSpace rest) = some (js, rest')) :
    items? (fuel + 1) depth cs = some (j :: js, rest') := by
  rw [items?, h]
  exact congrArg (Option.map _) more

theorem value?_arr {cs : List Char} (start : cs = c :: cs' ∧ isSpace c = false ∧ c ≠ ']')
    (h : items? fuel (depth + 1) cs = some (js, rest)) :
    value? (fuel + 1) (depth + 2) ('[' :: cs) = some (.arr js, rest) := by
  obtain ⟨rfl, blank, close⟩ := start
  rw [value?, if_neg (by omega), skipSpace_cons blank]
  split
  · rename_i same
    exact absurd (List.cons.inj same).1 close
  · exact congrArg (Option.map _) h

theorem ends_tailChars (js : List Json) (rest : List Char) : Ends (tailChars js ++ rest) := by
  intro c head
  cases js <;> cases head <;> decide

theorem items?_chars {n fuel : Nat} (j : Json) (js : List Json) (items : ∀ i ∈ j :: js, Reads n i i)
    (enough : 2 * (chars j ++ tailChars js).length < fuel) (rest : List Char) :
    items? fuel (n + 1) (chars j ++ (tailChars js ++ rest)) = some (j :: js, rest) := by
  -- on the further items; each comes with its own fuel
  induction js generalizing j fuel with
  | nil =>
    rw [List.length_append] at enough
    cases fuel with
    | zero => omega
    | succ fuel =>
      exact items?_last (items j List.mem_cons_self (by omega) (ends_tailChars [] rest))
  | cons i js ih =>
    simp only [List.length_append, tailChars, List.length_cons] at enough
    cases fuel with
    | zero => omega
    | succ fuel =>
      have others := fun k mem => items k (List.mem_cons_of_mem j mem)
      have read := items j List.mem_cons_self (by omega : _ ≤ fuel) (ends_tailChars (i :: js) rest)
      simp only [tailChars, List.cons_append, List.append_assoc] at read ⊢
      refine items?_more read ?_
      rw [(others i List.mem_cons_self).skipSpace]
      exact ih i others (by rw [List.length_append]; omega)

theorem reads_arr {n : Nat} {js : List Json} (items : ∀ j ∈ js, Reads n j j) :
    Reads (n + 1) (.arr js) (.arr js) := by
  intro fuel rest enough ends
  cases fuel with
  | zero => cases js <;> simp [chars] at enough
  | succ fuel =>
    cases js with
    | nil => rfl
    | cons j js =>
      obtain ⟨c, cs, start, blank, close⟩ := (items j List.mem_cons_self).start
      simp only [chars, List.cons_append, List.length_cons, List.append_assoc] at enough ⊢
      exact value?_arr ⟨by rw [start]; rfl, blank, close⟩ (items?_chars j js items (by omega) rest)

-- ---------------------------------------------------------------------------
-- Objects
-- ---------------------------------------------------------------------------

theorem members?_strChars (fuel depth : Nat) (name : String) (cs : List Char) :
    members? (fuel + 1) depth (strChars name ++ ':' :: cs) =
      (value? fuel depth (skipSpace cs)).bind fun p =>
        match skipSpace p.2 with
        | ',' :: rest =>
          (members? fuel depth (skipSpace rest)).map fun q => ((name, p.1) :: q.1, q.2)
        | '\x7d' :: rest => some ([(name, p.1)], rest)
        | _ => none := by
  have colon : skipSpace (':' :: cs) = ':' :: cs := skipSpace_cons rfl cs
  rw [strChars_append, members?, stringBody_flatMap_escape]
  simp only [colon, String.ofList_toList]
  cases value? fuel depth (skipSpace cs) <;> rfl

theorem members?_last {name : String}
    (h : value? fuel depth (skipSpace cs) = some (j, '\x7d' :: rest)) :
    members? (fuel + 1) depth (strChars name ++ ':' :: cs) = some ([(name, j)], rest) := by
  rw [members?_strChars, h]
  rfl

theorem members?_more {name : String} (h : value? fuel depth (skipSpace cs) = some (j, ',' :: rest))
    (more : members? fuel depth (skipSpace rest) = some (ms, rest')) :
    members? (fuel + 1) depth (strChars name ++ ':' :: cs) = some ((name, j) :: ms, rest') := by
  rw [members?_strChars, h]
  exact congrArg (Option.map _) more

theorem value?_obj (name : String)
    (h : members? fuel (depth + 1) (strChars name ++ cs) = some (ms, rest)) :
    value? (fuel + 1) (depth + 2) ('\x7b' :: (strChars name ++ cs)) = some (object ms, rest) := by
  rw [strChars_append] at *
  rw [value?, if_neg (by omega), skipSpace_cons rfl]
  exact congrArg (Option.map _) h

theorem ends_memberChars (ms : List (String × Json)) (rest : List Char) :
    Ends (memberChars ms ++ rest) := by
  intro c head
  cases ms <;> cases head <;> decide

theorem skipSpace_strChars (name : String) (rest : List Char) :
    skipSpace (strChars name ++ rest) = strChars name ++ rest := by
  rw [strChars_append]
  exact skipSpace_cons rfl _

theorem members?_chars {n fuel : Nat} (m : String × Json) (ms : List (String × Json))
    (values : ∀ m' ∈ m :: ms, Reads n m'.2 m'.2)
    (enough : 2 * (chars m.2 ++ memberChars ms).length < fuel) (rest : List Char) :
    members? fuel (n + 1) (strChars m.1 ++ ':' :: (chars m.2 ++ (memberChars ms ++ rest))) =
      some (m :: ms, rest) := by
  have value := values m List.mem_cons_self
  induction ms generalizing m fuel with
  | nil =>
    rw [List.length_append] at enough
    cases fuel with
    | zero => omega
    | succ fuel =>
      refine members?_last ?_
      rw [value.skipSpace]
      exact value (by omega) (ends_memberChars [] rest)
  | cons m' ms ih =>
    simp only [List.length_append, memberChars, List.length_cons] at enough
    cases fuel with
    | zero => omega
    | succ fuel =>
      have others := fun k mem => values k (List.mem_cons_of_mem m mem)
      have read := value (by omega : _ ≤ fuel) (ends_memberChars (m' :: ms) rest)
      rw [← value.skipSpace] at read
      simp only [memberChars, List.cons_append, List.append_assoc] at read ⊢
      refine members?_more read ?_
      rw [skipSpace_strChars]
      exact ih m' others (by rw [List.length_append]; omega) (others m' List.mem_cons_self)

theorem reads_obj {n : Nat} {ms : List (String × Json)} (values : ∀ m ∈ ms, Reads n m.2 m.2) :
    Reads (n + 1) (.obj ms) (object ms) := by
  intro fuel rest enough ends
  cases fuel with
  | zero => cases ms <;> simp [chars] at enough
  | succ fuel =>
    cases ms with
    | nil => rfl
    | cons m ms =>
      simp only [chars, List.cons_append, List.length_cons, List.length_append, List.append_assoc]
        at enough ⊢
      refine value?_obj m.1 (members?_chars m ms values ?_ rest)
      rw [List.length_append]
      omega

-- ---------------------------------------------------------------------------
-- All values
-- ---------------------------------------------------------------------------

theorem reads_number {j : Json} (n : Nat) (h : number? (chars j) = some (j, [])) : Reads n j j := by
  intro fuel rest enough ends
  have read := local_number? h ends
  cases start : chars j with
  | nil =>
    rw [start] at h
    cases h
  | cons c cs =>
    rw [start] at h read enough
    cases fuel with
    | zero => simp at enough
    | succ fuel => exact (value?_number (number?_head h) ..).trans read

theorem reads_str (n : Nat) (s : String) : Reads n (.str s) (.str s) := by
  intro fuel rest enough ends
  cases fuel with
  | zero => simp [chars, strChars] at enough
  | succ fuel =>
    rw [chars, strChars_append, value?, stringBody_flatMap_escape]
    simp only [Option.map_some, String.ofList_toList]

theorem Canonical.reads {n : Nat} {j : Json} (h : Canonical n j) : Reads n j j := by
  -- the depth goes down with the containers, as it does in the reader
  induction h with
  | null =>
    intro fuel rest enough ends
    cases fuel with
    | zero => simp [chars] at enough
    | succ fuel => rfl
  | bool b =>
    intro fuel rest enough ends
    cases fuel with
    | zero => cases b <;> simp [chars] at enough
    | succ fuel => cases b <;> rfl
  | int low high => exact reads_number _ (number?_intChars low high)
  | float back => exact reads_number _ back
  | str s => exact reads_str _ s
  | arr _ items => exact reads_arr items
  | obj sorted _ values =>
    have read := reads_obj values
    rwa [object_of_sorted sorted] at read

theorem Reads.parse? {j j' : Json} (h : Reads 127 j j') : Json.parse? j.print = some j' := by
  have read : value? (2 * (chars j).length + 2) depthLimit (chars j ++ []) = some (j', []) :=
    h (by omega) nofun
  have start := h.skipSpace []
  rw [List.append_nil] at read start
  rw [Json.parse?, print, String.toList_ofList, parseChars?, start, read]
  rfl

end Json

end DebugAdapter
