import DebugAdapter.Console
import DebugAdapter.Proofs.Text.Trimming
import Mathlib.Data.String.Basic

/-!
# How commands are spelled

A command of the console is an exclamation mark, a word and an argument. Blanks around them
do not matter; those inside an argument belong to it. All input that starts with an
exclamation mark spells one word with one argument (`exists_spells`, `Spells.unique`), and
these alone decide which command it is (`Spells.parse?_cases`).
-/

namespace DebugAdapter

open Text (Blanks IsTrimmed isBlank dropBlanks trimChars)

namespace ConsoleCommand

/-- Some characters spell a word with an argument, which is empty if there is none. -/
structure Spells (cs word argument : List Char) : Prop where
  split : ∃ before after gap behind, Blanks before ∧ Blanks after ∧ Blanks gap ∧ Blanks behind ∧
    cs = before ++ '!' :: (after ++ (word ++ gap ++ argument) ++ behind) ∧
    (argument ≠ [] → word ≠ [] ∧ gap ≠ [])
  plain : ∀ c ∈ word, isBlank c = false
  trimmed : IsTrimmed argument

-- ---------------------------------------------------------------------------
-- Texts of commands
-- ---------------------------------------------------------------------------

def text? (cs : List Char) : Option (List Char) :=
  if (dropBlanks cs).head? = some '!' then some (trimChars (dropBlanks cs).tail) else none

theorem parse?_eq_map (input : String) : parse? input = (text? input.toList).map ofChars := by
  unfold parse? text?
  cases dropBlanks input.toList with
  | nil => rfl
  | cons c rest =>
    by_cases mark : c = '!'
    · subst mark
      rfl
    · simp [mark]

theorem text?_isSome : (text? cs).isSome ↔ (dropBlanks cs).head? = some '!' := by
  unfold text?
  split <;> simp_all

theorem text?_append (blanks : Blanks before) (rest : List Char) :
    text? (before ++ '!' :: rest) = some (trimChars rest) := by
  have starts : dropBlanks (before ++ '!' :: rest) = '!' :: rest :=
    Text.dropBlanks_blanks_append blanks _
  rw [text?, starts]
  rfl

theorem exists_text? (h : text? cs = some text) :
    ∃ before rest, Blanks before ∧ cs = before ++ '!' :: rest ∧ text = trimChars rest := by
  obtain ⟨starts, same⟩ := Option.ite_none_right_eq_some.mp h
  obtain ⟨rest, found⟩ := List.head?_eq_some_iff.mp starts
  rw [found] at same
  refine ⟨_, rest, Text.blanks_takeWhile cs, ?_, (Option.some.inj same).symm⟩
  rw [← found, Text.takeWhile_append_dropBlanks]

theorem text?_trimChars (cs : List Char) : text? (trimChars cs) = text? cs := by
  obtain ⟨before, behind, first, last, split⟩ := Text.exists_trimChars cs
  have trimmed := Text.isTrimmed_trimChars cs
  generalize trimChars cs = kept at split trimmed
  rw [split]
  unfold text?
  rw [List.append_assoc, Text.dropBlanks_blanks_append first]
  cases kept with
  | nil =>
    have none : dropBlanks behind = [] := List.dropWhile_eq_nil_iff.mpr last
    rw [List.nil_append, none]
    rfl
  | cons c kept =>
    have starts (rest : List Char) : dropBlanks (c :: rest) = c :: rest :=
      Text.dropBlanks_eq_self_iff.mpr fun _ head => Option.some.inj head ▸ trimmed.head c rfl
    rw [List.cons_append, starts, starts, List.tail_cons, List.tail_cons,
      Text.trimChars_append_blanks last]
    rfl

-- ---------------------------------------------------------------------------
-- Words and arguments
-- ---------------------------------------------------------------------------

theorem splitWord_append {word gap argument : List Char} (plain : ∀ c ∈ word, isBlank c = false)
    (blanks : Blanks gap) (trimmed : IsTrimmed argument) (apart : argument ≠ [] → gap ≠ []) :
    splitWord (word ++ gap ++ argument) = (word, argument) := by
  have all : ∀ c ∈ word, (!isBlank c) = true := fun c mem => by rw [plain c mem]; rfl
  have stops : ∀ c, (gap ++ argument).head? = some c → isBlank c = true := by
    intro c head
    cases gap with
    | nil =>
      have none : argument = [] := Decidable.byContradiction fun some => apart some rfl
      rw [none] at head
      cases head
    | cons b gap =>
      obtain rfl := Option.some.inj head
      exact blanks b List.mem_cons_self
  have rest : (gap ++ argument).takeWhile (!isBlank ·) = [] ∧
      (gap ++ argument).dropWhile (!isBlank ·) = gap ++ argument := by
    cases tail : gap ++ argument with
    | nil => exact ⟨rfl, rfl⟩
    | cons c tail' => simp [stops c (by rw [tail]; rfl)]
  rw [splitWord, List.append_assoc, List.takeWhile_append_of_pos all,
    List.dropWhile_append_of_pos all, rest.1, rest.2, List.append_nil,
    Text.trimChars_blanks_append blanks, trimmed.trimChars_eq]

theorem isTrimmed_of_plain {word : List Char} (plain : ∀ c ∈ word, isBlank c = false) :
    IsTrimmed word :=
  ⟨fun c head => plain c (List.mem_of_mem_head? head),
    fun c last => plain c (List.mem_of_mem_getLast? last)⟩

theorem plain_splitWord (text : List Char) : ∀ c ∈ (splitWord text).1, isBlank c = false := by
  intro c mem
  have visible := List.mem_takeWhile_imp mem
  simpa using visible

theorem isTrimmed_splitWord (text : List Char) : IsTrimmed (splitWord text).2 :=
  Text.isTrimmed_trimChars _

theorem exists_splitWord (trimmed : IsTrimmed text) :
    ∃ gap behind, Blanks gap ∧ Blanks behind ∧
      text = (splitWord text).1 ++ gap ++ (splitWord text).2 ++ behind ∧
      ((splitWord text).2 ≠ [] → (splitWord text).1 ≠ [] ∧ gap ≠ []) := by
  have whole := List.takeWhile_append_dropWhile (p := (!isBlank ·)) (l := text)
  have stops := List.head?_dropWhile_not (!isBlank ·) text
  simp only [splitWord]
  generalize text.takeWhile (!isBlank ·) = word at whole
  generalize text.dropWhile (!isBlank ·) = tail at whole stops
  obtain ⟨gap, behind, blanks, last, split⟩ := Text.exists_trimChars tail
  refine ⟨gap, behind, blanks, last, ?_, fun some => ⟨?_, ?_⟩⟩
  · rw [List.append_assoc, List.append_assoc, ← List.append_assoc gap, ← split, whole]
  · intro none
    rw [none, List.nil_append] at whole
    cases tail with
    | nil => exact some rfl
    | cons c tail =>
      have visible := trimmed.head c (whole ▸ rfl)
      simp [visible] at stops
  · rintro rfl
    obtain ⟨c, kept, starts⟩ := List.exists_cons_of_ne_nil some
    have visible := (Text.isTrimmed_trimChars tail).head c (by rw [starts]; rfl)
    rw [split, starts] at stops
    simp [visible] at stops

theorem spells_iff : Spells cs word argument ↔
    ∃ text, text? cs = some text ∧ splitWord text = (word, argument) := by
  constructor
  · rintro ⟨⟨before, after, gap, behind, first, second, third, last, rfl, apart⟩, plain, trimmed⟩
    refine ⟨_, text?_append first _, ?_⟩
    rw [Text.trimChars_append_blanks last, Text.trimChars_blanks_append second]
    by_cases none : argument = []
    · subst none
      rw [List.append_nil, Text.trimChars_append_blanks third,
        (isTrimmed_of_plain plain).trimChars_eq]
      simpa using splitWord_append plain Text.blanks_nil trimmed (absurd rfl)
    · obtain ⟨named, separate⟩ := apart none
      have ends : IsTrimmed (word ++ gap ++ argument) := by
        refine ⟨fun c head => ?_, fun c last => ?_⟩
        · obtain ⟨w, ws, rfl⟩ := List.exists_cons_of_ne_nil named
          exact plain c (Option.some.inj head ▸ List.mem_cons_self)
        · rw [List.getLast?_append] at last
          obtain last | ⟨empty, -⟩ := Option.or_eq_some_iff.mp last
          · exact trimmed.last c last
          · exact absurd (List.getLast?_eq_none_iff.mp empty) none
      rw [ends.trimChars_eq]
      exact splitWord_append plain third trimmed fun _ => separate
  · rintro ⟨text, found, split⟩
    obtain ⟨before, rest, first, rfl, rfl⟩ := exists_text? found
    obtain ⟨after, behind, second, last, whole⟩ := Text.exists_trimChars rest
    obtain ⟨gap, behind', third, last', parts, apart⟩ :=
      exists_splitWord (Text.isTrimmed_trimChars rest)
    have plain := plain_splitWord (trimChars rest)
    have trimmed := isTrimmed_splitWord (trimChars rest)
    rw [split] at parts apart plain trimmed
    refine ⟨⟨before, after, gap, behind' ++ behind, first, second, third,
      Text.blanks_append.mpr ⟨last', last⟩, ?_, apart⟩, plain, trimmed⟩
    rw [parts] at whole
    rw [whole]
    simp only [List.append_assoc]

theorem Spells.unique (h : Spells cs word argument) (h' : Spells cs word' argument') :
    word = word' ∧ argument = argument' := by
  obtain ⟨text, found, split⟩ := spells_iff.mp h
  obtain ⟨text', found', split'⟩ := spells_iff.mp h'
  obtain rfl := Option.some.inj (found.symm.trans found')
  exact Prod.mk.inj (split.symm.trans split')

theorem exists_spells :
    (∃ word argument, Spells cs word argument) ↔ (dropBlanks cs).head? = some '!' := by
  rw [← text?_isSome, Option.isSome_iff_exists]
  constructor
  · rintro ⟨word, argument, h⟩
    obtain ⟨text, found, -⟩ := spells_iff.mp h
    exact ⟨text, found⟩
  · rintro ⟨text, found⟩
    exact ⟨_, _, spells_iff.mpr ⟨text, found, rfl⟩⟩

theorem spells_trimChars : Spells (trimChars cs) word argument ↔ Spells cs word argument := by
  rw [spells_iff, spells_iff, text?_trimChars]

-- ---------------------------------------------------------------------------
-- Commands
-- ---------------------------------------------------------------------------

theorem ofChars_eq_setError : ofChars cs = .setError pattern ↔
    splitWord cs = ("seterror".toList, pattern.toList) := by
  unfold ofChars
  obtain ⟨word, argument⟩ := splitWord cs
  rw [Prod.mk.injEq, ← String.ofList_eq, ← String.ofList_eq]
  dsimp only
  generalize String.ofList word = name
  split <;> simp_all

theorem ofChars_eq_notifyEnd : ofChars cs = .notifyEnd (some setting) ↔
    splitWord cs = ("execendnotify".toList, setting.toList) ∧ setting ≠ "" := by
  unfold ofChars
  obtain ⟨word, argument⟩ := splitWord cs
  rw [Prod.mk.injEq, ← String.ofList_eq, ← String.ofList_eq]
  dsimp only
  generalize String.ofList word = name
  split <;> simp_all
  -- an argument that is given is not empty
  rintro rfl
  simpa

theorem parse?_eq_setError {input : String} : parse? input = some (.setError pattern) ↔
    Spells input.toList "seterror".toList pattern.toList := by
  simp only [parse?_eq_map, Option.map_eq_some_iff, ofChars_eq_setError, spells_iff]

theorem parse?_eq_notifyEnd {input : String} : parse? input = some (.notifyEnd (some setting)) ↔
    Spells input.toList "execendnotify".toList setting.toList ∧ setting ≠ "" := by
  simp only [parse?_eq_map, Option.map_eq_some_iff, ofChars_eq_notifyEnd, spells_iff, ← and_assoc,
    exists_and_right]

theorem parse?_isSome {input : String} :
    (parse? input).isSome ↔ (dropBlanks input.toList).head? = some '!' := by
  rw [parse?_eq_map, Option.isSome_map, text?_isSome]

theorem ofChars_cases (same : splitWord text = splitWord text') :
    ofChars text = ofChars text' ∨
      ofChars text = .unknown (String.ofList text) ∧
        ofChars text' = .unknown (String.ofList text') := by
  unfold ofChars
  rw [same]
  dsimp only
  split <;> simp

/-- Input of the same word with the same argument is the same command. Only what an unknown
command is quoted by may differ in the blanks between its parts. -/
theorem Spells.parse?_cases {input input' : String} (h : Spells input.toList word argument)
    (h' : Spells input'.toList word argument) :
    parse? input = parse? input' ∨
      ∃ text text', parse? input = some (.unknown text) ∧
        parse? input' = some (.unknown text') := by
  obtain ⟨text, found, split⟩ := spells_iff.mp h
  obtain ⟨text', found', split'⟩ := spells_iff.mp h'
  simp only [parse?_eq_map, found, found', Option.map_some, Option.some.injEq]
  exact (ofChars_cases (split.trans split'.symm)).imp_right fun both => ⟨_, _, both⟩

end ConsoleCommand

end DebugAdapter
