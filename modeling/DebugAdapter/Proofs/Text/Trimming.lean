import DebugAdapter.Text.Blank
import Mathlib.Data.List.DropRight
import Mathlib.Data.List.TakeWhile

/-!
# Trimming

A text is its trimmed part between blanks, and no other text without blanks at its ends is
that part (`trimChars_eq_iff`). So it does not matter who trims, nor how often.
-/

namespace DebugAdapter.Text

def Blanks (cs : List Char) : Prop := ∀ c ∈ cs, isBlank c = true

structure IsTrimmed (cs : List Char) : Prop where
  head : ∀ c, cs.head? = some c → isBlank c = false
  last : ∀ c, cs.getLast? = some c → isBlank c = false

theorem blanks_nil : Blanks [] := List.forall_mem_nil _

theorem blanks_append : Blanks (cs ++ ds) ↔ Blanks cs ∧ Blanks ds := List.forall_mem_append

theorem Blanks.reverse (h : Blanks cs) : Blanks cs.reverse :=
  fun c mem => h c (List.mem_reverse.mp mem)

theorem blanks_takeWhile (cs : List Char) : Blanks (cs.takeWhile isBlank) :=
  fun _ mem => List.mem_takeWhile_imp mem

-- ---------------------------------------------------------------------------
-- One end
-- ---------------------------------------------------------------------------

theorem dropBlanks_blanks_append (h : Blanks blanks) (cs : List Char) :
    dropBlanks (blanks ++ cs) = dropBlanks cs := List.dropWhile_append_of_pos h

theorem dropBlanks_eq_self_iff :
    dropBlanks cs = cs ↔ ∀ c, cs.head? = some c → isBlank c = false := by
  cases cs with
  | nil => simp [dropBlanks]
  | cons c cs => simp [dropBlanks, List.dropWhile_eq_self_iff]

theorem takeWhile_append_dropBlanks (cs : List Char) :
    cs.takeWhile isBlank ++ dropBlanks cs = cs := List.takeWhile_append_dropWhile

theorem dropBlanks_idem (cs : List Char) : dropBlanks (dropBlanks cs) = dropBlanks cs :=
  List.dropWhile_idempotent isBlank cs

-- ---------------------------------------------------------------------------
-- Both ends
-- ---------------------------------------------------------------------------

theorem trimChars_append_blanks {cs blanks : List Char} (h : Blanks blanks) :
    trimChars (cs ++ blanks) = trimChars cs := by
  have none : dropBlanks blanks = [] := List.dropWhile_eq_nil_iff.mpr h
  simp only [trimChars]
  by_cases empty : dropBlanks cs = []
  · have all : dropBlanks (cs ++ blanks) = [] := by
      unfold dropBlanks at *
      rw [List.dropWhile_append, empty, List.isEmpty_nil, if_pos rfl, none]
    rw [all, empty]
  · have kept : dropBlanks (cs ++ blanks) = dropBlanks cs ++ blanks := by
      unfold dropBlanks at *
      rw [List.dropWhile_append, if_neg (by simpa using empty)]
    rw [kept, List.reverse_append, dropBlanks_blanks_append h.reverse]

theorem trimChars_blanks_append (h : Blanks blanks) (cs : List Char) :
    trimChars (blanks ++ cs) = trimChars cs := by
  rw [trimChars, dropBlanks_blanks_append h, trimChars]

theorem IsTrimmed.trimChars_eq (h : IsTrimmed cs) : trimChars cs = cs := by
  have ends : dropBlanks cs.reverse = cs.reverse :=
    dropBlanks_eq_self_iff.mpr fun c last => h.last c (List.head?_reverse ▸ last)
  rw [trimChars, dropBlanks_eq_self_iff.mpr h.head, ends, List.reverse_reverse]

theorem exists_trimChars (cs : List Char) :
    ∃ before behind, Blanks before ∧ Blanks behind ∧ cs = before ++ trimChars cs ++ behind := by
  have back := takeWhile_append_dropBlanks (dropBlanks cs).reverse
  refine ⟨_, _, blanks_takeWhile cs, (blanks_takeWhile (dropBlanks cs).reverse).reverse, ?_⟩
  rw [List.append_assoc, trimChars, ← List.reverse_append, back, List.reverse_reverse,
    takeWhile_append_dropBlanks]

theorem isTrimmed_trimChars (cs : List Char) : IsTrimmed (trimChars cs) where
  head c first := by
    -- what is cut off at the end leaves the first character where it is
    have front := takeWhile_append_dropBlanks (dropBlanks cs).reverse
    have split := congrArg List.reverse front
    rw [List.reverse_append, List.reverse_reverse] at split
    refine dropBlanks_eq_self_iff.mp (dropBlanks_idem cs) c ?_
    rw [← split, List.head?_append]
    exact Option.or_eq_some_iff.mpr (.inl first)
  last c last := by
    rw [trimChars, List.getLast?_reverse] at last
    exact dropBlanks_eq_self_iff.mp (dropBlanks_idem _) c last

/-- The trimmed part of a text is what neither starts nor ends in a blank, between blanks. -/
theorem trimChars_eq_iff : trimChars cs = kept ↔ IsTrimmed kept ∧
    ∃ before behind, Blanks before ∧ Blanks behind ∧ cs = before ++ kept ++ behind := by
  constructor
  · rintro rfl
    exact ⟨isTrimmed_trimChars cs, exists_trimChars cs⟩
  · rintro ⟨trimmed, before, behind, first, last, rfl⟩
    rw [trimChars_append_blanks last, trimChars_blanks_append first, trimmed.trimChars_eq]

theorem trimChars_eq_nil_iff : trimChars cs = [] ↔ Blanks cs := by
  constructor
  · intro none
    obtain ⟨before, behind, first, last, split⟩ := exists_trimChars cs
    rw [none, List.append_nil] at split
    exact split ▸ blanks_append.mpr ⟨first, last⟩
  · intro blanks
    rw [← List.append_nil cs, trimChars_blanks_append blanks]
    rfl

theorem trim_ne_empty {s : String} (first : s.toList.head? = some c)
    (visible : isBlank c = false) : trim s ≠ "" := by
  intro empty
  have none : trimChars s.toList = [] := String.ofList_eq_empty_iff.mp empty
  have blank := trimChars_eq_nil_iff.mp none c (List.mem_of_mem_head? first)
  exact absurd (visible.symm.trans blank) (by decide)

end DebugAdapter.Text
