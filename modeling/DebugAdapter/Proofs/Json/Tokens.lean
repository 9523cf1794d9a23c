import DebugAdapter.Json.Parser
import DebugAdapter.Json.Printer
import Mathlib.Data.List.TakeWhile

/-!
# Strings and numbers as text

A string is read back character by character, whatever stands after its
closing quote. A number is read the same whatever stands after it, unless that
goes on with the number; an integer of 64 bits is read back as itself.
-/

namespace DebugAdapter

namespace Json

-- ---------------------------------------------------------------------------
-- Strings
-- ---------------------------------------------------------------------------

theorem stringBody_letter {c l : Char} (h : letter? l = some c) (rest : List Char) :
    stringBody ('\\' :: l :: rest) = consChar c (stringBody rest) := by
  have other : l ≠ 'u' := by
    rintro rfl
    cases h
  rw [stringBody.eq_5]
  · rw [h]
  · intro _ _ _ _ _ _ _ _ _ same
    exact absurd same other
  · intro _ _ _ _ _ same
    exact absurd same other

theorem stringBody_plain {c : Char} (quote : c ≠ '"') (backslash : c ≠ '\\')
    (printed : ¬c.toNat < 0x20) (rest : List Char) :
    stringBody (c :: rest) = consChar c (stringBody rest) := by
  rw [stringBody.eq_6]
  · simp [printed, backslash]
  · exact quote
  all_goals
    intros
    contradiction

theorem stringBody_unit {a b c d : Char} {n : Nat} (h : unit? a b c d = some n)
    (high : isHighSurrogate n = false) (low : isLowSurrogate n = false) (rest : List Char) :
    stringBody ('\\' :: 'u' :: a :: b :: c :: d :: rest) =
      consChar (Char.ofNat n) (stringBody rest) := by
  by_cases more : ∃ a' b' c' d' rest', rest = '\\' :: 'u' :: a' :: b' :: c' :: d' :: rest'
  · obtain ⟨a', b', c', d', rest', rfl⟩ := more
    rw [stringBody.eq_3]
    simp [h, high, low]
  · rw [stringBody.eq_4]
    · simp [h, high, low]
    · intro a' b' c' d' rest' same
      exact more ⟨a', b', c', d', rest', same⟩

theorem unit?_hexPair {n : Nat} (h : n < 0x20) :
    unit? '0' '0' (Nat.digitChar (n / 16)) (Nat.digitChar (n % 16)) = some n := by
  have all : ∀ k < 0x20,
      unit? '0' '0' (Nat.digitChar (k / 16)) (Nat.digitChar (k % 16)) = some k := by decide
  exact all n h

theorem escape_cases (c : Char) :
    (∃ l, escape c = ['\\', l] ∧ letter? l = some c) ∨
      (escape c = ['\\', 'u', '0', '0'] ++ hexPair c.toNat ∧ c.toNat < 0x20) ∨
      (escape c = [c] ∧ c ≠ '"' ∧ c ≠ '\\' ∧ ¬c.toNat < 0x20) := by
  by_cases named : c ∈ ['"', '\\', '\n', '\r', '\t', '\x08', '\x0c']
  · left
    simp only [List.mem_cons, List.not_mem_nil, or_false] at named
    obtain rfl | rfl | rfl | rfl | rfl | rfl | rfl := named
    all_goals exact ⟨_, rfl, rfl⟩
  · right
    simp only [List.mem_cons, List.not_mem_nil, or_false, not_or] at named
    by_cases control : c.toNat < 0x20
    · left
      simp only [escape, named, control, if_true, if_false, and_self]
    · right
      simp only [escape, named, control, if_false, ne_eq, not_false_eq_true, and_self]

theorem stringBody_escape (c : Char) (rest : List Char) :
    stringBody (escape c ++ rest) = consChar c (stringBody rest) := by
  obtain ⟨l, written, named⟩ | ⟨written, control⟩ | ⟨written, quote, backslash, printed⟩ :=
    escape_cases c
  · rw [written]
    exact stringBody_letter named rest
  · have high : isHighSurrogate c.toNat = false := by
      simp only [isHighSurrogate, Bool.and_eq_false_iff, decide_eq_false_iff_not]
      omega
    have low : isLowSurrogate c.toNat = false := by
      simp only [isLowSurrogate, Bool.and_eq_false_iff, decide_eq_false_iff_not]
      omega
    have read := stringBody_unit (unit?_hexPair control) high low rest
    rw [Char.ofNat_toNat] at read
    rw [written]
    exact read
  · rw [written]
    exact stringBody_plain quote backslash printed rest

theorem stringBody_flatMap_escape (cs rest : List Char) :
    stringBody (cs.flatMap escape ++ '"' :: rest) = some (cs, rest) := by
  induction cs with
  | nil => exact stringBody.eq_2 rest
  | cons c cs ih =>
    rw [List.flatMap_cons, List.append_assoc, stringBody_escape, ih]
    rfl

theorem strChars_append (s : String) (rest : List Char) :
    strChars s ++ rest = '"' :: (s.toList.flatMap escape ++ '"' :: rest) := by
  simp [strChars]

-- ---------------------------------------------------------------------------
-- What follows a number
-- ---------------------------------------------------------------------------

/-- May this character stand right after a number without being part of it? -/
def endsNumber (c : Char) : Bool := !c.isDigit && c != '.' && c != 'e' && c != 'E'

def Ends (rest : List Char) : Prop := ∀ c ∈ rest.head?, endsNumber c

/-- A reader that stays with what it has read when characters come after it. -/
def Local (read : List Char → Option (α × List Char)) : Prop :=
  ∀ ⦃cs x r rest⦄, read cs = some (x, r) → Ends rest → read (cs ++ rest) = some (x, r ++ rest)

theorem Ends.not_digit {c : Char} (h : Ends (c :: rest)) : c.isDigit = false := by
  have ends := h c rfl
  simp only [endsNumber, Bool.and_eq_true, Bool.not_eq_true'] at ends
  exact ends.1.1.1

theorem Local.bind {f : List Char → Option (α × List Char)}
    {g : α → List Char → Option (β × List Char)} (first : Local f) (second : ∀ x, Local (g x)) :
    Local fun cs => (f cs).bind fun p => g p.1 p.2 := by
  intro cs x r rest h ends
  obtain ⟨⟨y, s⟩, read, after⟩ := Option.bind_eq_some_iff.mp h
  exact Option.bind_eq_some_iff.mpr ⟨(y, s ++ rest), first read ends, second y after ends⟩

theorem takeDigits_append (cs : List Char) (ends : Ends rest) :
    takeDigits (cs ++ rest) = ((takeDigits cs).1, (takeDigits cs).2 ++ rest) := by
  induction cs with
  | nil =>
    cases rest with
    | nil => rfl
    | cons c rest => simp [takeDigits, ends.not_digit]
  | cons c cs ih =>
    simp only [takeDigits, Prod.mk.injEq] at ih
    by_cases digit : c.isDigit
    · simp [takeDigits, digit, ih]
    · simp [takeDigits, digit]

theorem local_whole? : Local whole? := by
  intro cs x r rest h ends
  unfold whole? at *
  rw [takeDigits_append cs ends]
  split at h <;> simp_all

theorem local_fraction? : Local fraction? := by
  intro cs x r rest h ends
  cases cs with
  | nil =>
    cases h
    refine fraction?.eq_2 rest ?_
    rintro cs rfl
    exact absurd (ends '.' rfl) (by decide)
  | cons c cs =>
    by_cases point : c = '.'
    · subst point
      simp only [List.cons_append, fraction?] at *
      rw [takeDigits_append cs ends]
      split at h <;> simp_all
    · have other (cs') : fraction? (c :: cs') = some (none, c :: cs') :=
        fraction?.eq_2 _ fun _ same => point (List.cons.inj same).1
      rw [other] at h
      cases h
      exact other _

theorem local_exponentDigits? (negative : Bool) : Local (exponentDigits? negative) := by
  intro cs x r rest h ends
  unfold exponentDigits? at *
  rw [takeDigits_append cs ends]
  split at h <;> simp_all

theorem exponentPart?_mark {c : Char} (mark : c = 'e' ∨ c = 'E') (d : Char) (cs : List Char) :
    exponentPart? (c :: d :: cs) =
      if d = '+' then exponentDigits? false cs
      else if d = '-' then exponentDigits? true cs
      else exponentDigits? false (d :: cs) := by
  split
  · rename_i plus
    subst plus
    obtain rfl | rfl := mark <;> rfl
  split
  · rename_i minus
    subst minus
    obtain rfl | rfl := mark <;> rfl
  · rename_i plus minus
    obtain rfl | rfl := mark <;> simp [exponentPart?, plus, minus]

theorem exponentPart?_other {cs : List Char} (other : ∀ c ∈ cs.head?, c ≠ 'e' ∧ c ≠ 'E') :
    exponentPart? cs = some (none, cs) := by
  unfold exponentPart?
  split <;> simp_all

theorem local_exponentPart? : Local exponentPart? := by
  intro cs x r rest h ends
  cases cs with
  | nil =>
    cases h
    refine exponentPart?_other fun c head => ?_
    have := ends c head
    constructor <;> rintro rfl <;> cases this
  | cons c cs =>
    by_cases mark : c = 'e' ∨ c = 'E'
    · cases cs with
      | nil => obtain rfl | rfl := mark <;> cases h
      | cons d cs =>
        rw [exponentPart?_mark mark] at h
        rw [List.cons_append, List.cons_append, exponentPart?_mark mark]
        split at h
        · rename_i plus
          rw [if_pos plus]
          exact local_exponentDigits? false h ends
        split at h
        · rename_i plus minus
          rw [if_neg plus, if_pos minus]
          exact local_exponentDigits? true h ends
        · rename_i plus minus
          rw [if_neg plus, if_neg minus]
          exact local_exponentDigits? false h ends
    · have other (cs') : exponentPart? (c :: cs') = some (none, c :: cs') :=
        exponentPart?_other fun d head => by cases head; exact not_or.mp mark
      rw [other] at h
      cases h
      exact other _

-- ---------------------------------------------------------------------------
-- Numbers
-- ---------------------------------------------------------------------------

theorem local_unsigned? (negative : Bool) : Local (unsigned? negative) := by
  have value (whole fraction exponent) : Local fun cs =>
      (NumberText.value? ⟨negative, whole, fraction, exponent⟩).bind fun j => some (j, cs) := by
    intro cs x r rest h ends
    obtain ⟨j, value, same⟩ := Option.bind_eq_some_iff.mp h
    cases same
    exact Option.bind_eq_some_iff.mpr ⟨x, value, rfl⟩
  exact local_whole?.bind fun whole => local_fraction?.bind fun fraction =>
    local_exponentPart?.bind fun exponent => value whole fraction exponent

def number? : List Char → Option (Json × List Char)
  | '-' :: cs => unsigned? true cs
  | cs => unsigned? false cs

theorem unsigned?_head {negative : Bool} {c : Char}
    (h : unsigned? negative (c :: cs) = some p) : c.isDigit := by
  obtain ⟨q, whole, -⟩ := Option.bind_eq_some_iff.mp h
  cases digit : c.isDigit with
  | true => rfl
  | false => simp [whole?, takeDigits, digit] at whole

theorem number?_head {c : Char} (h : number? (c :: cs) = some p) : c = '-' ∨ c.isDigit := by
  unfold number? at h
  split at h
  · rename_i same
    exact .inl (List.cons.inj same).1
  · exact .inr (unsigned?_head h)

theorem local_number? : Local number? := by
  intro cs x r rest h ends
  cases cs with
  | nil => cases h
  | cons c cs =>
    by_cases minus : c = '-'
    · subst minus
      exact local_unsigned? true h ends
    · have positive (cs') : number? (c :: cs') = unsigned? false (c :: cs') :=
        number?.eq_2 _ fun _ same => minus (List.cons.inj same).1
      rw [positive] at h
      rw [List.cons_append, positive]
      exact local_unsigned? false h ends

theorem value?_number {c : Char} (h : c = '-' ∨ c.isDigit) (fuel depth : Nat) (cs : List Char) :
    value? (fuel + 1) depth (c :: cs) = number? (c :: cs) := by
  obtain rfl | digit := h
  · simp [value?, number?]
  · have other (d : Char) (plain : d.isDigit = false) : c ≠ d := by
      rintro rfl
      rw [digit] at plain
      cases plain
    have positive : number? (c :: cs) = unsigned? false (c :: cs) :=
      number?.eq_2 _ fun _ same => other '-' rfl (List.cons.inj same).1
    rw [positive, value?.eq_9]
    all_goals
      rintro _ same
      cases same
      exact absurd digit (by decide)

-- ---------------------------------------------------------------------------
-- Integers
-- ---------------------------------------------------------------------------

theorem le_ofDigitChars (cs : List Char) (n : Nat) : n ≤ Nat.ofDigitChars 10 cs n := by
  rw [Nat.ofDigitChars_eq_ofDigitChars_zero]
  exact Nat.le_add_right_of_le (Nat.le_mul_of_pos_left n (Nat.pow_pos (by decide)))

theorem appendDigits_eq {cs : List Char} {n m : Nat} (value : Nat.ofDigitChars 10 cs n = m)
    (fits : m ≤ maxUInt64) : appendDigits n cs = (m, cs.length) := by
  induction cs generalizing n with
  | nil =>
    cases value
    rfl
  | cons c cs ih =>
    rw [Nat.ofDigitChars_cons] at value
    have below := le_ofDigitChars cs (10 * n + (c.toNat - '0'.toNat))
    rw [value, Nat.mul_comm] at below
    rw [Nat.mul_comm] at value
    simp only [appendDigits, digitValue, if_pos (Nat.le_trans below fits), ih value,
      List.length_cons]

theorem isDigit_of_mem_toDigits {c : Char} (mem : c ∈ Nat.toDigits 10 n) : c.isDigit = true :=
  Nat.isDigit_of_mem_toDigits (by decide) (by decide) mem

theorem head_toDigits {n : Nat} (pos : 0 < n) : (Nat.toDigits 10 n).head? ≠ some '0' := by
  induction n using Nat.strongRecOn with
  | ind n ih =>
    by_cases small : n < 10
    · have digit : ∀ k < 10, 0 < k → k.digitChar ≠ '0' := by decide
      rw [Nat.toDigits_of_lt_base small]
      simpa using digit n small pos
    · rw [Nat.toDigits_of_base_le (by decide) (Nat.le_of_not_lt small)]
      have first := ih (n / 10) (by omega) (by omega)
      cases digits : Nat.toDigits 10 (n / 10) with
      | nil => exact absurd digits Nat.toDigits_ne_nil
      | cons c cs => rwa [digits] at first

theorem whole?_toDigits (n : Nat) : whole? (Nat.toDigits 10 n) = some (Nat.toDigits 10 n, []) := by
  have digits : takeDigits (Nat.toDigits 10 n) = (Nat.toDigits 10 n, []) := by
    rw [takeDigits, List.takeWhile_eq_self_iff.mpr fun _ => isDigit_of_mem_toDigits,
      List.dropWhile_eq_nil_iff.mpr fun _ => isDigit_of_mem_toDigits]
  unfold whole?
  rw [digits]
  split
  · rename_i same
    exact absurd (Prod.mk.inj same).1 Nat.toDigits_ne_nil
  · rename_i c cs same
    cases n with
    | zero => simp at same
    | succ n =>
      exact absurd (by rw [(Prod.mk.inj same).1]; rfl) (head_toDigits (Nat.succ_pos n))
  · rename_i same
    cases same
    rfl

theorem unsigned?_toDigits (negative : Bool) (n : Nat) :
    unsigned? negative (Nat.toDigits 10 n) =
      (NumberText.value? ⟨negative, Nat.toDigits 10 n, none, none⟩).map fun j => (j, []) := by
  unfold unsigned?
  rw [whole?_toDigits]
  exact (Option.map_eq_bind ..).symm

theorem number?_intChars {i : Int} (low : minInt64 ≤ i) (high : i ≤ maxUInt64) :
    number? (intChars i) = some (.int i, []) := by
  cases i with
  | ofNat n =>
    have read := appendDigits_eq Nat.ofDigitChars_ten_toDigits (Int.ofNat_le.mp high)
    have positive : number? (Nat.toDigits 10 n) = unsigned? false (Nat.toDigits 10 n) := by
      refine number?.eq_2 _ fun cs same => ?_
      exact absurd (isDigit_of_mem_toDigits (same ▸ List.mem_cons_self)) (by decide)
    rw [intChars, positive, unsigned?_toDigits]
    simp [NumberText.value?, read]
  | negSucc n =>
    have small : n + 1 ≤ 0x8000000000000000 := by
      simp only [minInt64] at low
      omega
    have read : appendDigits 0 (Nat.toDigits 10 (n + 1)) = (n + 1, _) :=
      appendDigits_eq Nat.ofDigitChars_ten_toDigits (Nat.le_trans small (by decide))
    rw [intChars, number?, unsigned?_toDigits]
    simp [NumberText.value?, read, Nat.not_lt.mpr small, Int.negSucc_eq]

end Json

end DebugAdapter
