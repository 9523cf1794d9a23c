import DebugAdapter.Text.Quoted
import Mathlib.Data.List.Basic

/-!
# Quoted text tells where it ends

No character is written like the beginning of another, and none like the quote
that closes the text. So a quoted text stands for one text only, and what comes
after it is never taken for a part of it (`quoteChars_append_inj`).
-/

namespace DebugAdapter.Text

-- ---------------------------------------------------------------------------
-- Code points
-- ---------------------------------------------------------------------------

theorem digitChar_inj {m n : Nat} (hm : m < 16) (hn : n < 16) (h : m.digitChar = n.digitChar) :
    m = n := by
  have distinct : ∀ m < 16, ∀ n < 16, m.digitChar = n.digitChar → m = n := by decide
  exact distinct m hm n hn h

theorem hexDigits_inj {m n : Nat} (h : Nat.toDigits 16 m = Nat.toDigits 16 n) : m = n := by
  induction m using Nat.strongRecOn generalizing n with
  | ind m ih =>
    rw [Nat.toDigits_eq_if (by decide), Nat.toDigits_eq_if (n := n) (by decide)] at h
    split at h <;> split at h
    · rename_i hm hn
      exact digitChar_inj hm hn (by simpa using h)
    · have short := congrArg List.length h
      simp [Nat.toDigits_ne_nil] at short
    · have short := congrArg List.length h
      simp [Nat.toDigits_ne_nil] at short
    · rename_i hm _
      rcases List.append_inj' h rfl with ⟨front, last⟩
      have high := ih (m / 16) (by omega) front
      have low := digitChar_inj (Nat.mod_lt m (by decide)) (Nat.mod_lt n (by decide))
        (by simpa using last)
      omega

theorem closing_notMem_hexDigits (n : Nat) : '\x7d' ∉ Nat.toDigits 16 n := by
  induction n using Nat.strongRecOn with
  | ind n ih =>
    rw [Nat.toDigits_eq_if (by decide)]
    split
    · simp
    · simp [ih (n / 16) (by omega)]

theorem append_mark_inj {mark : α} {a b r s : List α} (ha : mark ∉ a) (hb : mark ∉ b)
    (h : a ++ mark :: r = b ++ mark :: s) : a = b ∧ r = s := by
  rcases List.append_eq_append_iff.mp h with ⟨more, rfl, rest⟩ | ⟨more, rfl, rest⟩
  all_goals
    cases more with
    | nil => simpa [eq_comm] using rest
    | cons x more =>
      rcases List.cons.inj rest with ⟨rfl, -⟩
      simp at ha hb

-- ---------------------------------------------------------------------------
-- Characters
-- ---------------------------------------------------------------------------

theorem letterEscape?_inj {c d l : Char} (hc : letterEscape? c = some l)
    (hd : letterEscape? d = some l) : c = d := by
  unfold letterEscape? at hc hd
  split at hc <;> cases hc <;> split at hd <;> first | rfl | simp at hd

theorem letterEscape?_ne {c : Char} : letterEscape? c ≠ some 'u' := by
  unfold letterEscape?
  split <;> simp

theorem escapeChar_cases (c : Char) :
    (∃ l, letterEscape? c = some l ∧ escapeChar c = ['\\', l]) ∨
    escapeChar c = '\\' :: 'u' :: '\x7b' :: (Nat.toDigits 16 c.toNat ++ ['\x7d']) ∨
    (escapeChar c = [c] ∧ c ≠ '\\' ∧ c ≠ '"') := by
  unfold escapeChar
  split
  · rename_i l letter
    exact .inl ⟨l, letter, rfl⟩
  · rename_i unlettered
    split
    · exact .inr (.inl rfl)
    · refine .inr (.inr ⟨rfl, ?_, ?_⟩)
      all_goals
        rintro rfl
        cases unlettered

theorem escapeChar_append_inj {c d : Char} {r s : List Char}
    (h : escapeChar c ++ r = escapeChar d ++ s) : c = d ∧ r = s := by
  rcases escapeChar_cases c with ⟨l, lc, hc⟩ | hc | ⟨hc, slash, -⟩ <;>
    rcases escapeChar_cases d with ⟨l', ld, hd⟩ | hd | ⟨hd, slash', -⟩ <;>
    rw [hc, hd] at h
  · simp only [List.cons_append, List.nil_append, List.cons.injEq, true_and] at h
    rcases h with ⟨rfl, rest⟩
    exact ⟨letterEscape?_inj lc ld, rest⟩
  · rw [List.cons_append, List.cons_append] at h
    cases h
    exact absurd lc letterEscape?_ne
  · exact absurd (List.cons.inj h).1.symm slash'
  · rw [List.cons_append, List.cons_append] at h
    cases h
    exact absurd ld letterEscape?_ne
  · simp only [List.cons_append, List.append_assoc, List.nil_append, List.cons.injEq,
      true_and] at h
    rcases append_mark_inj (closing_notMem_hexDigits _) (closing_notMem_hexDigits _) h with
      ⟨code, rest⟩
    exact ⟨Char.toNat_inj.mp (hexDigits_inj code), rest⟩
  · exact absurd (List.cons.inj h).1.symm slash'
  · exact absurd (List.cons.inj h).1 slash
  · exact absurd (List.cons.inj h).1 slash
  · simpa using h

theorem escapeChar_head (c : Char) : ∃ x xs, escapeChar c = x :: xs ∧ x ≠ '"' := by
  rcases escapeChar_cases c with ⟨l, -, hc⟩ | hc | ⟨hc, -, quote⟩
  · exact ⟨_, _, hc, by decide⟩
  · exact ⟨_, _, hc, by decide⟩
  · exact ⟨_, _, hc, quote⟩

-- ---------------------------------------------------------------------------
-- Texts
-- ---------------------------------------------------------------------------

theorem escapes_append_inj {cs ds r s : List Char}
    (h : cs.flatMap escapeChar ++ '"' :: r = ds.flatMap escapeChar ++ '"' :: s) :
    cs = ds ∧ r = s := by
  induction cs generalizing ds with
  | nil =>
    cases ds with
    | nil => simpa using h
    | cons d ds =>
      rcases escapeChar_head d with ⟨x, xs, hd, quote⟩
      simp [hd, quote.symm] at h
  | cons c cs ih =>
    cases ds with
    | nil =>
      rcases escapeChar_head c with ⟨x, xs, hc, quote⟩
      simp [hc, quote] at h
    | cons d ds =>
      simp only [List.flatMap_cons, List.append_assoc] at h
      rcases escapeChar_append_inj h with ⟨rfl, rest⟩
      rcases ih rest with ⟨rfl, rfl⟩
      exact ⟨rfl, rfl⟩

theorem quoteChars_append_inj {cs ds r s : List Char}
    (h : quoteChars cs ++ r = quoteChars ds ++ s) : cs = ds ∧ r = s := by
  simp only [quoteChars, List.cons_append, List.append_assoc, List.nil_append, List.cons.injEq,
    true_and] at h
  exact escapes_append_inj h

end DebugAdapter.Text
