import DebugAdapter.Paths.FileUrl
import DebugAdapter.Proofs.Text.Decoding

/-!
# Escaped segments

A segment of a path is written by characters that have no meaning in a URL. Its escapes are
resolved byte by byte (`unescape_escapeSegment`), and none of them stands for a dot, so a
segment steps nowhere unless it did so before (`resolveDots_escapeSegment`).
-/

namespace DebugAdapter.Paths

-- ---------------------------------------------------------------------------
-- Hexadecimal digits
-- ---------------------------------------------------------------------------

/-- A character that can be in a segment of a URL as it is. -/
structure InSegment (c : Char) : Prop where
  visible : 0x20 < c.toNat
  ascii : c.toNat < 0x80
  slash : c ≠ '/' ∧ c ≠ '\\'
  mark : c ≠ '?' ∧ c ≠ '#'

instance (c : Char) : Decidable (InSegment c) :=
  decidable_of_iff (0x20 < c.toNat ∧ c.toNat < 0x80 ∧ (c ≠ '/' ∧ c ≠ '\\') ∧ c ≠ '?' ∧ c ≠ '#')
    ⟨fun ⟨visible, ascii, slash, mark⟩ => ⟨visible, ascii, slash, mark⟩,
      fun ⟨visible, ascii, slash, mark⟩ => ⟨visible, ascii, slash, mark⟩⟩

theorem inSegment_upperHex {n : Nat} (digit : n < 16) : InSegment (upperHex n) := by
  have all : ∀ n ∈ List.range 16, InSegment (upperHex n) := by decide
  exact all n (List.mem_range.mpr digit)

theorem hexValue?_upperHex {n : Nat} (digit : n < 16) :
    hexValue? (UInt8.ofNat (upperHex n).toNat) = some (UInt8.ofNat n) := by
  have all : ∀ n ∈ List.range 16,
      hexValue? (UInt8.ofNat (upperHex n).toNat) = some (UInt8.ofNat n) := by decide
  exact all n (List.mem_range.mpr digit)

theorem upperHex_eq {n : Nat} (digit : n < 16) :
    (upperHex n = '2' → n = 2) ∧ upperHex n ≠ 'e' ∧ (upperHex n = 'E' → n = 14) := by
  have all : ∀ n ∈ List.range 16,
      (upperHex n = '2' → n = 2) ∧ upperHex n ≠ 'e' ∧ (upperHex n = 'E' → n = 14) := by decide
  exact all n (List.mem_range.mpr digit)

-- ---------------------------------------------------------------------------
-- Bytes
-- ---------------------------------------------------------------------------

theorem inSegment_of_not_escaped {b : UInt8} (plain : isEscaped b = false) :
    InSegment (Char.ofNat b.toNat) ∧ (Char.ofNat b.toNat).toNat = b.toNat ∧ b ≠ 0x25 := by
  have other : b ≠ 0x25 := by
    rintro rfl
    cases plain
  simp only [isEscaped, Bool.or_eq_false_iff, decide_eq_false_iff_not, List.any_eq_false,
    decide_eq_true_eq, UInt8.lt_iff_toNat_lt, UInt8.le_iff_toNat_le] at plain
  obtain ⟨⟨low, high⟩, avoids⟩ := plain
  replace low : ¬b.toNat < 0x20 := low
  replace high : ¬0x7f ≤ b.toNat := high
  have space : ¬0x20 = b.toNat := avoids ' ' (by decide)
  have number : (Char.ofNat b.toNat).toNat = b.toNat := by
    have valid : b.toNat.isValidChar := .inl (by omega)
    rw [Char.ofNat, dif_pos valid]
    rfl
  have apart (d : Char) (differ : ¬d.toNat = b.toNat) : Char.ofNat b.toNat ≠ d :=
    fun same => differ (by rw [← number, same])
  exact ⟨⟨by omega, by omega, ⟨apart _ (avoids '/' (by decide)), apart _ (avoids '\\' (by decide))⟩,
    apart _ (avoids '?' (by decide)), apart _ (avoids '#' (by decide))⟩, number, other⟩

theorem inSegment_escapeByte (b : UInt8) : ∀ c ∈ escapeByte b, InSegment c := by
  unfold escapeByte
  split
  · have small := b.toNat_lt
    refine List.forall_mem_cons.mpr ⟨by decide, List.forall_mem_cons.mpr
      ⟨inSegment_upperHex ?_, List.forall_mem_singleton.mpr (inSegment_upperHex ?_)⟩⟩ <;> omega
  · rename_i plain
    exact List.forall_mem_singleton.mpr (inSegment_of_not_escaped (by simpa using plain)).1

theorem unescape_escapeByte (b : UInt8) (rest : Text.Bytes) :
    unescape ((escapeByte b).map (fun c => UInt8.ofNat c.toNat) ++ rest) = b :: unescape rest := by
  unfold escapeByte
  split
  · have small := b.toNat_lt
    have value : UInt8.ofNat (b.toNat / 16) * 16 + UInt8.ofNat (b.toNat % 16) = b := by
      rw [← UInt8.toNat_inj, UInt8.toNat_add, UInt8.toNat_mul, UInt8.toNat_ofNat',
        UInt8.toNat_ofNat']
      show (b.toNat / 16 % 256 * 16 % 256 + b.toNat % 16 % 256) % 256 = b.toNat
      omega
    show unescape (0x25 :: UInt8.ofNat (upperHex (b.toNat / 16)).toNat ::
      UInt8.ofNat (upperHex (b.toNat % 16)).toNat :: rest) = _
    rw [unescape.eq_1, hexValue?_upperHex (by omega), hexValue?_upperHex (by omega)]
    exact congrArg (· :: unescape rest) value
  · rename_i plain
    obtain ⟨-, number, other⟩ := inSegment_of_not_escaped (by simpa using plain)
    rw [List.map_cons, number, UInt8.ofNat_toNat]
    exact unescape.eq_2 _ _ fun _ _ _ same _ => other same

-- ---------------------------------------------------------------------------
-- Segments
-- ---------------------------------------------------------------------------

theorem inSegment_escapeSegment (segment : List Char) :
    ∀ c ∈ escapeSegment segment, InSegment c := by
  intro c mem
  obtain ⟨b, -, mem⟩ := List.mem_flatMap.mp mem
  exact inSegment_escapeByte b c mem

theorem unescape_escapeSegment (segment : List Char) (rest : Text.Bytes) :
    unescape (Text.encode (String.ofList (escapeSegment segment)) ++ rest) =
      Text.encode (String.ofList segment) ++ unescape rest := by
  rw [Text.encode_ofList_ascii fun c mem => (inSegment_escapeSegment segment c mem).ascii,
    escapeSegment]
  induction Text.encode (String.ofList segment) with
  | nil => rfl
  | cons b bytes ih =>
    rw [List.flatMap_cons, List.map_append, List.append_assoc, unescape_escapeByte, ih]
    rfl

theorem escapeSegment_inj {s t : List Char} : escapeSegment s = escapeSegment t ↔ s = t := by
  refine ⟨fun same => ?_, congrArg escapeSegment⟩
  have bytes := (unescape_escapeSegment s []).symm.trans (same ▸ unescape_escapeSegment t [])
  have texts := Text.encode_inj.mp (List.append_cancel_right bytes)
  exact String.ofList_injective texts

theorem resolveDots_percent {a e : Char} (other : a = '2' → e ≠ 'e' ∧ e ≠ 'E')
    (rest : List Char) : resolveDots ('%' :: a :: e :: rest) = '%' :: a :: e :: rest := by
  unfold resolveDots
  split
  · rename_i same
    cases same
    obtain ⟨lower, upper⟩ := other rfl
    exact if_neg (by simp [lower, upper])
  · rename_i same
    cases same
  · rfl

theorem resolveDots_plain {c : Char} (percent : c ≠ '%') (dot : c ≠ '.') (rest : List Char) :
    resolveDots (c :: rest) = c :: rest := by
  unfold resolveDots
  split
  · rename_i same
    cases same
    exact absurd rfl percent
  · rename_i same
    cases same
    exact absurd rfl dot
  · rfl

theorem resolveDots_escapeSegment (segment : List Char) :
    resolveDots (escapeSegment segment) = escapeSegment segment := by
  unfold escapeSegment
  induction Text.encode (String.ofList segment) with
  | nil => rfl
  | cons b bytes ih =>
    rw [List.flatMap_cons]
    generalize bytes.flatMap escapeByte = rest at ih
    unfold escapeByte
    split
    · rename_i escaped
      have small := b.toNat_lt
      obtain ⟨high, -⟩ := upperHex_eq (n := b.toNat / 16) (by omega)
      obtain ⟨-, lower, upper⟩ := upperHex_eq (n := b.toNat % 16) (by omega)
      refine resolveDots_percent (fun two => ⟨lower, fun e => ?_⟩) rest
      have number : b.toNat = 0x2e := by
        have first := high two
        have second := upper e
        omega
      obtain rfl : b = 0x2e := UInt8.toNat_inj.mp number
      cases escaped
    · rename_i plain
      by_cases dot : Char.ofNat b.toNat = '.'
      · rw [dot]
        exact congrArg ('.' :: ·) ih
      · refine resolveDots_plain (fun percent => ?_) dot rest
        obtain ⟨-, number, other⟩ := inSegment_of_not_escaped (by simpa using plain)
        rw [percent] at number
        exact other (UInt8.toNat_inj.mp number.symm)

end DebugAdapter.Paths
