import DebugAdapter.Proofs.Text.Encoding

/-!
# Bytes read back as text

Lossy reading replaces only what is ill-formed. The bytes of a text are read as its
characters, one after the other (`charsLossy_encode`), so a text can be told from its bytes.
-/

namespace DebugAdapter.Text

def follower (n : Nat) : UInt8 := UInt8.ofNat (n % 64 + 128)

theorem toNat_follower (n : Nat) : (follower n).toNat = n % 64 + 128 := by
  rw [follower, UInt8.toNat_ofNat', Nat.mod_eq_of_lt (by omega)]

theorem takeContinuation_follower {lo hi : UInt8} (low : lo.toNat ≤ m % 64 + 128)
    (high : m % 64 + 128 ≤ hi.toNat) (n : Nat) (rest : Bytes) :
    takeContinuation (n + 1) lo hi (follower m :: rest) =
      follower m :: takeContinuation n 0x80 0xbf rest := by
  have within : (lo ≤ follower m && follower m ≤ hi) = true := by
    rw [Bool.and_eq_true, decide_eq_true_eq, decide_eq_true_eq, UInt8.le_iff_toNat_le,
      UInt8.le_iff_toNat_le, toNat_follower]
    exact ⟨low, high⟩
  rw [takeContinuation, if_pos within]

theorem takeContinuation_follower' (n m : Nat) (rest : Bytes) :
    takeContinuation (n + 1) 0x80 0xbf (follower m :: rest) =
      follower m :: takeContinuation n 0x80 0xbf rest :=
  takeContinuation_follower (Nat.le_add_left ..) (show _ ≤ 191 by omega) n rest

theorem continuation?_ofNat {k : Nat} (small : k < 256) :
    continuation? (UInt8.ofNat k) =
      if k < 128 then some (0, 0x80, 0xbf)
      else if k < 194 then none
      else if k < 224 then some (1, 0x80, 0xbf)
      else if k = 224 then some (2, 0xa0, 0xbf)
      else if k = 237 then some (2, 0x80, 0x9f)
      else if k < 240 then some (2, 0x80, 0xbf)
      else if k = 240 then some (3, 0x90, 0xbf)
      else if k < 244 then some (3, 0x80, 0xbf)
      else if k = 244 then some (3, 0x80, 0x8f)
      else none := by
  simp only [continuation?, UInt8.lt_iff_toNat_lt, ← UInt8.toNat_inj, UInt8.toNat_ofNat_of_lt' small]
  rfl

theorem headLossy_eq {lead lo hi : UInt8} {tail rest : Bytes}
    (kind : continuation? lead = some (tail.length, lo, hi))
    (taken : takeContinuation tail.length lo hi (tail ++ rest) = tail)
    (value : codePoint lead tail = c.toNat) :
    headLossy lead (tail ++ rest) = (c, tail.length) := by
  simp only [headLossy, kind, taken, if_pos, value, Char.ofNat_toNat]

/-- The first of two bytes that follow is so narrow that no surrogate is written, nor a
character that has a shorter form. -/
theorem continuation?_two {n : Nat} (large : 0x7ff < n) (small : n ≤ 0xffff)
    (valid : n < 0xd800 ∨ 0xdfff < n) :
    ∃ lo hi, continuation? (UInt8.ofNat (n / 4096 % 16 + 224)) = some (2, lo, hi) ∧
      lo.toNat ≤ n / 64 % 64 + 128 ∧ n / 64 % 64 + 128 ≤ hi.toNat := by
  rw [continuation?_ofNat (by omega), if_neg (by omega), if_neg (by omega), if_neg (by omega)]
  split
  · exact ⟨0xa0, 0xbf, rfl, show 160 ≤ _ by omega, show _ ≤ 191 by omega⟩
  split
  · exact ⟨0x80, 0x9f, rfl, Nat.le_add_left .., show _ ≤ 159 by omega⟩
  · rw [if_pos (by omega)]
    exact ⟨0x80, 0xbf, rfl, Nat.le_add_left .., show _ ≤ 191 by omega⟩

/-- The first of three bytes that follow is so narrow that no number past the last character
is written, nor a character that has a shorter form. -/
theorem continuation?_three {n : Nat} (large : 0xffff < n) (small : n < 0x110000) :
    ∃ lo hi, continuation? (UInt8.ofNat (n / 262144 % 8 + 240)) = some (3, lo, hi) ∧
      lo.toNat ≤ n / 4096 % 64 + 128 ∧ n / 4096 % 64 + 128 ≤ hi.toNat := by
  rw [continuation?_ofNat (by omega), if_neg (by omega), if_neg (by omega), if_neg (by omega),
    if_neg (by omega), if_neg (by omega), if_neg (by omega)]
  split
  · exact ⟨0x90, 0xbf, rfl, show 144 ≤ _ by omega, show _ ≤ 191 by omega⟩
  split
  · exact ⟨0x80, 0xbf, rfl, Nat.le_add_left .., show _ ≤ 191 by omega⟩
  · rw [if_pos (by omega)]
    exact ⟨0x80, 0x8f, rfl, Nat.le_add_left .., show _ ≤ 143 by omega⟩

theorem headLossy_utf8EncodeChar (c : Char) (rest : Bytes) :
    ∃ lead tail, String.utf8EncodeChar c = lead :: tail ∧
      headLossy lead (tail ++ rest) = (c, tail.length) := by
  have valid : c.toNat < 0xd800 ∨ 0xdfff < c.toNat ∧ c.toNat < 0x110000 := c.valid
  have same : c.val.toNat = c.toNat := rfl
  unfold String.utf8EncodeChar
  simp only [same]
  generalize number : c.toNat = n at valid
  split
  · have kind : continuation? (UInt8.ofNat n) = some (0, 0x80, 0xbf) := by
      rw [continuation?_ofNat (by omega), if_pos (by omega)]
    refine ⟨_, [], rfl, headLossy_eq kind rfl ?_⟩
    simp only [codePoint, List.length_nil, List.foldl_nil, number]
    exact UInt8.toNat_ofNat_of_lt' (show n < 256 by omega)
  split
  · have kind : continuation? (UInt8.ofNat (n / 64 % 32 + 192)) = some (1, 0x80, 0xbf) := by
      rw [continuation?_ofNat (by omega), if_neg (by omega), if_neg (by omega), if_pos (by omega)]
    refine ⟨_, [follower n], rfl, headLossy_eq kind (takeContinuation_follower' ..) ?_⟩
    simp only [codePoint, List.length_cons, List.length_nil, List.foldl_cons, List.foldl_nil,
      number, toNat_follower, UInt8.toNat_ofNat_of_lt' (show n / 64 % 32 + 192 < 256 by omega)]
    omega
  split
  · obtain ⟨lo, hi, kind, low, high⟩ := continuation?_two (n := n) (by omega) (by omega) (by omega)
    refine ⟨_, [follower (n / 64), follower n], rfl, headLossy_eq kind ?_ ?_⟩
    · exact (takeContinuation_follower low high ..).trans
        (congrArg (_ :: ·) (takeContinuation_follower' ..))
    · simp only [codePoint, List.length_cons, List.length_nil, List.foldl_cons, List.foldl_nil,
        number, toNat_follower, UInt8.toNat_ofNat_of_lt' (show n / 4096 % 16 + 224 < 256 by omega)]
      omega
  · obtain ⟨lo, hi, kind, low, high⟩ := continuation?_three (n := n) (by omega) (by omega)
    refine ⟨_, [follower (n / 4096), follower (n / 64), follower n], rfl,
      headLossy_eq kind ?_ ?_⟩
    · exact (takeContinuation_follower low high ..).trans (congrArg (_ :: ·)
        ((takeContinuation_follower' ..).trans (congrArg (_ :: ·) (takeContinuation_follower' ..))))
    · simp only [codePoint, List.length_cons, List.length_nil, List.foldl_cons, List.foldl_nil,
        number, toNat_follower, UInt8.toNat_ofNat_of_lt' (show n / 262144 % 8 + 240 < 256 by omega)]
      omega

theorem charsLossy_encode (s : String) : charsLossy (encode s) = s.toList := by
  rw [encode_eq_flatMap]
  induction s.toList with
  | nil => rw [List.flatMap_nil, charsLossy]
  | cons c cs ih =>
    obtain ⟨lead, tail, bytes, head⟩ :=
      headLossy_utf8EncodeChar c (cs.flatMap String.utf8EncodeChar)
    rw [List.flatMap_cons, bytes, List.cons_append, charsLossy]
    simp only [head, List.drop_left, ih]

theorem decodeLossy_encode (s : String) : decodeLossy (encode s) = s := by
  rw [decodeLossy, charsLossy_encode, String.ofList_toList]

theorem encode_inj {s t : String} : encode s = encode t ↔ s = t := by
  refine ⟨fun same => ?_, congrArg encode⟩
  rw [← decodeLossy_encode s, same, decodeLossy_encode]

end DebugAdapter.Text
