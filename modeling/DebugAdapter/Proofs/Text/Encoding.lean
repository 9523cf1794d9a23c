import DebugAdapter.Text.Utf8

/-!
# Text in bytes

A text is encoded character by character, and a character of ASCII is a byte
that occurs in no other character. So a line feed ends a line of bytes where it
ends a line of text.
-/

namespace DebugAdapter.Text

theorem encode_eq_flatMap (s : String) : encode s = s.toList.flatMap String.utf8EncodeChar := by
  unfold encode
  rw [String.toUTF8_eq_toByteArray, ← String.utf8Encode_toList, List.utf8Encode,
    List.data_toByteArray]

theorem encode_append (s t : String) : encode (s ++ t) = encode s ++ encode t := by
  simp only [encode_eq_flatMap, String.toList_append, List.flatMap_append]

theorem mem_utf8EncodeChar {c : Char} {b : UInt8} (ascii : b < 0x80)
    (h : b ∈ String.utf8EncodeChar c) : c.toNat = b.toNat := by
  have small : b.toNat < 128 := ascii
  have named (n : Nat) (same : b = UInt8.ofNat n) : n % 256 = b.toNat := by
    rw [same]
    rfl
  unfold String.utf8EncodeChar at h
  dsimp only at h
  split at h
  · rename_i one
    have value := named _ (List.mem_singleton.mp h)
    have same : c.val.toNat = c.toNat := rfl
    omega
  -- every byte of a longer character is 128 or more
  split at h
  · simp only [List.mem_cons, List.not_mem_nil, or_false] at h
    obtain h | h := h
    all_goals have value := named _ h
    all_goals omega
  split at h
  · simp only [List.mem_cons, List.not_mem_nil, or_false] at h
    obtain h | h | h := h
    all_goals have value := named _ h
    all_goals omega
  · simp only [List.mem_cons, List.not_mem_nil, or_false] at h
    obtain h | h | h | h := h
    all_goals have value := named _ h
    all_goals omega

theorem mem_encode {s : String} {b : UInt8} (ascii : b < 0x80) (h : b ∈ encode s) :
    ∃ c ∈ s.toList, c.toNat = b.toNat := by
  rw [encode_eq_flatMap] at h
  obtain ⟨c, mem, h⟩ := List.mem_flatMap.mp h
  exact ⟨c, mem, mem_utf8EncodeChar ascii h⟩

theorem lineFeed_not_mem_encode {s : String} (h : '\n' ∉ s.toList) : 0x0a ∉ encode s := by
  intro mem
  obtain ⟨c, there, same⟩ := mem_encode (by decide) mem
  have feed : c = '\n' := Char.toNat_inj.mp same
  exact h (feed ▸ there)

theorem utf8EncodeChar_ascii {c : Char} (ascii : c.toNat < 0x80) :
    String.utf8EncodeChar c = [UInt8.ofNat c.toNat] := by
  have small : c.toNat ≤ 127 := Nat.le_of_lt_succ ascii
  simp [String.utf8EncodeChar, small]

theorem encode_ofList_ascii {cs : List Char} (ascii : ∀ c ∈ cs, c.toNat < 0x80) :
    encode (String.ofList cs) = cs.map fun c => UInt8.ofNat c.toNat := by
  have bytes : cs.map String.utf8EncodeChar = cs.map fun c => [UInt8.ofNat c.toNat] :=
    List.map_congr_left fun c mem => utf8EncodeChar_ascii (ascii c mem)
  rw [encode_eq_flatMap, String.toList_ofList, List.map_eq_flatMap, List.flatMap_def, bytes]
  rfl

theorem encode_take {cs : List Char} (ascii : ∀ c ∈ cs, c.toNat < 0x80) (n : Nat) :
    (encode (String.ofList cs)).take n = encode (String.ofList (cs.take n)) := by
  rw [encode_ofList_ascii ascii,
    encode_ofList_ascii fun c mem => ascii c (List.mem_of_mem_take mem), List.map_take]

end DebugAdapter.Text
