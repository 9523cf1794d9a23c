import DebugAdapter.Proofs.Json.Depth
import DebugAdapter.Proofs.Protocol.Cuts
import Mathlib.Data.List.Infix

/-!
# Connections that are cut

Whatever messages are written, and wherever their bytes end, a reader finds those whose
frames are whole, and notices if another one had begun (`readAll_cut`). What it makes of a
message is up to the format: one that nests too deep is skipped like any payload that is no
message, and a floating-point number may come back as its neighbour.
-/

namespace DebugAdapter

open Text (Bytes)

-- ---------------------------------------------------------------------------
-- Texts
-- ---------------------------------------------------------------------------

namespace Json

theorem decimalChars_ne_nil (d : Decimal) : decimalChars d ≠ [] := by
  unfold decimalChars
  dsimp only
  split
  · split
    · exact List.append_ne_nil_of_right_ne_nil _ (List.cons_ne_nil _ _)
    · exact List.append_ne_nil_of_right_ne_nil _ (List.cons_ne_nil _ _)
  · exact List.append_ne_nil_of_right_ne_nil _ (List.cons_ne_nil _ _)

theorem intChars_ne_nil (i : Int) : intChars i ≠ [] := by
  cases i with
  | ofNat n => exact Nat.toDigits_ne_nil
  | negSucc n => exact List.cons_ne_nil _ _

theorem floatChars_ne_nil (x : Binary64) : floatChars x ≠ [] := by
  cases x with
  | finite s m e => exact List.append_ne_nil_of_right_ne_nil _ (decimalChars_ne_nil _)
  | _ => exact List.cons_ne_nil _ _

theorem chars_ne_nil (j : Json) : chars j ≠ [] := by
  cases j with
  | null => exact List.cons_ne_nil _ _
  | bool b => cases b <;> exact List.cons_ne_nil _ _
  | int i => exact intChars_ne_nil i
  | float x => exact floatChars_ne_nil x
  | str s => exact List.cons_ne_nil _ _
  | arr js => cases js <;> exact List.cons_ne_nil _ _
  | obj ms => cases ms <;> exact List.cons_ne_nil _ _

end Json

-- ---------------------------------------------------------------------------
-- Messages that are cut off
-- ---------------------------------------------------------------------------

namespace Framing

/-- What a reader makes of a message that it gets whole. -/
def reread (message : Json) : Option Json := Json.ofBytes? (payloadOf message)

theorem payloadOf_ne_nil (message : Json) : payloadOf message ≠ [] := by
  obtain ⟨c, cs, written⟩ := List.exists_cons_of_ne_nil (Json.chars_ne_nil message)
  rw [payloadOf, Text.encode_eq_flatMap, Json.print, String.toList_ofList, written,
    List.flatMap_cons]
  exact List.append_ne_nil_of_left_ne_nil (String.utf8EncodeChar_ne_nil) _

theorem reread_regular {message : Json} (regular : message.Regular) :
    reread message = if message.nesting < 128 then some message else none := by
  rw [reread, Json.ofBytes?, payloadOf, Text.decode?_encode, Option.bind_some, regular.parse?]
  rfl

theorem allFramed_payloads (messages : List Json) :
    allFramed (messages.map payloadOf) = messages.flatMap frame := by
  rw [allFramed, List.flatMap_map]
  rfl

section
variable {messages : List Json} {cut : Bytes}

theorem readAll_written (small : ∀ m ∈ messages, (payloadOf m).length ≤ maxLength) :
    readAll (messages.flatMap frame) = (messages.filterMap reread, none) := by
  have read := readAll_framed (List.forall_mem_map.mpr small) []
  rw [List.append_nil, allFramed_payloads, readAll_nil, List.append_nil, List.filterMap_map] at read
  exact read

/-- Of what is left of some frames a reader makes as many messages as are whole in it, and
finds no fault with it exactly if it ends where a frame does. -/
theorem readAll_cut (small : ∀ m ∈ messages, (payloadOf m).length ≤ 16777216)
    (part : cut <+: messages.flatMap frame) :
    ∃ k ≤ messages.length,
      (∀ j ≤ messages.length, j ≤ k ↔ (messages.take j).flatMap frame <+: cut) ∧
      (readAll cut).1 = (messages.take k).filterMap reread ∧
      (∀ m ∈ messages, m.Regular → reread m = if m.nesting < 128 then some m else none) ∧
      ((readAll cut).2 = none ↔ ∃ j ≤ messages.length, cut = (messages.take j).flatMap frame) := by
  have sound : ∀ p ∈ messages.map payloadOf, p.length ≤ maxLength ∧ p ≠ [] :=
    List.forall_mem_map.mpr fun m mem => ⟨small m mem, payloadOf_ne_nil m⟩
  obtain ⟨read, ended⟩ := readAll_take (fun p mem => (sound p mem).1)
    (fun p mem => (sound p mem).2) cut.length
  have most := wholeFrames_le cut.length (messages.map payloadOf)
  have fits := @le_wholeFrames (messages.map payloadOf) cut.length
  rw [allFramed_payloads, ← List.prefix_iff_eq_take.mp part, ← List.map_take] at read ended
  simp only [← List.map_take, allFramed_payloads, List.length_map] at most fits ended
  generalize wholeFrames cut.length (messages.map payloadOf) = k at *
  have whole (j : Nat) (there : j ≤ messages.length) :
      j ≤ k ↔ (messages.take j).flatMap frame <+: cut := by
    have head := (List.take_prefix j messages).flatMap frame
    rw [fits there]
    exact ⟨List.prefix_of_prefix_length_le head part, List.IsPrefix.length_le⟩
  refine ⟨k, most, whole, ?_, fun m _ => reread_regular, ?_⟩
  · rw [read, List.filterMap_map]
    rfl
  · rw [ended]
    refine ⟨fun same => ⟨k, most, same⟩, fun ⟨j, there, same⟩ => ?_⟩
    have below : j ≤ k := (whole j there).mpr (same ▸ List.prefix_rfl)
    have longer : messages.take j <+: messages.take k := List.take_prefix_take_left below
    have length := (longer.flatMap frame).length_le
    rw [← same] at length
    exact (((whole k most).mp (Nat.le_refl k)).eq_of_length_le length).symm

end

/-- A header that breaks off inside its blank line, which looks blank already. -/
theorem readAll_cut_in_blank_line :
    let cut := Text.encode "Content-Length: 4\r\n\r\nnullContent-Length: 6\r\n\r"
    cut <+: [.null, .str "next"].flatMap frame ∧
      (readAll cut).1 = [.null] ∧ (readAll cut).2 ≠ none := by
  intro cut
  have part : cut <+: [.null, .str "next"].flatMap frame := by decide +kernel
  have small : ∀ m ∈ [.null, .str "next"], (payloadOf m).length ≤ 16777216 := by decide +kernel
  have first : [.null].flatMap frame <+: cut := by decide +kernel
  have second : ¬[.null, .str "next"].flatMap frame <+: cut := by decide +kernel
  obtain ⟨k, most, whole, read, back, ended⟩ := readAll_cut small part
  have one : 1 ≤ k := (whole 1 (by decide)).mpr first
  have two : ¬2 ≤ k := fun all => second ((whole 2 (by decide)).mp all)
  obtain rfl : k = 1 := by omega
  have null : reread .null = some .null := back .null List.mem_cons_self ⟨0, .null⟩
  refine ⟨part, ?_, ?_⟩
  · rw [read, List.take_succ_cons, List.take_zero, List.filterMap_cons_some null, List.filterMap_nil]
  · rw [ne_eq, ended]
    decide +kernel

/-- Neither of these two messages gets to the reader as it is: one nests too deep, and the
digits of the other one are read as its neighbour. -/
theorem readAll_not_faithful :
    let messages := [Json.inArrays 128 .null, .float (.finite false 6984403345664324 (-46))]
    (∀ m ∈ messages, (payloadOf m).length ≤ 16777216) ∧
      (readAll (messages.flatMap frame)).1 = [.float (.finite false 6984403345664325 (-46))] ∧
      (readAll (messages.flatMap frame)).1 ≠ messages := by
  intro messages
  have small : ∀ m ∈ messages, (payloadOf m).length ≤ 16777216 := by decide +kernel
  have deep : reread (Json.inArrays 128 .null) = none := by
    have regular : Json.Regular .null := ⟨0, .null⟩
    rw [reread_regular (regular.inArrays 128), Json.nesting_inArrays]
    rfl
  have dense : reread (.float (.finite false 6984403345664324 (-46))) =
      some (.float (.finite false 6984403345664325 (-46))) := by
    rw [reread, Json.ofBytes?, payloadOf, Text.decode?_encode]
    rfl
  have read : (readAll (messages.flatMap frame)).1 =
      [.float (.finite false 6984403345664325 (-46))] := by
    rw [readAll_written small, List.filterMap_cons_none deep, List.filterMap_cons_some dense,
      List.filterMap_nil]
  refine ⟨small, read, ?_⟩
  rw [read]
  exact fun same => absurd (congrArg List.length same) (Nat.ne_of_lt (Nat.lt_succ_self 1))

end Framing

end DebugAdapter
