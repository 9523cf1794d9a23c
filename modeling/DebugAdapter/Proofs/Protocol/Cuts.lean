import DebugAdapter.Proofs.Protocol.Queue

/-!
# Streams that are cut off

A stream that takes only so many bytes gets the head of what it would have got
otherwise, wherever its room ends. Its reader finds the messages of the whole
frames in it, and of the torn one at the end only that something is missing.
-/

namespace DebugAdapter

open Text (Bytes)

namespace Framing

-- ---------------------------------------------------------------------------
-- Torn frames
-- ---------------------------------------------------------------------------

section
variable {payload torn : Bytes} {n : Nat}

theorem nextFrom_lastLine (seen : Bool) (length : Option Nat) (text : String)
    (oneLine : '\n' ∉ text.toList) (filled : Text.encode text ≠ []) :
    nextFrom true seen length (Text.encode text) =
      match trimLineEnd text.toList with
      | [] => takePayload true length []
      | cs =>
        match lengthAfter length cs with
        | .error reason => .broken reason
        | .ok length => nextFrom true true length [] := by
  have whole : splitLine? (Text.encode text) = none := by
    have feed := Text.lineFeed_not_mem_encode oneLine
    generalize Text.encode text = bytes at feed
    induction bytes with
    | nil => rfl
    | cons b bytes ih =>
      rw [List.mem_cons, not_or] at feed
      simp [splitLine?, Ne.symm feed.1, ih feed.2]
  have line : nextLine? true (Text.encode text) = some (Text.encode text, []) := by
    simp [nextLine?, whole, filled]
  rw [nextFrom]
  split
  · rename_i none
    rw [line] at none
    cases none
  · rename_i found
    rw [line] at found
    cases found
    rewrite [Text.decode?_encode]
    rfl

theorem nextFrom_ended (length : Option Nat) :
    nextFrom true true length [] = .broken .closedInHeader := by
  rw [nextFrom]
  rfl

theorem takePayload_torn (small : n ≤ maxLength) (short : torn.length < n) :
    takePayload true (some n) torn = .broken .closedInPayload := by
  simp [takePayload, Nat.not_lt.mpr small, Nat.not_le.mpr short]

theorem ascii_lengthLine : ∀ c ∈ (lengthLine n).text.toList, c.toNat < 0x80 := by
  intro c mem
  simp only [lengthLine, lengthValue, String.toList_ofList, List.mem_append, List.mem_cons,
    List.not_mem_nil, or_false] at mem
  obtain mem | (rfl | mem) | rfl := mem
  · have ascii : fieldName.all (fun c => c.toNat < 0x80) = true := by decide
    simpa using List.all_eq_true.mp ascii c mem
  · decide
  · have digit := Json.isDigit_of_mem_toDigits mem
    simp only [Char.isDigit, Bool.and_eq_true, decide_eq_true_eq, UInt32.le_iff_toNat_le] at digit
    have below : c.toNat ≤ 57 := digit.2
    omega
  · decide

/-- Whatever is left of the line about the length, digits that make a smaller number
among it, its header has no end. -/
theorem next_tornLine (cut : torn <+: Text.encode (lengthLine n).text) (begun : torn ≠ []) :
    ∃ reason, next true torn = .broken reason := by
  obtain ⟨k, rfl⟩ : ∃ k,
      torn = Text.encode (String.ofList ((lengthLine n).text.toList.take k)) := by
    rw [List.prefix_iff_eq_take, ← String.ofList_toList (s := (lengthLine n).text)] at cut
    exact ⟨_, cut.trans (Text.encode_take ascii_lengthLine _)⟩
  have oneLine : '\n' ∉ (String.ofList ((lengthLine n).text.toList.take k)).toList := by
    rw [String.toList_ofList]
    exact fun mem => (lengthLine n).oneLine (List.mem_of_mem_take mem)
  have start : (lengthLine n).text.toList = 'C' :: (lengthLine n).text.toList.tail := by
    rw [lengthLine, String.toList_ofList]
    rfl
  have name : 'C' ∈ (String.ofList ((lengthLine n).text.toList.take k)).toList := by
    cases k with
    | zero => exact absurd rfl begun
    | succ k =>
      rw [String.toList_ofList, start, List.take_succ_cons]
      exact List.mem_cons_self
  rw [next, nextFrom_lastLine false none _ oneLine begun]
  split
  · rename_i blank
    exact absurd ((trimLineEnd_eq_nil oneLine).mp blank 'C' name) (by decide)
  · split
    · exact ⟨_, rfl⟩
    · exact ⟨_, nextFrom_ended _⟩

/-- Cut at the line feed of the blank line, the rest still looks like a blank line, and
the payload after it is missing. -/
theorem nextFrom_tornPayload (small : payload.length ≤ maxLength) (filled : payload ≠ [])
    (cut : torn <+: 0x0d :: 0x0a :: payload) (short : torn ≠ 0x0d :: 0x0a :: payload) :
    ∃ reason, nextFrom true true (some payload.length) torn = .broken reason := by
  obtain rfl | ⟨torn, rfl, feed⟩ := List.prefix_cons_iff.mp cut
  · exact ⟨_, nextFrom_ended _⟩
  obtain rfl | ⟨body, rfl, part⟩ := List.prefix_cons_iff.mp feed
  · have missing : 0 < payload.length := List.length_pos_iff.mpr filled
    have last : nextFrom true true (some payload.length) [0x0d] =
        takePayload true (some payload.length) [] :=
      nextFrom_lastLine true (some payload.length) "\r" (by decide) (by decide)
    exact ⟨_, last.trans (takePayload_torn small missing)⟩
  · have less : body.length < payload.length := by
      refine Nat.lt_of_le_of_ne part.length_le fun same => short ?_
      rw [part.eq_of_length same]
    have blank := nextFrom_blankLine true true (some payload.length) 1 body
    exact ⟨_, blank.trans (takePayload_torn small less)⟩

/-- A frame that lacks any of its last bytes gives no payload, wherever it is cut. -/
theorem next_torn (small : payload.length ≤ maxLength) (filled : payload ≠ [])
    (cut : torn <+: framed payload) (short : torn ≠ framed payload) (begun : torn ≠ []) :
    ∃ reason, next true torn = .broken reason := by
  have frame : framed payload = Text.encode (lengthLine payload.length).text ++
      0x0a :: 0x0d :: 0x0a :: payload := by
    simp [framed, header_eq, HeaderLine.bytes, blankLine]
  rw [frame] at cut short
  obtain line | ⟨after, rfl⟩ := List.prefix_or_prefix_of_prefix cut (List.prefix_append ..)
  · exact next_tornLine line begun
  obtain rfl | ⟨rest, rfl, part⟩ :=
    List.prefix_cons_iff.mp ((List.prefix_append_right_inj _).mp cut)
  · rw [List.append_nil] at begun ⊢
    exact next_tornLine List.prefix_rfl begun
  · have gives := gives_lengthLine (Nat.le_trans small maxLength_le_maxNumber)
    have line := nextFrom_of_gives true false none gives rest
    rw [HeaderLine.bytes, List.append_assoc, List.singleton_append] at line
    rw [next, line]
    refine nextFrom_tornPayload small filled part fun same => short ?_
    rw [same]

theorem readAll_torn (small : payload.length ≤ maxLength) (filled : payload ≠ [])
    (cut : torn <+: framed payload) (short : torn ≠ framed payload) (begun : torn ≠ []) :
    ∃ reason, readAll torn = ([], some reason) := by
  obtain ⟨reason, broken⟩ := next_torn small filled cut short begun
  refine ⟨reason, ?_⟩
  rw [readAll, payloads, payloadsFrom_succ, broken]
  rfl

end

-- ---------------------------------------------------------------------------
-- Cuts through frames in a row
-- ---------------------------------------------------------------------------

def wholeFrames : Nat → List Bytes → Nat
  | _, [] => 0
  | room, p :: ps =>
    if (framed p).length ≤ room then wholeFrames (room - (framed p).length) ps + 1 else 0

section
variable {room : Nat} {ps : List Bytes}

theorem wholeFrames_le (room : Nat) (ps : List Bytes) : wholeFrames room ps ≤ ps.length := by
  fun_induction wholeFrames room ps with
  | case1 => exact Nat.le_refl 0
  | case2 room p ps fits ih => exact Nat.succ_le_succ ih
  | case3 room p ps torn => exact Nat.zero_le _

theorem le_wholeFrames (room : Nat) {j : Nat} (there : j ≤ ps.length) :
    j ≤ wholeFrames room ps ↔ (allFramed (ps.take j)).length ≤ room := by
  induction ps generalizing room j with
  | nil => simp_all
  | cons p ps ih =>
    cases j with
    | zero => simp
    | succ j =>
      have rest := ih (room - (framed p).length) (Nat.le_of_succ_le_succ there)
      rw [wholeFrames, List.take_succ_cons, allFramed_cons, List.length_append]
      split
      · rw [Nat.succ_le_succ_iff, rest]
        omega
      · simp only [Nat.le_zero_eq, Nat.succ_ne_zero, false_iff]
        omega

theorem exists_torn (room : Nat) (ps : List Bytes) :
    ∃ torn, (allFramed ps).take room = allFramed (ps.take (wholeFrames room ps)) ++ torn ∧
      (torn ≠ [] → ∃ p ∈ ps, torn <+: framed p ∧ torn ≠ framed p) := by
  fun_induction wholeFrames room ps with
  | case1 => exact ⟨[], by simp, by simp⟩
  | case2 room p ps fits ih =>
    obtain ⟨torn, head, part⟩ := ih
    refine ⟨torn, ?_, fun begun => ?_⟩
    · rw [allFramed_cons, List.take_append, List.take_of_length_le fits, head]
      simp
    · obtain ⟨q, mem, cut⟩ := part begun
      exact ⟨q, List.mem_cons_of_mem p mem, cut⟩
  | case3 room p ps torn =>
    refine ⟨(framed p).take room, ?_, fun _ => ⟨p, List.mem_cons_self, List.take_prefix .., ?_⟩⟩
    · rw [allFramed_cons, List.take_append_of_le_length (by omega)]
      rfl
    · intro same
      have length := congrArg List.length same
      rw [List.length_take] at length
      omega

/-- The head of some frames gives the messages of those that are whole in it, and ends
well exactly if it is nothing but those. -/
theorem readAll_take (small : ∀ p ∈ ps, p.length ≤ maxLength) (filled : ∀ p ∈ ps, p ≠ [])
    (room : Nat) :
    (readAll ((allFramed ps).take room)).1 =
        (ps.take (wholeFrames room ps)).filterMap Json.ofBytes? ∧
      ((readAll ((allFramed ps).take room)).2 = none ↔
        (allFramed ps).take room = allFramed (ps.take (wholeFrames room ps))) := by
  obtain ⟨torn, head, part⟩ := exists_torn room ps
  have small' : ∀ p ∈ ps.take (wholeFrames room ps), p.length ≤ maxLength := fun p mem =>
    small p (List.mem_of_mem_take mem)
  rw [head, readAll_framed small', List.append_right_eq_self]
  by_cases begun : torn = []
  · simp [begun, readAll_nil]
  · obtain ⟨p, mem, cut, short⟩ := part begun
    obtain ⟨reason, read⟩ := readAll_torn (small p mem) (filled p mem) cut short begun
    simp [begun, read]

end

end Framing

namespace Stream

open Framing

-- ---------------------------------------------------------------------------
-- What is taken of several writes
-- ---------------------------------------------------------------------------

def acceptAll (room : Option Nat) : List Bytes → Bytes
  | [] => []
  | part :: parts =>
    if fits room part then (accept room part).1 ++ acceptAll (accept room part).2 parts
    else (accept room part).1

theorem acceptAll_some (room : Nat) (parts : List Bytes) :
    acceptAll (some room) parts = parts.flatten.take room := by
  induction parts generalizing room with
  | nil => simp [acceptAll]
  | cons part parts ih =>
    simp only [acceptAll, accept, fits, decide_eq_true_eq, ih, List.flatten_cons]
    split
    · rename_i whole
      rw [List.take_append, List.take_of_length_le whole]
    · rename_i torn
      rw [List.take_append_of_le_length (by omega)]

theorem acceptAll_none (parts : List Bytes) : acceptAll none parts = parts.flatten := by
  induction parts with
  | nil => rfl
  | cons part parts ih => simp [acceptAll, accept, fits, ih]

-- ---------------------------------------------------------------------------
-- What is written of a queue
-- ---------------------------------------------------------------------------

def parts (seq : Nat) : List Outgoing → List Bytes
  | [] => []
  | item :: queue =>
    match item.envelope? (seq + 1) with
    | none => []
    | some message =>
      header (payloadOf message).length :: payloadOf message :: parts (seq + 1) queue

theorem bytes_writeFrom (room : Option Nat) (seq : Nat) (queue : List Outgoing) :
    (writeFrom room seq queue).bytes = acceptAll room (parts seq queue) := by
  induction queue generalizing room seq with
  | nil => rfl
  | cons item queue ih =>
    rw [writeFrom, parts]
    cases item.envelope? (seq + 1) with
    | none => rfl
    | some message =>
      simp only [acceptAll, Bool.not_eq_true', ih]
      split
      · rename_i torn
        simp [torn]
      split
      · rename_i whole torn
        simp [whole, torn]
      · rename_i whole filled
        simp [whole, filled]

theorem bytes_writeFrom_some (room seq : Nat) (queue : List Outgoing) :
    (writeFrom (some room) seq queue).bytes = (writeFrom none seq queue).bytes.take room := by
  rw [bytes_writeFrom, bytes_writeFrom, acceptAll_some, acceptAll_none]

theorem writeFrom_none_cons (seq : Nat) (item : Outgoing) (queue : List Outgoing) :
    writeFrom none seq (item :: queue) =
      match item.envelope? (seq + 1) with
      | none => ⟨[], []⟩
      | some message =>
        ⟨framed (payloadOf message) ++ (writeFrom none (seq + 1) queue).bytes,
          payloadOf message :: (writeFrom none (seq + 1) queue).payloads⟩ := by
  rw [writeFrom]
  cases item.envelope? (seq + 1) <;> simp [accept, fits, framed]

theorem bytes_writeFrom_none (seq : Nat) (queue : List Outgoing) :
    (writeFrom none seq queue).bytes = allFramed (writeFrom none seq queue).payloads := by
  induction queue generalizing seq with
  | nil => rfl
  | cons item queue ih =>
    rw [writeFrom_none_cons]
    cases item.envelope? (seq + 1) with
    | none => rfl
    | some message => simp [ih]

theorem payload_ne_nil {seq : Nat} {queue : List Outgoing} {p : Bytes}
    (mem : p ∈ (writeFrom none seq queue).payloads) : p ≠ [] := by
  induction queue generalizing seq with
  | nil => cases mem
  | cons item queue ih =>
    rw [writeFrom_none_cons] at mem
    cases item with
    | close => cases mem
    | _ =>
      simp only [Outgoing.envelope?, List.mem_cons] at mem
      obtain rfl | mem := mem
      · simp [payloadOf, Text.encode_eq_flatMap, Json.print, Json.chars]
      · exact ih mem

theorem payloads_writeFrom_some (room seq : Nat) (queue : List Outgoing) :
    (writeFrom (some room) seq queue).payloads =
      (writeFrom none seq queue).payloads.take
        (wholeFrames room (writeFrom none seq queue).payloads + 1) := by
  induction queue generalizing room seq with
  | nil => rfl
  | cons item queue ih =>
    rw [writeFrom_none_cons, writeFrom]
    cases item.envelope? (seq + 1) with
    | none => rfl
    | some message =>
      have length : (framed (payloadOf message)).length =
          (header (payloadOf message).length).length + (payloadOf message).length :=
        List.length_append
      simp only [accept, fits, Bool.not_eq_true', decide_eq_false_iff_not, ih, wholeFrames,
        List.take_succ_cons, length]
      split
      · rename_i torn
        rw [if_neg (by omega), List.take_zero]
      split
      · rename_i torn
        rw [if_neg (by omega), List.take_zero]
      · rename_i whole filled
        rw [if_pos (by omega), Nat.sub_add_eq]

/-- A stream that takes only so many bytes of what is written to it, in however many
writes, has the head of what it would have had otherwise. A reader of it finds the
messages of those first frames that fit in, and no others. -/
theorem limited_stream (queue : List Outgoing) (room : Nat) :
    let whole := write none queue
    let got := (write (some room) queue).bytes
    got = whole.bytes.take room ∧
      (∀ writes : List Bytes, writes.flatten = whole.bytes → acceptAll (some room) writes = got) ∧
      ((∀ p ∈ whole.payloads, p.length ≤ maxLength) →
        (readAll got).1 <+: (readAll whole.bytes).1 ∧
        ∀ messages : List Json, whole.payloads.map Json.ofBytes? = messages.map some →
          (readAll whole.bytes).1 = messages ∧
          ∃ k ≤ messages.length, (readAll got).1 = messages.take k ∧
            (write (some room) queue).payloads = whole.payloads.take (k + 1) ∧
            ∀ j ≤ messages.length,
              j ≤ k ↔ (allFramed (whole.payloads.take j)).length ≤ room) := by
  intro whole got
  have cut : got = whole.bytes.take room := bytes_writeFrom_some room 0 queue
  refine ⟨cut, fun writes same => ?_, fun small => ?_⟩
  · rw [acceptAll_some, same, cut]
  have frames : whole.bytes = allFramed whole.payloads := bytes_writeFrom_none 0 queue
  have all : (readAll whole.bytes).1 = whole.payloads.filterMap Json.ofBytes? := by
    rw [frames]
    exact congrArg Prod.fst (Queue.readAll_written small)
  have head : (readAll got).1 =
      (whole.payloads.take (wholeFrames room whole.payloads)).filterMap Json.ofBytes? := by
    rw [cut, frames]
    exact (readAll_take small (fun p mem => payload_ne_nil mem) room).1
  refine ⟨?_, fun messages back => ?_⟩
  · rw [head, all]
    exact (List.take_prefix _ _).filterMap _
  have count : whole.payloads.length = messages.length := by
    simpa using congrArg List.length back
  -- each payload is a message, so counting payloads is counting messages
  have read (k : Nat) : (whole.payloads.take k).filterMap Json.ofBytes? = messages.take k := by
    calc (whole.payloads.take k).filterMap Json.ofBytes?
        = ((whole.payloads.map Json.ofBytes?).take k).filterMap id := by
          rw [← List.map_take, List.filterMap_map, Function.id_comp]
      _ = messages.take k := by
          rw [back, ← List.map_take, List.filterMap_map, Function.id_comp, List.filterMap_some]
  refine ⟨?_, wholeFrames room whole.payloads, count ▸ wholeFrames_le _ _, ?_, ?_, ?_⟩
  · rw [all, ← List.take_length (l := whole.payloads), read, count, List.take_length]
  · rw [head, read]
  · exact payloads_writeFrom_some room 0 queue
  · exact fun j there => le_wholeFrames _ (count ▸ there)

/-- Cut off between the digits of the second length, where a smaller number is left. -/
theorem limited_stream_between_digits :
    let event : Queue.Sending := .event "initialized" none
    let response : Queue.Sending := .respondEmpty ⟨3, "threads"⟩
    (readAll (write (some 85) [event.item, response.item, .close, event.item]).bytes).1 =
      [event.message 1] := by
  intro event response
  obtain ⟨-, -, read⟩ := limited_stream [event.item, response.item, .close, event.item] 85
  have lengths : ((write none [event.item, response.item, .close, event.item]).payloads.map
      fun p => (p.length, (framed p).length)) = [(46, 68), (78, 100)] := by decide +kernel
  have payloads : (write none [event.item, response.item, .close, event.item]).payloads =
      [event.payload 1, response.payload 2] := rfl
  rw [payloads] at read lengths
  obtain ⟨⟨length₁, whole₁⟩, length₂, whole₂⟩ :
      ((event.payload 1).length = 46 ∧ (framed (event.payload 1)).length = 68) ∧
        (response.payload 2).length = 78 ∧ (framed (response.payload 2)).length = 100 := by
    simpa using lengths
  obtain ⟨-, messages⟩ := read (by simp [length₁, length₂, maxLength])
  have back : [event.payload 1, response.payload 2].map Json.ofBytes? =
      [event.message 1, response.message 2].map some := by
    simp only [List.map_cons, List.map_nil]
    rw [Queue.Sending.ofBytes?_payload, Queue.Sending.ofBytes?_payload]
    all_goals
      simp only [event, response, Queue.Sending.message, List.forall_mem_cons, List.not_mem_nil,
        false_implies, implies_true, Json.canonical_obj, Json.canonical_int, Json.canonical_str,
        Json.canonical_bool, List.pairwise_cons, List.Pairwise.nil, String.reduceLT, and_true,
        true_and]
      decide
  obtain ⟨-, k, few, got, -, fits⟩ := messages _ back
  have one := (fits 1 (by decide)).mpr (by simp [whole₁])
  have two : ¬2 ≤ k := fun all => by simpa [whole₁, whole₂] using (fits 2 (by decide)).mp all
  obtain rfl : k = 1 := by omega
  exact got

end Stream

end DebugAdapter
