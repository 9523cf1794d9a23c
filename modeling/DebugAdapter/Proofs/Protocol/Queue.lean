import DebugAdapter.Proofs.Json.RoundTrip
import DebugAdapter.Proofs.Protocol.Frames
import DebugAdapter.Protocol.Stream

/-!
# Reading what a queue has written

What is put into the queue of a connection, up to the first close, comes out at
the other end of its stream: one message each, in order, numbered from 1, with
the members it was given and no others.
-/

namespace DebugAdapter

open Text (Bytes)
open Framing (payloadOf header maxLength readAll)

namespace Queue

/-- What is sent. A body that has no written form gives the cause instead. -/
inductive Sending where
  | respond (reply : ReplyTo) (body : Except String Json)
  | respondEmpty (reply : ReplyTo)
  | respondError (reply : ReplyTo) (id : Int) (text : String)
  | event (name : String) (body : Option Json)

inductive Call where
  | send (s : Sending)
  | close

namespace Sending

def item : Sending → Outgoing
  | respond reply (.ok body) => .respond reply body
  | respond reply (.error cause) => .respondUnwritable reply cause
  | respondEmpty reply => .respondEmpty reply
  | respondError reply id text => .respondError reply id text
  | event name body => .event name body

def failure (seq : Nat) (reply : ReplyTo) (id : Int) (text : String) : Json :=
  .obj [("body", .obj [("error", .obj
      [("format", .str text), ("id", .int id), ("showUser", .bool true)])]),
    ("command", .str reply.command), ("message", .str text), ("request_seq", .int reply.seq),
    ("seq", .int seq), ("success", .bool false), ("type", .str "response")]

def message (seq : Nat) : Sending → Json
  | respond reply (.ok body) =>
    .obj [("body", body), ("command", .str reply.command), ("request_seq", .int reply.seq),
      ("seq", .int seq), ("success", .bool true), ("type", .str "response")]
  | respond reply (.error cause) => failure seq reply 1104 ("serialize response: " ++ cause)
  | respondEmpty reply =>
    .obj [("command", .str reply.command), ("request_seq", .int reply.seq), ("seq", .int seq),
      ("success", .bool true), ("type", .str "response")]
  | respondError reply id text => failure seq reply id text
  | event name (some body) =>
    .obj [("body", body), ("event", .str name), ("seq", .int seq), ("type", .str "event")]
  | event name none => .obj [("event", .str name), ("seq", .int seq), ("type", .str "event")]

def members (seq : Nat) (s : Sending) : List (String × Json) :=
  ((s.item.envelope? seq).bind Json.asObj?).getD []

def payload (seq : Nat) (s : Sending) : Bytes := payloadOf (.obj (s.members seq))

theorem envelope?_item (seq : Nat) (s : Sending) :
    s.item.envelope? seq = some (.obj (s.members seq)) := by
  cases s with
  | respond reply body => cases body <;> rfl
  | _ => rfl

theorem object_response (seq : Int) (reply : ReplyTo) (success : Bool) (message : Option String)
    (body : Option Json) :
    Json.object ([("seq", .int seq), ("type", .str "response"), ("request_seq", .int reply.seq),
        ("success", .bool success), ("command", .str reply.command)] ++
        Json.optional "message" (message.map .str) ++ Json.optional "body" body) =
      .obj (Json.optional "body" body ++ ("command", .str reply.command) ::
        (Json.optional "message" (message.map .str) ++
          [("request_seq", .int reply.seq), ("seq", .int seq), ("success", .bool success),
            ("type", .str "response")])) := by
  cases message <;> cases body <;>
    simp only [Json.object, Json.insertMember, Json.optional, Option.map_some, Option.map_none,
      List.nil_append, List.append_nil, List.cons_append, List.foldl_cons, List.foldl_nil,
      String.reduceLT, String.reduceEq, if_true, if_false]

theorem object_event (seq : Int) (name : String) (body : Option Json) :
    Json.object ([("seq", .int seq), ("type", .str "event"), ("event", .str name)] ++
        Json.optional "body" body) =
      .obj (Json.optional "body" body ++
        [("event", .str name), ("seq", .int seq), ("type", .str "event")]) := by
  cases body <;>
    simp only [Json.object, Json.insertMember, Json.optional, List.nil_append, List.append_nil,
      List.cons_append, List.foldl_cons, List.foldl_nil, String.reduceLT, String.reduceEq, if_true,
      if_false]

theorem object_error (id : Int) (text : String) :
    Json.object [("error", Json.object
        [("id", .int id), ("format", .str text), ("showUser", .bool true)])] =
      .obj [("error", .obj [("format", .str text), ("id", .int id), ("showUser", .bool true)])] := by
  simp only [Json.object, Json.insertMember, List.foldl_cons, List.foldl_nil, String.reduceLT,
    String.reduceEq, if_true, if_false]

theorem object_failure (seq : Nat) (reply : ReplyTo) (id : Int) (text : String) :
    Json.object ((respondError reply id text).members seq) = failure seq reply id text := by
  have envelope := object_response seq reply false (some text) (some (Json.object [("error",
    Json.object [("id", .int id), ("format", .str text), ("showUser", .bool true)])]))
  rw [object_error] at envelope
  refine Eq.trans ?_ envelope
  rw [← object_error]
  rfl

theorem object_members (seq : Nat) (s : Sending) :
    Json.object (s.members seq) = s.message seq := by
  cases s with
  | respond reply body =>
    cases body with
    | ok body => exact object_response seq reply true none (some body)
    | error cause => exact object_failure seq reply _ _
  | respondEmpty reply => exact object_response seq reply true none none
  | respondError reply id text => exact object_failure seq reply id text
  | event name body =>
    cases body with
    | some body => exact object_event seq name (some body)
    | none => exact object_event seq name none

theorem nodup_members (seq : Nat) (s : Sending) : ((s.members seq).map Prod.fst).Nodup := by
  have h := s.envelope?_item seq
  cases item : s.item with
  | response reply success message body =>
    rw [item] at h
    rw [← Json.obj.inj (Option.some.inj h)]
    cases message <;> cases body <;> simp [Json.optional]
  | event name body =>
    rw [item] at h
    rw [← Json.obj.inj (Option.some.inj h)]
    cases body <;> simp [Json.optional]
  | close =>
    rw [item] at h
    cases h

theorem ofBytes?_payload {seq : Nat} {s : Sending} (h : Json.Canonical 127 (s.message seq)) :
    Json.ofBytes? (s.payload seq) = some (s.message seq) := by
  have values : ∀ m ∈ s.members seq, Json.Canonical 126 m.2 := by
    rw [← object_members] at h
    cases sorted : Json.object (s.members seq) with
    | obj ms =>
      rw [sorted] at h
      exact fun m mem =>
        (Json.canonical_obj.mp h).2 m (Json.mem_object (s.nodup_members seq) sorted mem)
    | _ => cases sorted
  have read := (Json.reads_obj fun m mem => (values m mem).reads).parse?
  rw [object_members] at read
  rw [payload, payloadOf, Json.ofBytes?, Text.decode?_encode]
  exact read

end Sending

-- ---------------------------------------------------------------------------
-- Streams
-- ---------------------------------------------------------------------------

def sent : List Call → List Sending
  | [] => []
  | .close :: _ => []
  | .send s :: calls => s :: sent calls

def Call.item : Call → Outgoing
  | .send s => s.item
  | .close => .close

def numbered (calls : List Call) : List (Sending × Nat) := (sent calls).zipIdx 1

theorem bytes_writeFrom (calls : List Call) (seq : Nat) :
    (Stream.writeFrom none seq (calls.map Call.item)).bytes =
      (((sent calls).zipIdx (seq + 1)).map fun p => p.1.payload p.2).flatMap fun payload =>
        header payload.length ++ payload := by
  induction calls generalizing seq with
  | nil => rfl
  | cons call calls ih =>
    cases call with
    | close => rfl
    | send s =>
      rw [List.map_cons, Call.item, Stream.writeFrom, s.envelope?_item]
      simp only [Stream.accept, Stream.fits, Bool.not_true, Bool.false_eq_true, if_false, ih, sent,
        List.zipIdx_cons, List.map_cons, List.flatMap_cons, Sending.payload, List.append_assoc]

theorem readAll_written {payloads : List Bytes} (small : ∀ p ∈ payloads, p.length ≤ maxLength) :
    readAll (payloads.flatMap fun p => header p.length ++ p) =
      (payloads.filterMap Json.ofBytes?, none) := by
  have read := Framing.readAll_framed small []
  rw [Framing.readAll_nil, List.append_nil, List.append_nil] at read
  exact read

/-- A stream that never fails gives back what was put into its queue before the first
close, if each payload is as short as the reader allows, and each message is of parts
that the format can hold or at any rate is read back as it was written. -/
theorem readAll_write (calls : List Call)
    (small : ∀ p ∈ numbered calls, (p.1.payload p.2).length ≤ maxLength)
    (back : ∀ p ∈ numbered calls, Json.Canonical 127 (p.1.message p.2) ∨
      Json.ofBytes? (p.1.payload p.2) = some (Json.object (p.1.members p.2))) :
    readAll (Stream.write none (calls.map Call.item)).bytes =
      ((numbered calls).map fun p => p.1.message p.2, none) := by
  have payloads : ∀ q ∈ (numbered calls).map fun p => p.1.payload p.2, q.length ≤ maxLength := by
    intro q mem
    obtain ⟨p, there, rfl⟩ := List.mem_map.mp mem
    exact small p there
  have read : ∀ p ∈ numbered calls,
      Json.ofBytes? (p.1.payload p.2) = some (p.1.message p.2) := by
    intro p mem
    obtain plain | same := back p mem
    · exact Sending.ofBytes?_payload plain
    · rw [same, Sending.object_members]
  rw [Stream.write, bytes_writeFrom]
  refine (readAll_written payloads).trans ?_
  have messages : (numbered calls).filterMap (Json.ofBytes? ∘ fun p => p.1.payload p.2) =
      (numbered calls).filterMap (some ∘ fun p => p.1.message p.2) :=
    List.filterMap_congr read
  rw [List.filterMap_map, messages, List.filterMap_eq_map]

def everyKind : List Call :=
  let reply : ReplyTo := ⟨7, "threads"⟩
  [.send (.event "initialized" none), .send (.respond reply (.ok (.obj [("threads", .arr [])]))),
    .send (.respond reply (.ok .null)), .send (.respondEmpty reply),
    .send (.respond reply (.error "key must be a string")),
    .send (.respondError reply 1100 "not attached"),
    .send (.event "output" (some (.obj [("category", .str "console"),
      ("output", .str "\u00e4\n")]))),
    .close, .send (.event "terminated" none)]

theorem readAll_everyKind :
    readAll (Stream.write none (everyKind.map Call.item)).bytes =
      ([.obj [("event", .str "initialized"), ("seq", .int 1), ("type", .str "event")],
        .obj [("body", .obj [("threads", .arr [])]), ("command", .str "threads"),
          ("request_seq", .int 7), ("seq", .int 2), ("success", .bool true),
          ("type", .str "response")],
        .obj [("body", .null), ("command", .str "threads"), ("request_seq", .int 7),
          ("seq", .int 3), ("success", .bool true), ("type", .str "response")],
        .obj [("command", .str "threads"), ("request_seq", .int 7), ("seq", .int 4),
          ("success", .bool true), ("type", .str "response")],
        Sending.failure 5 ⟨7, "threads"⟩ 1104 "serialize response: key must be a string",
        Sending.failure 6 ⟨7, "threads"⟩ 1100 "not attached",
        .obj [("body", .obj [("category", .str "console"), ("output", .str "\u00e4\n")]),
          ("event", .str "output"), ("seq", .int 7), ("type", .str "event")]], none) := by
  have plain : ∀ p ∈ numbered everyKind, Json.Canonical 127 (p.1.message p.2) := by
    simp only [numbered, everyKind, sent, List.zipIdx_cons, List.zipIdx_nil, List.forall_mem_cons,
      List.not_mem_nil, false_implies, implies_true, Sending.message, Sending.failure,
      Json.canonical_obj, Json.canonical_arr, Json.canonical_int, Json.canonical_str,
      Json.canonical_bool, Json.canonical_null, List.pairwise_cons, List.Pairwise.nil,
      String.reduceLT, and_true, true_and]
    decide
  have small : ∀ p ∈ numbered everyKind, (p.1.payload p.2).length ≤ maxLength := by
    simp only [Sending.payload, payloadOf, Json.print, Text.encode_eq_flatMap,
      String.toList_ofList]
    decide +kernel
  exact readAll_write everyKind small fun p mem => .inl (plain p mem)

end Queue

end DebugAdapter
