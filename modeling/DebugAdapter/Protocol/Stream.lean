import DebugAdapter.Protocol.Framing
import DebugAdapter.Protocol.Message

/-!
# Writing a queue to a stream

The messages of a queue are numbered from 1 and written one after the other,
up to the first close. A stream may take only so many bytes: a write that does
not fit is taken in part, and then nothing more is written.
-/

namespace DebugAdapter

open Text (Bytes)

inductive Direction where
  | incoming
  | outgoing
  deriving Repr, DecidableEq

def traceLine (port : Nat) (direction : Direction) (payload : Bytes) : String :=
  let arrow := match direction with
    | .incoming => "<-"
    | .outgoing => "->"
  "[" ++ Decimal.digitsText port ++ "] " ++ arrow ++ " " ++ Text.decodeLossy payload

namespace Stream

/-- What a stream takes of some bytes, and its room afterwards; no room is set
for a stream that takes everything. -/
def accept (room : Option Nat) (bytes : Bytes) : Bytes × Option Nat :=
  match room with
  | none => (bytes, none)
  | some n => (bytes.take n, some (n - bytes.length))

def fits (room : Option Nat) (bytes : Bytes) : Bool :=
  match room with
  | none => true
  | some n => bytes.length ≤ n

structure Written where
  bytes : Bytes
  payloads : List Bytes

/-- Writes a queue; `seq` is the number of the message before it. A header and
its payload are two writes. -/
def writeFrom (room : Option Nat) (seq : Nat) : List Outgoing → Written
  | [] => ⟨[], []⟩
  | item :: rest =>
    match item.envelope? (seq + 1) with
    | none => ⟨[], []⟩
    | some message =>
      let payload := Framing.payloadOf message
      let header := Framing.header payload.length
      let (headerTaken, roomLeft) := accept room header
      if !fits room header then ⟨headerTaken, [payload]⟩
      else
        let (payloadTaken, roomAfter) := accept roomLeft payload
        if !fits roomLeft payload then ⟨headerTaken ++ payloadTaken, [payload]⟩
        else
          let w := writeFrom roomAfter (seq + 1) rest
          ⟨headerTaken ++ (payloadTaken ++ w.bytes), payload :: w.payloads⟩

def write (room : Option Nat) (queue : List Outgoing) : Written := writeFrom room 0 queue

end Stream

end DebugAdapter
