import DebugAdapter.Protocol.Framing
import DebugAdapter.Protocol.Message

/-!
# Connections

The two directions of one connection. Bytes that come in pile up until they
hold a whole frame. Messages that go out are numbered as they are written; the
first close ends the stream, and nothing is written after it.
-/

namespace DebugAdapter

open Text (Bytes)

structure Connection where
  /-- Bytes that have come in and belong to no whole frame yet. -/
  received : Bytes
  /-- The client sends nothing more. -/
  ended : Bool
  /-- The number of the last message that was written. -/
  seq : Nat
  closed : Bool

namespace Connection

def fresh : Connection := ⟨[], false, 0, false⟩

def receive (c : Connection) (bytes : Bytes) (ended : Bool) : Connection :=
  { c with received := c.received ++ bytes, ended := c.ended || ended }

def next (c : Connection) : Framing.Next := Framing.next c.ended c.received

/-- Writes a message; the envelope that goes out, if one does. -/
def write (c : Connection) (item : Outgoing) : Connection × Option Json :=
  if c.closed then (c, none)
  else match item.envelope? (c.seq + 1) with
    | some message => ({ c with seq := c.seq + 1 }, some message)
    | none => ({ c with closed := true }, none)

end Connection

/-- The request in a payload: other messages, and what is no message, are ignored. -/
def Request.ofPayload? (payload : Bytes) : Option Request := do
  let message ← Json.ofBytes? payload
  if (message.get? "type").bind Json.asStr? = some "request" then Request.ofJson? message else none

end DebugAdapter
