import DebugAdapter.Failure
import DebugAdapter.Json.Printer
import DebugAdapter.Text.Blank

/-!
# Messages

Requests of a client, and the responses and events that go back. Bodies have
their members sorted by name; the envelope around a body has an order of its
own. The number of a message is its place in the stream and is known only
when it is written.
-/

namespace DebugAdapter

-- ---------------------------------------------------------------------------
-- Requests
-- ---------------------------------------------------------------------------

structure Request where
  seq : Int
  type : String
  command : String
  arguments : Json
  deriving Repr

/-- What a response, perhaps a late one, has to repeat of its request. -/
structure ReplyTo where
  seq : Int
  command : String
  deriving Repr, DecidableEq

namespace Request

def replyTo (r : Request) : ReplyTo := ⟨r.seq, r.command⟩

/-- An argument that is text with more than blanks in it, trimmed. -/
def str? (r : Request) (name : String) : Option String :=
  ((r.arguments.get? name).bind Json.asStr?).bind Text.trimmed?

def int? (r : Request) (name : String) : Option Int :=
  (r.arguments.get? name).bind Json.asInt64?

def bool? (r : Request) (name : String) : Option Bool :=
  (r.arguments.get? name).bind Json.asBool?

/-- The request that an envelope is: an object with members by name, or an
array of the fields in order. Arguments may be missing. -/
def ofJson? : Json → Option Request
  | .obj members => do
    return ⟨← (← Json.lookup "seq" members).asInt64?, ← (← Json.lookup "type" members).asStr?,
      ← (← Json.lookup "command" members).asStr?,
      (Json.lookup "arguments" members).getD .null⟩
  | .arr [seq, type, command] =>
    return ⟨← seq.asInt64?, ← type.asStr?, ← command.asStr?, .null⟩
  | .arr [seq, type, command, arguments] =>
    return ⟨← seq.asInt64?, ← type.asStr?, ← command.asStr?, arguments⟩
  | _ => none

end Request

-- ---------------------------------------------------------------------------
-- Outgoing messages
-- ---------------------------------------------------------------------------

inductive Outgoing where
  | response (reply : ReplyTo) (success : Bool) (message : Option String) (body : Option Json)
  | event (name : String) (body : Option Json)
  /-- Write what is queued before, then end the stream. -/
  | close
  deriving Repr

namespace Outgoing

def respond (reply : ReplyTo) (body : Json) : Outgoing := .response reply true none (some body)

def respondEmpty (reply : ReplyTo) : Outgoing := .response reply true none none

def respondError (reply : ReplyTo) (id : Int) (text : String) : Outgoing :=
  let error := Json.object [("id", .int id), ("format", .str text), ("showUser", .bool true)]
  .response reply false (some text) (some (Json.object [("error", error)]))

/-- A failed response to a request whose body has no written form. -/
def respondUnwritable (reply : ReplyTo) (cause : String) : Outgoing :=
  respondError reply ErrorId.requestFailed ("serialize response: " ++ cause)

def console (line : String) : Outgoing :=
  .event "output"
    (some (Json.object [("category", .str "console"), ("output", .str (line ++ "\n"))]))

/-- The envelope of a message with a number; nothing is written for a close. -/
def envelope? (seq : Nat) : Outgoing → Option Json
  | .response reply success message body => some <| .obj <|
    [("seq", .int seq), ("type", .str "response"), ("request_seq", .int reply.seq),
      ("success", .bool success), ("command", .str reply.command)] ++
    Json.optional "message" (message.map .str) ++ Json.optional "body" body
  | .event name body => some <| .obj <|
    [("seq", .int seq), ("type", .str "event"), ("event", .str name)] ++
      Json.optional "body" body
  | .close => none

end Outgoing

end DebugAdapter
