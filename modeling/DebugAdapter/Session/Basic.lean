import DebugAdapter.Breakpoints
import DebugAdapter.Script.Target
import DebugAdapter.Session.Command
import DebugAdapter.Session.Inspection
import DebugAdapter.Session.Report

/-!
# Sessions

One client and the target it debugs, if there is one. Each step of a session,
be it a request, a notification or an end, takes what the debuggee answers at
the time, and yields the session after it, the calls made to the debuggee, and
the messages put into the client's queue, all in order. The first end of a
session is its last: from then on requests are refused and nothing else
happens.
-/

namespace DebugAdapter

structure DirectoryEntry where
  port : Nat
  name : String
  deriving Repr, DecidableEq

def DirectoryEntry.toJson (e : DirectoryEntry) : Json :=
  Json.object [("port", .int e.port), ("name", .str e.name)]

inductive Phase where
  | uninitialized
  | attached
  | detached
  | terminated
  deriving Repr, DecidableEq

structure Session where
  id : SessionId
  port : Nat
  target : Option Target
  /-- How many frames are sent to a client that does not say. -/
  defaultLevels : Nat
  terminated : Bool
  state : SessionState

structure Outcome where
  session : Session
  calls : List Call
  queued : List Outgoing

namespace Session

def fresh (id : SessionId) (port : Nat) (target : Option Target) (defaultLevels : Nat) :
    Session := ⟨id, port, target, defaultLevels, false, .fresh⟩

def phase (s : Session) : Phase :=
  if s.terminated then .terminated
  else if !s.state.initialized then .uninitialized
  else if s.target.isSome then .attached
  else .detached

def rest (s : Session) : Outcome := ⟨s, [], []⟩

/-- Gives the debuggee up, if it still reports to this session. -/
def unbind (s : Session) (d : Debuggee) : List Call :=
  if s.target.isSome && d.client = some s.id then [.setClient none] else []

def terminatedEvent (restart : Bool) : Outgoing :=
  .event "terminated" (if restart then some (Json.object [("restart", .bool true)]) else none)

-- ---------------------------------------------------------------------------
-- Ends
-- ---------------------------------------------------------------------------

/-- The server ends the session; a client that shall restart is told so. -/
def terminate (s : Session) (d : Debuggee) (restart : Bool) : Outcome :=
  if s.terminated then s.rest
  else ⟨{ s with terminated := true }, s.unbind d, [terminatedEvent restart, .close]⟩

def connectionClosed (s : Session) (d : Debuggee) : Outcome :=
  if s.terminated then ⟨s, [], [.close]⟩
  else ⟨{ s with terminated := true }, s.unbind d, [.close]⟩

def leave (s : Session) (d : Debuggee) (r : Request) : Outcome :=
  ⟨{ s with terminated := true }, s.unbind d,
    [.respondEmpty r.replyTo, terminatedEvent false, .close]⟩

-- ---------------------------------------------------------------------------
-- Commands
-- ---------------------------------------------------------------------------

def greetDetached (st : SessionState) (r : Request) : Except Refused Handled := do
  let conventions ← Conventions.ofRequest r
  return {
    state := { st with conventions, initialized := true }
    calls := []
    queued := [.respond r.replyTo capabilities,
      .console (productText ++ ": no script is attached to this debug session."),
      .event "initialized" none]
    reply := .deferred }

/-- A client introduces itself; the debuggee reports to its session from now on. -/
def greetAttached (id : SessionId) (name : String) (st : SessionState) (r : Request) :
    Except Refused Handled := do
  let conventions ← Conventions.ofRequest r
  return {
    state := { st with conventions, initialized := true }
    calls := [.setClient (some id)]
    queued := [.console (productText ++ " debugger attached to '" ++ name ++ "'."),
      .console "Type '!help' in the Debug Console for available commands.",
      .respond r.replyTo capabilities,
      .event "initialized" none]
    reply := .deferred }

def greet (s : Session) (r : Request) : Except Refused Handled :=
  match s.target with
  | none => greetDetached s.state r
  | some target => greetAttached s.id target.name s.state r

def serveDetached (st : SessionState) : Work → Except Refused Handled
  | .acknowledge => .ok ⟨st, [], [], .empty⟩
  | _ => .error <| .atOnce ErrorId.notAttached "Debug session is not attached to a script"

def resume (st : SessionState) (how : Resume) : Handled :=
  ⟨{ st with stopReason := how.stopReason }, [.queueAction how.action], [], how.reply⟩

def pause (st : SessionState) : Handled :=
  ⟨{ st with stopReason := .pause }, [.requestPause],
    [.console "Pause pending -- will pause at first script statement."], .empty⟩

def answerBreakpoints (st : SessionState) (d : Debuggee) (r : Request) : Except Refused Handled :=
  match setBreakpoints d st.conventions r.arguments with
  | .error failure => .error ⟨failure, []⟩
  | .ok (breakpoints, calls) =>
    .ok (.answer st [("breakpoints", .arr (breakpoints.map Breakpoint.toJson))] calls)

def serveAttached (st : SessionState) (defaultLevels : Nat) (d : Debuggee) (r : Request) :
    Work → Except Refused Handled
  | .acknowledge => .ok ⟨st, [], [], .empty⟩
  | .setBreakpoints => answerBreakpoints st d r
  | .setNoBreakpoints => .ok (.answer st [("breakpoints", .arr [])] [])
  | .resume how => .ok (resume st how)
  | .pause => .ok (pause st)
  | .stackTrace => .ok (st.answerStackTrace d defaultLevels r)
  | .scopes => .ok (st.answerScopes d r)
  | .variables => st.answerVariables d r
  | .evaluate => st.answerEvaluate d r
  | .exceptionInfo => st.answerExceptionInfo d
  | .source => .error (.atOnce ErrorId.noSource "No source available")
  | .threads => .ok <| .answer st [("threads",
      .arr [Json.object [("id", .int 0), ("name", .str "Main Thread")]])] []
  | .unknown other =>
    .error (.atOnce ErrorId.unrecognizedRequest ("unrecognized request '" ++ other ++ "'"))

def serve (s : Session) (d : Debuggee) (r : Request) (w : Work) : Except Refused Handled :=
  if s.target.isSome then serveAttached s.state s.defaultLevels d r w
  else serveDetached s.state w

-- ---------------------------------------------------------------------------
-- Steps
-- ---------------------------------------------------------------------------

def answerNow (reply : ReplyTo) : Reply → List Outgoing
  | .body body => [.respond reply body]
  | .empty => [.respondEmpty reply]
  | .deferred => []

/-- A request is refused; the session stays as it was. -/
def refuse (s : Session) (r : Request) (refused : Refused) : Outcome :=
  ⟨s, refused.calls,
    [.respondError r.replyTo refused.failure.errorId refused.failure.message]⟩

def answer (s : Session) (r : Request) : Except Refused Handled → Outcome
  | .error refused => s.refuse r refused
  | .ok handled =>
    ⟨{ s with state := handled.state }, handled.calls,
      handled.queued ++ answerNow r.replyTo handled.reply⟩

def notInitialized (command : String) : Refused :=
  .atOnce ErrorId.notInitialized ("request '" ++ command ++ "' before initialize")

def request (s : Session) (d : Debuggee) (directory : List DirectoryEntry) (r : Request) :
    Outcome :=
  if s.terminated then
    s.refuse r (.atOnce ErrorId.sessionTerminated "debug session has been terminated")
  else if r.command = directoryCommand then
    ⟨s, [], [.respond r.replyTo
      (Json.object [("sessions", .arr (directory.map DirectoryEntry.toJson))])]⟩
  else match Command.ofName r.command with
    | .handshake => s.answer r (s.greet r)
    | .leave => if s.state.initialized then s.leave d r else s.refuse r (notInitialized r.command)
    | .work w =>
      if s.state.initialized then s.answer r (s.serve d r w)
      else s.refuse r (notInitialized r.command)

def notify (s : Session) (d : Debuggee) (n : Notification) : Outcome :=
  if s.terminated || s.target.isNone then s.rest
  else
    let (state, queued) := s.state.report d n
    ⟨{ s with state }, [], queued⟩

end Session

end DebugAdapter
