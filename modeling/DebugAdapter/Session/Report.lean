import DebugAdapter.Session.Inspection

/-!
# Reports of the debuggee

What a session makes of the notifications of its debuggee: stops are passed
on, exceptions are remembered, a changed stack makes the values that were
handed out invalid, and fresh watches answer the requests that wait for them.
-/

namespace DebugAdapter

namespace SessionState

/-- The event for a stop; a stop on an exception carries its message. -/
def stoppedEvent (st : SessionState) : Outgoing :=
  let text := if st.stopReason = .exception then st.exception.map RuntimeException.message else none
  .event "stopped" <| some <| Json.object <|
    [("reason", .str st.stopReason.name), ("description", .str st.stopReason.description),
      ("threadId", .int 0), ("allThreadsStopped", .bool true)] ++
    Json.optional "text" (text.map .str)

def sameLocations : List CallFrame → List CallFrame → Bool
  | [], [] => true
  | a :: as, b :: bs => a.location = b.location && sameLocations as bs
  | _, _ => false

/-- Takes the debuggee's call stack over; if it shows other places, no value
that was handed out is valid any longer. -/
def refreshStack (st : SessionState) (d : Debuggee) : SessionState :=
  if sameLocations d.callStack st.callStack then st
  else { st with callStack := d.callStack, values := st.values.clear }

/-- Answers the request that waits for a scope of a frame. -/
def resolve (st : SessionState) (d : Debuggee) (scope : FrameScope) (frame : Nat) :
    SessionState × List Outgoing :=
  match st.pending scope with
  | none => (st, [])
  | some reply =>
    let (members, st) := (st.setPending scope none).watchRows d scope frame
    (st, [.respond reply (Json.object members)])

/-- No frame is waited for once no request waits. -/
def settle (st : SessionState) : SessionState :=
  if (st.pending .locals).isNone && (st.pending .closure).isNone then
    { st with pendingFrame := none }
  else st

def refreshScope (st : SessionState) (d : Debuggee) (scope : FrameScope) :
    SessionState × List Outgoing :=
  let st := st.setView scope { st.view scope with frame := st.currentFrame }
  match st.currentFrame with
  | none => (st, [])
  | some frame =>
    if st.pendingFrame = some frame then
      let (st, queued) := st.resolve d scope frame
      (st.settle, queued)
    else (st, [])

def refreshWatches (st : SessionState) (d : Debuggee) (kind : WatchKind) (frame : Option Nat) :
    SessionState × List Outgoing :=
  let st := { st with currentFrame := frame <|> st.currentFrame }
  match kind with
  | .callStack => (st.refreshStack d, [])
  | .locals => st.refreshScope d .locals
  | .closure => st.refreshScope d .closure

def sourceLine (info : SourceInfo) : String :=
  "Loaded source '" ++ info.name ++ "'" ++
    match info.file with
    | some file => if info.isOverride then " -> '" ++ file ++ "'" else ""
    | none => ""

def report (st : SessionState) (d : Debuggee) : Notification → SessionState × List Outgoing
  | .stopped => (st, [st.stoppedEvent])
  | .exception e => ({ st with stopReason := .exception, exception := some e }, [])
  | .watchesUpdated kind frame => st.refreshWatches d kind frame
  | .sourceChanged source =>
    (st, ((d.sourceInfo source).map fun info => .console (sourceLine info)).toList)
  | .executionEnded => (st, if st.notifyEnd then [.console "Execution ended."] else [])

end SessionState

end DebugAdapter
