import DebugAdapter.Console
import DebugAdapter.Session.State
import DebugAdapter.StackTrace
import DebugAdapter.Variables.Rows

/-!
# Inspection

Requests that look into a stopped debuggee: its stack, the scopes of a frame,
variables, expressions and the exception it stopped on. Variables of scopes
that the debuggee materializes frame by frame are answered at once if the
frame is at hand; else the request is parked and the frame is asked for.
-/

namespace DebugAdapter

namespace SessionState

-- ---------------------------------------------------------------------------
-- Stack and scopes
-- ---------------------------------------------------------------------------

def answerStackTrace (st : SessionState) (d : Debuggee) (defaultLevels : Nat) (r : Request) :
    Handled :=
  let start := ((r.int? "startFrame").getD 0).toNat
  let levels := match r.int? "levels" with
    | some levels => levels.toNat
    | none => defaultLevels
  let frames := stackTrace d st.conventions start levels
  .answer st [("stackFrames", .arr (frames.map StackFrame.toJson)),
    ("totalFrames", .int (totalFrames d))] []

/-- The scopes of a frame in the order they are shown, and whether they are
expensive to show. -/
def shownScopes : List (ScopeKind × Bool) :=
  [(.locals, false), (.closure, false), (.self, false), (.global, true)]

def scopeJson (kind : ScopeKind) (expensive : Bool) (ref : VarRef) : Json :=
  Json.object [("name", .str kind.name), ("variablesReference", .int ref.encode),
    ("expensive", .bool expensive)]

/-- The scopes of a real frame that handles can name; none for other frames. -/
def frameScopes (d : Debuggee) (frame : Int) : List Json :=
  if frame < 0 ∨ frame ≥ d.callStack.length ∨ frame > VarRef.maxFrame then []
  else shownScopes.filterMap fun s =>
    (VarRef.root? s.1 frame.toNat).map (scopeJson s.1 s.2)

def answerScopes (st : SessionState) (d : Debuggee) (r : Request) : Handled :=
  .answer st [("scopes", .arr (frameScopes d ((r.int? "frameId").getD 0)))] []

-- ---------------------------------------------------------------------------
-- Variables
-- ---------------------------------------------------------------------------

def variablesMember (rows : List Variable) : List (String × Json) :=
  [("variables", .arr (rows.map Variable.toJson))]

def watchRows (st : SessionState) (d : Debuggee) (scope : FrameScope) (frame : Nat) :
    List (String × Json) × SessionState :=
  let (rows, values) := st.values.watchRows scope.kind frame (d.watches scope.watchKind)
  (variablesMember rows, { st with values })

/-- The response to a request that waited for a scope and is dropped. -/
def cancellation (scope : FrameScope) (reply : ReplyTo) : Outgoing :=
  .respondError reply ErrorId.requestCancelled
    ("pending " ++ scope.kind.name ++ " (Variables) request cancelled")

/-- Parks a request for a frame. It takes the place of one that waits for the
same scope, and of one that waits for the other scope of another frame. The
frame is asked for unless the other scope has asked for it. -/
def park (st : SessionState) (reply : ReplyTo) (scope : FrameScope) (frame : Nat) : Handled :=
  let otherStays := if st.pendingFrame = some frame then st.pending scope.other else none
  let otherDrops := if st.pendingFrame = some frame then none else st.pending scope.other
  let asked := otherStays.isSome
  let parked := (st.setPending scope.other otherStays).setPending scope (some reply)
  { state := if asked then parked else { parked with pendingFrame := some frame }
    calls := if asked then [] else [.queueAction (.viewFrame frame)]
    queued := ((st.pending scope).map (cancellation scope)).toList ++
      (otherDrops.map (cancellation scope.other)).toList
    reply := .deferred }

def frameVariables (st : SessionState) (d : Debuggee) (reply : ReplyTo) (scope : FrameScope)
    (frame : Nat) : Handled :=
  if (st.view scope).frame = some frame then
    let (members, st) := st.watchRows d scope frame
    .answer st members []
  else if d.callStack.length ≤ frame then .answer st (variablesMember []) []
  else st.park reply scope frame

def rootVariables (st : SessionState) (d : Debuggee) (scope : ScopeKind) (frame : Nat) : Handled :=
  let (rows, values) := match d.scopeValue scope frame with
    | .ok value => st.values.expand scope frame value
    | .error message => ([Variable.leaf "<error>" message none], st.values)
  .answer { st with values } (variablesMember rows) [.scopeValue scope frame]

def scopeVariables (st : SessionState) (d : Debuggee) (reply : ReplyTo) (ref : VarRef) : Handled :=
  match ref.scope with
  | .locals => st.frameVariables d reply .locals ref.frame
  | .closure => st.frameVariables d reply .closure ref.frame
  | scope => st.rootVariables d scope ref.frame

def answerVariables (st : SessionState) (d : Debuggee) (r : Request) : Except Refused Handled :=
  let handle := (r.int? "variablesReference").getD 0
  match VarRef.decode handle with
  | .error failure => .error ⟨failure, []⟩
  | .ok ref =>
    if ref.isRoot then .ok (st.scopeVariables d r.replyTo ref)
    else match st.values.get? ref.slot with
      | none => .error ⟨.invalidHandle handle, []⟩
      | some value =>
        let (rows, values) := st.values.expand ref.scope ref.frame value
        .ok (.answer { st with values } (variablesMember rows) [])

-- ---------------------------------------------------------------------------
-- Expressions
-- ---------------------------------------------------------------------------

def runConsole (st : SessionState) (d : Debuggee) (command : ConsoleCommand) : Handled :=
  let effect := command.execute d st.notifyEnd
  { state := { st with notifyEnd := effect.notifyEnd }
    calls := effect.calls
    queued := effect.lines.map Outgoing.console
    reply := .body (Json.object [("result", .str ""), ("variablesReference", .int 0)]) }

def evaluateExpression (st : SessionState) (d : Debuggee) (expression : String) (frame : Nat) :
    Except Refused Handled :=
  match d.evaluate expression frame with
  | .error message =>
    .error ⟨.protocol ErrorId.evaluationFailed message, [.evaluate expression frame]⟩
  | .ok value =>
    let (row, values) := st.values.row .global (min frame VarRef.maxFrame) expression value
    .ok <| .answer { st with values }
      ([("result", .str row.value)] ++ Json.optional "type" (row.type.map .str) ++
        [("variablesReference", .int row.handle)]) [.evaluate expression frame]

def consoleCommand? (r : Request) (expression : String) : Option ConsoleCommand :=
  if r.str? "context" = some "repl" then ConsoleCommand.parse? expression else none

def answerEvaluate (st : SessionState) (d : Debuggee) (r : Request) : Except Refused Handled :=
  match r.str? "expression" with
  | none => .error <| .atOnce ErrorId.missingExpression
      "evaluate: property 'expression' is missing or empty"
  | some expression =>
    match consoleCommand? r expression with
    | some command => .ok (st.runConsole d command)
    | none => st.evaluateExpression d expression ((r.int? "frameId").getD 0).toNat

-- ---------------------------------------------------------------------------
-- Exceptions
-- ---------------------------------------------------------------------------

def sameActivations : List CallFrame → List CallFrame → Bool
  | [], [] => true
  | a :: as, b :: bs => a.sameActivation b && sameActivations as bs
  | _, _ => false

/-- The trapped exception, as long as the stack it was raised on is there. -/
def liveException? (st : SessionState) (d : Debuggee) : Option RuntimeException :=
  st.exception.filter fun e => sameActivations e.callStack d.callStack

def answerExceptionInfo (st : SessionState) (d : Debuggee) : Except Refused Handled :=
  match st.liveException? d with
  | none => .error <| .atOnce ErrorId.noException "exceptionInfo: no current exception"
  | some e => .ok <| .answer st [("exceptionId", .str "runtime"),
      ("description", .str "Runtime exception"), ("breakMode", .str "userUnhandled"),
      ("details", Json.object [("message", .str e.message)])] []

end SessionState

end DebugAdapter
