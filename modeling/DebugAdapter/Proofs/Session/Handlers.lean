import DebugAdapter.Proofs.InPlace
import DebugAdapter.Proofs.Session.Inquiries

/-!
# Handlers in place

A request is worked on in place (`SessionWork`): the handlers change the one session
that there is, call the debuggee and queue messages as they go, and give up at many
depths. Step by step they lead to the outcomes that are computed from the session
before them; one that gives up has changed and queued nothing by then.
-/

namespace DebugAdapter

/-- Work on a request in place. -/
abbrev SessionWork := InPlace Outcome

namespace SessionWork

def session : SessionWork Session := return (← get).session

def state : SessionWork SessionState := return (← get).session.state

def update (f : SessionState → SessionState) : SessionWork Unit :=
  modify fun done => { done with session := { done.session with state := f done.session.state } }

def terminate : SessionWork Unit :=
  modify fun done => { done with session := { done.session with terminated := true } }

def call (c : Call) : SessionWork Unit :=
  modify fun done => { done with calls := done.calls ++ [c] }

def send (m : Outgoing) : SessionWork Unit :=
  modify fun done => { done with queued := done.queued ++ [m] }

def callEach : List Call → SessionWork Unit
  | [] => return
  | c :: rest => do call c; callEach rest

def sendEach : List Outgoing → SessionWork Unit
  | [] => return
  | m :: rest => do send m; sendEach rest

-- ---------------------------------------------------------------------------
-- Introduction and end
-- ---------------------------------------------------------------------------

def introduce (r : Request) : SessionWork Unit := do
  match Conventions.ofRequest r with
  | .error refused => throw refused.failure
  | .ok conventions =>
    update fun st => { st with conventions }
    update fun st => { st with initialized := true }

def greet (r : Request) : SessionWork Reply := do
  introduce r
  match (← session).target with
  | none =>
    send (.respond r.replyTo capabilities)
    send (.console (productText ++ ": no script is attached to this debug session."))
    send (.event "initialized" none)
  | some target =>
    call (.setClient (some (← session).id))
    send (.console (productText ++ " debugger attached to '" ++ target.name ++ "'."))
    send (.console "Type '!help' in the Debug Console for available commands.")
    send (.respond r.replyTo capabilities)
    send (.event "initialized" none)
  return .deferred

def leave (d : Debuggee) (r : Request) : SessionWork Reply := do
  let s ← session
  terminate
  callEach (s.unbind d)
  send (.respondEmpty r.replyTo)
  send (Session.terminatedEvent false)
  send .close
  return .deferred

-- ---------------------------------------------------------------------------
-- Breakpoints
-- ---------------------------------------------------------------------------

def breakpoints (answers : List Breakpoint) : Reply :=
  .body (Json.object [("breakpoints", .arr (answers.map Breakpoint.toJson))])

def acceptEach (c : Conventions) (d : Debuggee) :
    List LineRequest → SessionWork (List (Except String BreakpointLine))
  | [] => return []
  | line :: rest => do
    callEach (line.compiled c)
    let others ← acceptEach c d rest
    return line.accept c d :: others

def setBreakpoints (d : Debuggee) (r : Request) : SessionWork Reply := do
  let c := (← state).conventions
  match BreakpointArguments.ofJson? r.arguments with
  | none => throw malformedSource
  | some args =>
    match breakpointPath c args.path with
    | .error failure => throw failure
    | .ok path =>
      call (.findSource path)
      match d.findSource path with
      | none =>
        return breakpoints (args.requested.map fun line =>
          .unverified line.line ("source '" ++ path ++ "' is not loaded"))
      | some source =>
        let outcomes ← acceptEach c d args.requested
        let lines := installed outcomes
        call (.resetBreakpoints source lines)
        return breakpoints (args.requested.zipWith
          (fun line o => line.answer (d.confirmedLines source lines) o) outcomes)

-- ---------------------------------------------------------------------------
-- Execution
-- ---------------------------------------------------------------------------

def resume (how : Resume) : SessionWork Reply := do
  update fun st => { st with stopReason := how.stopReason }
  call (.queueAction how.action)
  return how.reply

def pause : SessionWork Reply := do
  update fun st => { st with stopReason := .pause }
  call .requestPause
  send (.console "Pause pending -- will pause at first script statement.")
  return .empty

-- ---------------------------------------------------------------------------
-- Variables and expressions
-- ---------------------------------------------------------------------------

def rowsReply (rows : List Variable) : Reply :=
  .body (Json.object (SessionState.variablesMember rows))

def tabulate (f : ValueTable → α × ValueTable) : SessionWork α := do
  let (a, values) := f (← state).values
  update fun st => { st with values }
  return a

def cancel (scope : FrameScope) : SessionWork Unit := do
  match (← state).pending scope with
  | none => return
  | some waiting =>
    update fun st => st.setPending scope none
    send (SessionState.cancellation scope waiting)

def park (reply : ReplyTo) (scope : FrameScope) (frame : Nat) : SessionWork Reply := do
  cancel scope
  if (← state).pendingFrame ≠ some frame then cancel scope.other
  if ((← state).pending scope.other).isNone then
    update fun st => { st with pendingFrame := some frame }
    call (.queueAction (.viewFrame frame))
  update fun st => st.setPending scope (some reply)
  return .deferred

def frameVariables (d : Debuggee) (reply : ReplyTo) (scope : FrameScope) (frame : Nat) :
    SessionWork Reply := do
  if ((← state).view scope).frame = some frame then
    return rowsReply (← tabulate fun t => t.watchRows scope.kind frame (d.watches scope.watchKind))
  else if d.callStack.length ≤ frame then return rowsReply []
  else park reply scope frame

def rootVariables (d : Debuggee) (scope : ScopeKind) (frame : Nat) : SessionWork Reply := do
  call (.scopeValue scope frame)
  match d.scopeValue scope frame with
  | .ok value => return rowsReply (← tabulate fun t => t.expand scope frame value)
  | .error message => return rowsReply [Variable.leaf "<error>" message none]

def lookUp (d : Debuggee) (r : Request) : SessionWork Reply := do
  let handle := (r.int? "variablesReference").getD 0
  match VarRef.decode handle with
  | .error failure => throw failure
  | .ok ref =>
    if ref.isRoot then
      match ref.scope with
      | .locals => frameVariables d r.replyTo .locals ref.frame
      | .closure => frameVariables d r.replyTo .closure ref.frame
      | scope => rootVariables d scope ref.frame
    else match (← state).values.get? ref.slot with
      | none => throw (.invalidHandle handle)
      | some value => return rowsReply (← tabulate fun t => t.expand ref.scope ref.frame value)

def runConsole (d : Debuggee) (command : ConsoleCommand) : SessionWork Reply := do
  let effect := command.execute d (← state).notifyEnd
  callEach effect.calls
  update fun st => { st with notifyEnd := effect.notifyEnd }
  sendEach (effect.lines.map Outgoing.console)
  return .body (Json.object [("result", .str ""), ("variablesReference", .int 0)])

def evaluate (d : Debuggee) (r : Request) : SessionWork Reply := do
  match r.str? "expression" with
  | none => throw (.protocol ErrorId.missingExpression
      "evaluate: property 'expression' is missing or empty")
  | some expression =>
    match SessionState.consoleCommand? r expression with
    | some command => runConsole d command
    | none =>
      let frame := ((r.int? "frameId").getD 0).toNat
      call (.evaluate expression frame)
      match d.evaluate expression frame with
      | .error message => throw (.protocol ErrorId.evaluationFailed message)
      | .ok value =>
        let row ← tabulate fun t => t.row .global (min frame VarRef.maxFrame) expression value
        return .body <| Json.object ([("result", .str row.value)] ++
          Json.optional "type" (row.type.map .str) ++ [("variablesReference", .int row.handle)])

def exceptionInfo (d : Debuggee) : SessionWork Reply := do
  match (← state).liveException? d with
  | none => throw (.protocol ErrorId.noException "exceptionInfo: no current exception")
  | some e => return .body <| Json.object [("exceptionId", .str "runtime"),
      ("description", .str "Runtime exception"), ("breakMode", .str "userUnhandled"),
      ("details", Json.object [("message", .str e.message)])]

-- ---------------------------------------------------------------------------
-- Requests
-- ---------------------------------------------------------------------------

def serveDetached : Work → SessionWork Reply
  | .acknowledge => return .empty
  | _ => throw (.protocol ErrorId.notAttached "Debug session is not attached to a script")

def look (f : Session → Handled) : SessionWork Reply := return (f (← session)).reply

def serveAttached (d : Debuggee) (r : Request) : Work → SessionWork Reply
  | .acknowledge => return .empty
  | .setBreakpoints => setBreakpoints d r
  | .setNoBreakpoints => return .body (Json.object [("breakpoints", .arr [])])
  | .resume how => resume how
  | .pause => pause
  | .stackTrace => look fun s => s.state.answerStackTrace d s.defaultLevels r
  | .scopes => look fun s => s.state.answerScopes d r
  | .variables => lookUp d r
  | .evaluate => evaluate d r
  | .exceptionInfo => exceptionInfo d
  | .source => throw (.protocol ErrorId.noSource "No source available")
  | .threads => return .body <| Json.object [("threads",
      .arr [Json.object [("id", .int 0), ("name", .str "Main Thread")]])]
  | .unknown other =>
    throw (.protocol ErrorId.unrecognizedRequest ("unrecognized request '" ++ other ++ "'"))

def ensureIntroduced (r : Request) : SessionWork Unit := do
  if !(← state).initialized then throw (Session.notInitialized r.command).failure

def request (d : Debuggee) (directory : List DirectoryEntry) (r : Request) :
    SessionWork Reply := do
  if (← session).terminated then
    throw (.protocol ErrorId.sessionTerminated "debug session has been terminated")
  if r.command = directoryCommand then
    return .body (Json.object [("sessions", .arr (directory.map DirectoryEntry.toJson))])
  match Command.ofName r.command with
  | .handshake => greet r
  | .leave =>
    ensureIntroduced r
    leave d r
  | .work w =>
    ensureIntroduced r
    if (← session).target.isSome then serveAttached d r w else serveDetached w

-- ---------------------------------------------------------------------------
-- Single steps
-- ---------------------------------------------------------------------------

section
variable (done : Outcome)

@[simp] theorem session_apply : session done = .ok done.session done := rfl

@[simp] theorem state_apply : state done = .ok done.session.state done := rfl

@[simp] theorem update_apply (f : SessionState → SessionState) : update f done =
    .ok () ⟨{ done.session with state := f done.session.state }, done.calls, done.queued⟩ := rfl

@[simp] theorem terminate_apply : terminate done =
    .ok () ⟨{ done.session with terminated := true }, done.calls, done.queued⟩ := rfl

@[simp] theorem call_apply (c : Call) :
    call c done = .ok () ⟨done.session, done.calls ++ [c], done.queued⟩ := rfl

@[simp] theorem send_apply (m : Outgoing) :
    send m done = .ok () ⟨done.session, done.calls, done.queued ++ [m]⟩ := rfl

@[simp] theorem callEach_apply (calls : List Call) :
    callEach calls done = .ok () ⟨done.session, done.calls ++ calls, done.queued⟩ := by
  induction calls generalizing done with
  | nil => simp [callEach]
  | cons c rest ih => simp [callEach, ih]

@[simp] theorem sendEach_apply (items : List Outgoing) :
    sendEach items done = .ok () ⟨done.session, done.calls, done.queued ++ items⟩ := by
  induction items generalizing done with
  | nil => simp [sendEach]
  | cons m rest ih => simp [sendEach, ih]

@[simp] theorem tabulate_apply (f : ValueTable → α × ValueTable) : tabulate f done =
    .ok (f done.session.state.values).1 ⟨{ done.session with state := { done.session.state with
      values := (f done.session.state.values).2 } }, done.calls, done.queued⟩ := rfl

@[simp] theorem cancel_apply (scope : FrameScope) : cancel scope done =
    .ok () ⟨{ done.session with state := done.session.state.setPending scope none }, done.calls,
      done.queued ++ ((done.session.state.pending scope).map
        (SessionState.cancellation scope)).toList⟩ := by
  simp only [cancel, InPlace.bind_apply, state_apply]
  cases waits : done.session.state.pending scope with
  | none =>
    have same := done.session.state.setPending_pending scope
    rw [waits] at same
    simp [same]
  | some waiting => simp

@[simp] theorem ensureIntroduced_apply (r : Request) : ensureIntroduced r done =
    if done.session.state.initialized then .ok () done
    else .error (Session.notInitialized r.command).failure done := by
  simp only [ensureIntroduced, InPlace.bind_apply, state_apply]
  cases done.session.state.initialized <;> rfl

theorem acceptEach_apply (c : Conventions) (d : Debuggee) (lines : List LineRequest) :
    acceptEach c d lines done = .ok (lines.map (·.accept c d))
      ⟨done.session, done.calls ++ lines.flatMap (·.compiled c), done.queued⟩ := by
  induction lines generalizing done with
  | nil => simp [acceptEach]
  | cons line rest ih => simp [acceptEach, ih]

end

end SessionWork

namespace Session

/-- What work on a request leads to in place, told from its outcome. -/
def inPlace (s : Session) : Except Refused Handled → EStateM.Result Failure Outcome Reply
  | .ok handled =>
    .ok handled.reply ⟨{ s with state := handled.state }, handled.calls, handled.queued⟩
  | .error refused => .error refused.failure ⟨s, refused.calls, []⟩

theorem greet_inPlace (s : Session) (r : Request) :
    SessionWork.greet r s.rest = s.inPlace (s.greet r) := by
  unfold SessionWork.greet SessionWork.introduce greet greetDetached greetAttached rest inPlace
  cases asked : Conventions.ofRequest r with
  | error refused => cases s.target <;> simp [calls_ofRequest asked]
  | ok conventions => cases target : s.target <;> simp [target]

theorem leave_inPlace (s : Session) (d : Debuggee) (r : Request) :
    SessionWork.leave d r s.rest = .ok .deferred (s.leave d r) := by
  simp [SessionWork.leave, rest, leave]

theorem setBreakpoints_inPlace (s : Session) (d : Debuggee) (r : Request) :
    SessionWork.setBreakpoints d r s.rest = s.inPlace (answerBreakpoints s.state d r) := by
  unfold SessionWork.setBreakpoints answerBreakpoints setBreakpoints rest inPlace
  cases read : BreakpointArguments.ofJson? r.arguments with
  | none => simp
  | some args =>
  cases names : breakpointPath s.state.conventions args.path with
  | error failure => simp [names]
  | ok path =>
  cases found : d.findSource path with
  | none => simp [names, found, SessionWork.breakpoints, Handled.answer]
  | some source =>
    simp [names, found, SessionWork.breakpoints, SessionWork.acceptEach_apply, Handled.answer]

theorem resume_inPlace (s : Session) (how : Resume) :
    SessionWork.resume how s.rest = s.inPlace (.ok (resume s.state how)) := by
  simp [SessionWork.resume, resume, rest, inPlace]

theorem pause_inPlace (s : Session) :
    SessionWork.pause s.rest = s.inPlace (.ok (pause s.state)) := by
  simp [SessionWork.pause, pause, rest, inPlace]

/-- Whatever waits is dropped before the frame is asked for. -/
theorem park_inPlace (s : Session) (reply : ReplyTo) (scope : FrameScope) (frame : Nat) :
    SessionWork.park reply scope frame s.rest =
      s.inPlace (.ok (s.state.park reply scope frame)) := by
  unfold SessionWork.park SessionState.park rest inPlace
  by_cases same : s.state.pendingFrame = some frame
  · -- what waits for the other scope stays
    have others := s.state.setPending_pending scope.other
    cases waits : s.state.pending scope.other with
    | none =>
      rw [waits] at others
      simp [same, waits, others]
      cases scope <;> rfl
    | some other =>
      rw [waits] at others
      simp [same, waits, others]
      cases scope <;> rfl
  · simp [same]
    cases scope <;> rfl

theorem frameVariables_inPlace (s : Session) (d : Debuggee) (reply : ReplyTo)
    (scope : FrameScope) (frame : Nat) : SessionWork.frameVariables d reply scope frame s.rest =
      s.inPlace (.ok (s.state.frameVariables d reply scope frame)) := by
  unfold SessionWork.frameVariables SessionState.frameVariables
  by_cases here : (s.state.view scope).frame = some frame
  · simp [here, rest, inPlace, SessionState.watchRows, SessionWork.rowsReply, Handled.answer]
  by_cases beyond : d.callStack.length ≤ frame
  · simp [here, beyond, rest, inPlace, SessionWork.rowsReply, Handled.answer]
  · simpa [here, beyond, rest] using s.park_inPlace reply scope frame

theorem rootVariables_inPlace (s : Session) (d : Debuggee) (scope : ScopeKind) (frame : Nat) :
    SessionWork.rootVariables d scope frame s.rest =
      s.inPlace (.ok (s.state.rootVariables d scope frame)) := by
  unfold SessionWork.rootVariables SessionState.rootVariables
  cases d.scopeValue scope frame <;>
    simp [rest, inPlace, SessionWork.rowsReply, Handled.answer]

theorem lookUp_inPlace (s : Session) (d : Debuggee) (r : Request) :
    SessionWork.lookUp d r s.rest = s.inPlace (s.state.answerVariables d r) := by
  unfold SessionWork.lookUp SessionState.answerVariables
  dsimp only
  cases named : VarRef.decode ((r.int? "variablesReference").getD 0) with
  | error failure => simp [rest, inPlace]
  | ok ref =>
  obtain ⟨scope, frame, slot⟩ := ref
  by_cases root : slot = 0
  · simp only [VarRef.isRoot, root, decide_true, if_true, SessionState.scopeVariables]
    cases scope with
    | locals => exact s.frameVariables_inPlace ..
    | closure => exact s.frameVariables_inPlace ..
    | global => exact s.rootVariables_inPlace ..
    | self => exact s.rootVariables_inPlace ..
  · cases holds : s.state.values.get? slot <;>
      simp [VarRef.isRoot, root, holds, rest, inPlace, SessionWork.rowsReply, Handled.answer]

theorem evaluate_inPlace (s : Session) (d : Debuggee) (r : Request) :
    SessionWork.evaluate d r s.rest = s.inPlace (s.state.answerEvaluate d r) := by
  unfold SessionWork.evaluate SessionState.answerEvaluate
  cases r.str? "expression" with
  | none => simp [rest, inPlace, Refused.atOnce]
  | some expression =>
  cases console : SessionState.consoleCommand? r expression with
  | some command =>
    simp [console, rest, inPlace, SessionWork.runConsole, SessionState.runConsole]
  | none =>
  cases value : d.evaluate expression ((r.int? "frameId").getD 0).toNat <;>
    simp [console, value, rest, inPlace, SessionState.evaluateExpression, Handled.answer]

theorem exceptionInfo_inPlace (s : Session) (d : Debuggee) :
    SessionWork.exceptionInfo d s.rest = s.inPlace (s.state.answerExceptionInfo d) := by
  unfold SessionWork.exceptionInfo SessionState.answerExceptionInfo
  cases trapped : s.state.liveException? d <;>
    simp [trapped, rest, inPlace, Refused.atOnce, Handled.answer]

theorem serve_inPlace (s : Session) (d : Debuggee) (r : Request) (w : Work) :
    (if s.target.isSome then SessionWork.serveAttached d r w else SessionWork.serveDetached w)
      s.rest = s.inPlace (s.serve d r w) := by
  unfold serve
  split
  · cases w with
    | setBreakpoints => exact s.setBreakpoints_inPlace d r
    | resume how => exact s.resume_inPlace how
    | pause => exact s.pause_inPlace
    | «variables» => exact s.lookUp_inPlace d r
    | evaluate => exact s.evaluate_inPlace d r
    | exceptionInfo => exact s.exceptionInfo_inPlace d
    | _ => rfl
  · cases w <;> rfl

end Session

end DebugAdapter
