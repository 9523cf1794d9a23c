import DebugAdapter.Proofs.Machine.Inspection
import DebugAdapter.Proofs.Session.Issuing

/-!
# Sessions in words

Requests and notifications worked through in machine words. What carries no number is left to
the handlers as they are. A step goes through as long as the counter of the slots has not run
past them, and keeps it so (`yields_step`, `counted_step`): so does a run, whatever a client
sends (`client_numbers_harmless`).
-/

namespace DebugAdapter

namespace SessionState

variable (st : SessionState) (d : Debuggee)

-- ---------------------------------------------------------------------------
-- Reports
-- ---------------------------------------------------------------------------

def resolveInWords (scope : FrameScope) (frame : Nat) :
    Checked (SessionState × List Outgoing) :=
  match st.pending scope with
  | none => return (st, [])
  | some reply => do
    let (members, st) ← (st.setPending scope none).watchRowsInWords d scope frame
    return (st, [.respond reply (Json.object members)])

def refreshScopeInWords (scope : FrameScope) : Checked (SessionState × List Outgoing) :=
  let st := st.setView scope { st.view scope with frame := st.currentFrame }
  match st.currentFrame with
  | none => return (st, [])
  | some frame =>
    if st.pendingFrame = some frame then do
      let (st, queued) ← st.resolveInWords d scope frame
      return (st.settle, queued)
    else return (st, [])

def reportInWords : Notification → Checked (SessionState × List Outgoing)
  | .watchesUpdated .locals frame =>
    { st with currentFrame := frame <|> st.currentFrame }.refreshScopeInWords d .locals
  | .watchesUpdated .closure frame =>
    { st with currentFrame := frame <|> st.currentFrame }.refreshScopeInWords d .closure
  | n => return st.report d n

section
variable {st : SessionState} (h : st.values.Counted)
include h

theorem yields_resolve (scope : FrameScope) (frame : Nat) :
    Yields (st.resolveInWords d scope frame) (· = st.resolve d scope frame) := by
  unfold resolveInWords resolve
  cases st.pending scope with
  | none => exact .pure rfl
  | some reply =>
    have kept : (st.setPending scope none).values.Counted := by simpa using h
    refine (yields_watchRows d kept scope frame).bind fun rows same => .pure ?_
    rw [same]

theorem yields_refreshScope (scope : FrameScope) :
    Yields (st.refreshScopeInWords d scope) (· = st.refreshScope d scope) := by
  unfold refreshScopeInWords refreshScope
  have kept : (st.setView scope ⟨st.currentFrame, (st.view scope).pending⟩).values.Counted := by
    simpa using h
  dsimp only
  generalize st.setView scope ⟨st.currentFrame, (st.view scope).pending⟩ = shown at kept ⊢
  cases shown.currentFrame with
  | none => exact .pure rfl
  | some frame =>
    dsimp only
    split
    · refine (yields_resolve d kept scope frame).bind fun resolved same => .pure ?_
      rw [same]
    · exact .pure rfl

theorem yields_report (n : Notification) :
    Yields (st.reportInWords d n) (· = st.report d n) := by
  cases n with
  | watchesUpdated kind frame =>
    have kept : { st with currentFrame := frame <|> st.currentFrame }.values.Counted := h
    cases kind with
    | callStack => exact .pure rfl
    | locals => exact yields_refreshScope d kept .locals
    | closure => exact yields_refreshScope d kept .closure
  | _ => exact .pure rfl

end

end SessionState

-- ---------------------------------------------------------------------------
-- Requests
-- ---------------------------------------------------------------------------

namespace Session

def answerBreakpointsInWords (st : SessionState) (d : Debuggee) (r : Request) :
    Checked (Except Refused Handled) := do
  match ← setBreakpointsInWords d st.conventions r.arguments with
  | .error failure => return .error ⟨failure, []⟩
  | .ok (breakpoints, calls) =>
    return .ok (.answer st [("breakpoints", .arr (breakpoints.map Breakpoint.toJson))] calls)

def serveAttachedInWords (st : SessionState) (defaultLevels : Nat) (d : Debuggee)
    (r : Request) : Work → Checked (Except Refused Handled)
  | .setBreakpoints => answerBreakpointsInWords st d r
  | .stackTrace => return .ok (← st.answerStackTraceInWords d defaultLevels r)
  | .scopes => return .ok (← st.answerScopesInWords d r)
  | .variables => st.answerVariablesInWords d r
  | .evaluate => st.answerEvaluateInWords d r
  | w => return serveAttached st defaultLevels d r w

def serveInWords (s : Session) (d : Debuggee) (r : Request) (w : Work) :
    Checked (Except Refused Handled) :=
  if s.target.isSome then serveAttachedInWords s.state s.defaultLevels d r w
  else return serveDetached s.state w

def requestInWords (s : Session) (d : Debuggee) (directory : List DirectoryEntry)
    (r : Request) : Checked Outcome :=
  if s.terminated ∨ r.command = directoryCommand then return s.request d directory r
  else match Command.ofName r.command with
    | .work w =>
      if s.state.initialized then return s.answer r (← s.serveInWords d r w)
      else return s.refuse r (notInitialized r.command)
    | _ => return s.request d directory r

def notifyInWords (s : Session) (d : Debuggee) (n : Notification) : Checked Outcome :=
  if s.terminated || s.target.isNone then return s.rest
  else do
    let (state, queued) ← s.state.reportInWords d n
    return ⟨{ s with state }, [], queued⟩

def stepInWords (s : Session) (m : Moment) : Checked Outcome :=
  match m.event with
  | .request directory r => s.requestInWords m.debuggee directory r
  | .notification n => s.notifyInWords m.debuggee n
  | .terminate _ | .connectionClosed => return s.step m

def runInWords (s : Session) : List Moment → Checked Outcome
  | [] => return s.rest
  | m :: rest => do
    let first ← s.stepInWords m
    let others ← first.session.runInWords rest
    return ⟨others.session, first.calls ++ others.calls, first.queued ++ others.queued⟩

theorem yields_answerBreakpoints (st : SessionState) (d : Debuggee) (r : Request) :
    Yields (answerBreakpointsInWords st d r) (· = answerBreakpoints st d r) := by
  unfold answerBreakpoints
  refine (yields_setBreakpoints d st.conventions r.arguments).bind fun answered same => ?_
  rw [← same]
  rcases answered with failure | answered
  · exact .pure rfl
  · exact .pure rfl

section
variable {s : Session} (usual : WordType.usize.Holds s.defaultLevels)
  (h : s.state.values.Counted)
include usual h

theorem yields_serve {d : Debuggee} (fits : d.InWords) (r : Request) (w : Work) :
    Yields (s.serveInWords d r w) (· = s.serve d r w) := by
  unfold serveInWords serve
  split
  · cases w with
    | setBreakpoints => exact yields_answerBreakpoints s.state d r
    | stackTrace =>
      refine (SessionState.yields_answerStackTrace s.state fits usual r).bind fun _ same => ?_
      exact .pure (by rw [same]; rfl)
    | scopes =>
      refine (SessionState.yields_answerScopes s.state fits r).bind fun _ same => ?_
      exact .pure (by rw [same]; rfl)
    | «variables» => exact SessionState.yields_answerVariables d h r
    | evaluate => exact SessionState.yields_answerEvaluate d h r
    | _ => exact .pure rfl
  · exact .pure rfl

theorem yields_request {d : Debuggee} (fits : d.InWords) (directory : List DirectoryEntry)
    (r : Request) : Yields (s.requestInWords d directory r) (· = s.request d directory r) := by
  unfold requestInWords
  split
  · exact .pure rfl
  rename_i live
  rcases not_or.mp live with ⟨alive, here⟩
  cases named : Command.ofName r.command with
  | work w =>
    rw [request, if_neg alive, if_neg here, named]
    dsimp only
    split
    · refine (yields_serve usual h fits r w).bind fun found same => .pure ?_
      rw [same]
    · exact .pure rfl
  | _ => exact .pure rfl

theorem yields_step {m : Moment} (fits : m.debuggee.InWords) :
    Yields (s.stepInWords m) (· = s.step m) := by
  rcases m with ⟨d, event⟩
  cases event with
  | request directory r => exact yields_request usual h fits directory r
  | notification n =>
    show Yields (s.notifyInWords d n) (· = s.notify d n)
    unfold notifyInWords notify
    split
    · exact .pure rfl
    · refine (SessionState.yields_report d h n).bind fun reported same => .pure ?_
      rw [same]
  | terminate | connectionClosed => exact .pure rfl

end

-- ---------------------------------------------------------------------------
-- Runs
-- ---------------------------------------------------------------------------

theorem counted_step {s : Session} (h : s.state.values.Counted) (m : Moment) :
    (s.step m).session.state.values.Counted := by
  by_cases changes : s.FindsOtherStack m
  · by_cases attached : s.target.isSome
    · rw [(step_cleared attached changes).1]
      exact h.clear
    · rcases m with ⟨d, event⟩
      rcases changes with ⟨-, ⟨frame, rfl⟩, -⟩
      have detached : s.target.isNone := by simpa using attached
      simp only [step, notify, detached, Bool.or_true, if_true]
      exact h
  · rcases s.step_shows changes with ⟨subjects, issues, -⟩
    exact issues.counted h

theorem step_defaultLevels (s : Session) (m : Moment) :
    (s.step m).session.defaultLevels = s.defaultLevels := by
  rcases m with ⟨d, event⟩
  cases event with
  | request directory r =>
    rcases s.request_cases d directory r with ⟨_, h⟩ | ⟨-, _, h⟩ | ⟨-, h⟩ | ⟨-, _, -, h⟩
    all_goals rw [step_request, h]
    all_goals rfl
  | notification n =>
    simp only [step, notify]
    split <;> rfl
  | terminate restart =>
    simp only [step, terminate]
    split <;> rfl
  | connectionClosed =>
    simp only [step, connectionClosed]
    split <;> rfl

theorem yields_run {s : Session} (usual : WordType.usize.Holds s.defaultLevels)
    (h : s.state.values.Counted) {moments : List Moment}
    (fits : ∀ m ∈ moments, m.debuggee.InWords) :
    Yields (s.runInWords moments) (· = s.run moments) ∧
      (s.run moments).session.state.values.Counted := by
  induction moments generalizing s with
  | nil => exact ⟨.pure rfl, h⟩
  | cons m moments ih =>
    rw [List.forall_mem_cons] at fits
    rcases ih (by rwa [step_defaultLevels]) (counted_step h m) fits.2 with ⟨others, kept⟩
    refine ⟨(yields_step usual h fits.1).bind fun first same => ?_, kept⟩
    rw [same]
    refine others.bind fun later same => .pure ?_
    rw [same]
    rfl

/-- Whatever numbers a client sends, and whatever it sends in place of them: no sum,
difference or shift of a handler leaves the range of its type and every cast keeps its number,
the part of the stack that is shown is there, and no reference is written that does not fit,
since the work in words does none of this without breaking off. It comes to what is computed
without a limit of numbers. The counter of the slots stops after the greatest of them. -/
theorem client_numbers_harmless (id : SessionId) (port : Nat) (target : Option Target)
    {defaultLevels : Nat} (usual : WordType.usize.Holds defaultLevels) {moments : List Moment}
    (fits : ∀ m ∈ moments, m.debuggee.InWords) :
    let s := fresh id port target defaultLevels
    s.runInWords moments = .ok (s.run moments) ∧
      (s.run moments).session.state.values.nextSlot ≤ VarRef.maxSlot + 1 ∧
      ∀ length start levels, (window length start levels).1 ≤ (window length start levels).2 ∧
        (window length start levels).2 ≤ length := by
  intro s
  rcases yields_run (s := s) usual ValueTable.counted_empty fits with ⟨worked, counted⟩
  exact ⟨yields_eq_iff.mp worked, counted, window_le⟩

/-- The greatest and the least numbers, in a session whose stack has a frame at the last line
of all; its client counts lines from 0. -/
theorem extreme_numbers_harmless :
    let last : Location := ⟨0, 4294967295, 4294967295, 4294967295, 4294967295, false⟩
    let d := { Debuggee.holding (.tuple [.tuple []]) [⟨none, some last, 0, 0, 0⟩] with
      findSource := fun _ => some 0 }
    let ask (command : String) (members : List (String × Json)) : Moment :=
      ⟨d, .request [] ⟨1, "request", command, .obj members⟩⟩
    let least := Json.int (-9223372036854775808)
    let greatest := Json.int 9223372036854775807
    let asked := [
      ask "initialize" [("linesStartAt1", .bool false)],
      ask "stackTrace" [("startFrame", least), ("levels", greatest)],
      ask "stackTrace" [("startFrame", greatest), ("levels", .str "all")],
      ask "scopes" [("frameId", greatest)],
      ask "variables" [("variablesReference", least)],
      ask "variables" [("variablesReference", .int 2097152)],
      ask "evaluate" [("expression", .str "x"), ("frameId", greatest)],
      ask "setBreakpoints" [("source", .obj [("path", .str "/main.lua")]),
        ("lines", .arr [least, greatest])]]
    let s := fresh 1 4711 (some ⟨0, 7, "main"⟩) 20
    (∀ m ∈ asked, m.debuggee.InWords) ∧ s.runInWords asked = .ok (s.run asked) ∧
      (s.run asked).session.state.values.nextSlot = 3 := by
  intro last d ask least greatest asked s
  have typed : d.InWords := {
    frames := by
      intro frame there l located
      cases List.mem_singleton.mp there
      cases located
      exact ⟨by decide, by decide, by decide, by decide⟩
    size := by decide }
  have fits : ∀ m ∈ asked, m.debuggee.InWords := by
    simp [asked, ask, typed]
  exact ⟨fits, (client_numbers_harmless 1 4711 _ (by decide) fits).1, by decide +kernel⟩

end Session

end DebugAdapter
