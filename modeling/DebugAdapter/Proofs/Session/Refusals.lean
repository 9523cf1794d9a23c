import DebugAdapter.Proofs.Session.Handlers

/-!
# Requests that fail

A request is answered at once with a failure of its own exactly if the work on it
gives up (`fails_iff`). Then its answer is all that comes of it: no request that waits
is cancelled, and the debuggee has been asked for the value of an expression at most.
`run_succeeding`: requests that fail can be left out of any run.
-/

namespace DebugAdapter

-- ---------------------------------------------------------------------------
-- Failures
-- ---------------------------------------------------------------------------

def Outgoing.fails (reply : ReplyTo) : Outgoing → Bool
  | .response r success _ _ => !success && r = reply
  | _ => false

def SessionState.Cancels (st : SessionState) (m : Outgoing) : Prop :=
  ∃ scope, ∃ waiting ∈ st.pending scope, m = cancellation scope waiting

/-- A request is answered at once with a failure of its own. -/
structure Session.Fails (s : Session) (d : Debuggee) (directory : List DirectoryEntry)
    (r : Request) (item : Outgoing) : Prop where
  queued : item ∈ (s.request d directory r).queued
  failed : item.fails r.replyTo = true
  own : ¬s.state.Cancels item

/-- A failure that comes before everything but the evaluation that fails. -/
structure Refused.Bare (refused : Refused) (d : Debuggee) : Prop where
  calls : ∀ c ∈ refused.calls, ∃ expression frame, c = .evaluate expression frame ∧
    d.evaluate expression frame = .error refused.failure.message
  errorId : refused.failure.errorId ≠ ErrorId.requestCancelled

theorem Refused.bare_atOnce (d : Debuggee) {id : Int} (own : id ≠ ErrorId.requestCancelled)
    (message : String) : (Refused.atOnce id message).Bare d :=
  ⟨List.forall_mem_nil _, own⟩

namespace SessionState

variable {st : SessionState} {d : Debuggee} {r : Request} {refused : Refused}

theorem bare_answerVariables (failed : st.answerVariables d r = .error refused) :
    refused.Bare d := by
  unfold answerVariables at failed
  dsimp only at failed
  split at failed
  · rename_i named
    cases failed
    obtain rfl := VarRef.decode_eq_error named
    exact ⟨List.forall_mem_nil _, (by decide : ErrorId.invalidHandle ≠ ErrorId.requestCancelled)⟩
  split at failed
  · cases failed
  split at failed <;> cases failed
  exact ⟨List.forall_mem_nil _, (by decide : ErrorId.invalidHandle ≠ ErrorId.requestCancelled)⟩

theorem bare_answerEvaluate (failed : st.answerEvaluate d r = .error refused) :
    refused.Bare d := by
  unfold answerEvaluate evaluateExpression at failed
  split at failed
  · cases failed
    exact Refused.bare_atOnce d (by decide) _
  split at failed
  · cases failed
  split at failed <;> cases failed
  rename_i wrong
  exact ⟨List.forall_mem_singleton.mpr ⟨_, _, rfl, wrong⟩,
    (by decide : ErrorId.evaluationFailed ≠ ErrorId.requestCancelled)⟩

theorem bare_answerExceptionInfo (failed : st.answerExceptionInfo d = .error refused) :
    refused.Bare d := by
  unfold answerExceptionInfo at failed
  split at failed <;> cases failed
  exact Refused.bare_atOnce d (by decide) _

end SessionState

theorem Conventions.bare_ofRequest (d : Debuggee) (failed : ofRequest r = .error refused) :
    refused.Bare d := by
  unfold ofRequest at failed
  dsimp only at failed
  split at failed <;> cases failed
  exact Refused.bare_atOnce d (by decide) _

namespace Session

variable {s : Session} {d : Debuggee} {r : Request} {refused : Refused}

theorem bare_greet (failed : s.greet r = .error refused) : refused.Bare d := by
  unfold greet greetDetached greetAttached at failed
  cases asked : Conventions.ofRequest r with
  | error why =>
    simp only [asked, InPlace.error_bind] at failed
    split at failed <;> cases failed <;> exact Conventions.bare_ofRequest d asked
  | ok conventions =>
    simp only [asked, InPlace.ok_bind] at failed
    split at failed <;> cases failed

theorem bare_serve (failed : s.serve d r w = .error refused) : refused.Bare d := by
  unfold serve at failed
  split at failed
  · cases w with
    | setBreakpoints =>
      simp only [serveAttached, answerBreakpoints] at failed
      split at failed <;> cases failed
      rename_i malformed
      obtain rfl := setBreakpoints_malformed malformed
      exact ⟨List.forall_mem_nil _, by decide⟩
    | «variables» => exact SessionState.bare_answerVariables failed
    | evaluate => exact SessionState.bare_answerEvaluate failed
    | exceptionInfo => exact SessionState.bare_answerExceptionInfo failed
    | source =>
      cases failed
      exact Refused.bare_atOnce d (by decide) _
    | unknown other =>
      cases failed
      exact Refused.bare_atOnce d (by decide) _
    | _ => cases failed
  · cases w with
    | acknowledge => cases failed
    | _ =>
      cases failed
      exact Refused.bare_atOnce d (by decide) _

end Session

-- ---------------------------------------------------------------------------
-- Successes
-- ---------------------------------------------------------------------------

theorem Outgoing.fails_respondError (reply : ReplyTo) (id : Int) (text : String) :
    (respondError reply id text).fails reply = true := by
  simp [respondError, fails]

theorem SessionState.not_cancels_respondError (st : SessionState) (reply : ReplyTo) {id : Int}
    (own : id ≠ ErrorId.requestCancelled) (text : String) :
    ¬st.Cancels (.respondError reply id text) := by
  rintro ⟨scope, waiting, -, same⟩
  simp only [cancellation, Outgoing.respondError, Outgoing.response.injEq,
    Option.some.injEq] at same
  obtain ⟨-, -, -, same⟩ := same
  have ids := congrArg (fun body : Json => (body.get? "error").bind (Json.get? · "id")) same
  simp [Json.get?_object, Json.lookup_cons] at ids
  exact own ids

def SessionState.Succeeds (st : SessionState) (reply : ReplyTo) (queued : List Outgoing) : Prop :=
  ∀ m ∈ queued, m.fails reply = true → st.Cancels m

namespace SessionState

variable {st : SessionState} {d : Debuggee} {r : Request} {reply : ReplyTo}

theorem Succeeds.append (first : st.Succeeds reply a) (second : st.Succeeds reply b) :
    st.Succeeds reply (a ++ b) := List.forall_mem_append.mpr ⟨first, second⟩

theorem succeeds_events (events : ∀ m ∈ queued, m.IsEvent) : st.Succeeds reply queued := by
  intro m hm failed
  obtain ⟨name, body, rfl⟩ := events m hm
  cases failed

theorem succeeds_answerNow (st : SessionState) (own : ReplyTo) (answer : Reply) :
    st.Succeeds reply (Session.answerNow own answer) := by
  cases answer with
  | deferred => exact List.forall_mem_nil _
  | _ => exact List.forall_mem_singleton.mpr nofun

theorem succeeds_dropped {dropped : Option ReplyTo} (scope : FrameScope)
    (waited : ∀ waiting ∈ dropped, waiting ∈ st.pending scope) :
    st.Succeeds reply (dropped.map (cancellation scope)).toList := by
  cases dropped with
  | none => exact List.forall_mem_nil _
  | some waiting =>
    exact List.forall_mem_singleton.mpr fun _ => ⟨scope, waiting, waited waiting rfl, rfl⟩

theorem succeeds_park (st : SessionState) (own : ReplyTo) (scope : FrameScope) (frame : Nat) :
    st.Succeeds reply (st.park own scope frame).queued := by
  refine (succeeds_dropped scope fun _ => id).append ?_
  refine succeeds_dropped scope.other fun waiting h => ?_
  split at h
  · cases h
  · exact h

theorem succeeds_looksUp (looksUp : st.LooksUp own (.ok handled)) :
    st.Succeeds reply handled.queued := by
  cases looksUp with
  | lists => exact List.forall_mem_nil _
  | parks scope frame => exact st.succeeds_park own scope frame

theorem succeeds_scopeVariables (st : SessionState) (d : Debuggee) (own : ReplyTo)
    (ref : VarRef) : st.Succeeds reply (st.scopeVariables d own ref).queued :=
  succeeds_looksUp (st.looksUp_scopeVariables d own ref)

theorem succeeds_answerVariables (ok : st.answerVariables d r = .ok handled) :
    st.Succeeds reply handled.queued :=
  succeeds_looksUp (ok ▸ st.looksUp_answerVariables d r)

theorem succeeds_answerEvaluate (ok : st.answerEvaluate d r = .ok handled) :
    st.Succeeds reply handled.queued := by
  unfold answerEvaluate evaluateExpression at ok
  split at ok
  · cases ok
  split at ok
  · cases ok
    refine succeeds_events fun m hm => ?_
    obtain ⟨line, -, rfl⟩ := List.mem_map.mp hm
    exact ⟨_, _, rfl⟩
  split at ok <;> cases ok
  exact List.forall_mem_nil _

end SessionState

namespace Session

variable {s : Session} {d : Debuggee} {r : Request}

theorem Accepts.succeeds {reply : ReplyTo} (accepted : s.Accepts d r handled) :
    s.state.Succeeds reply (handled.queued ++ answerNow r.replyTo handled.reply) := by
  refine .append ?_ (s.state.succeeds_answerNow _ _)
  obtain greets | ⟨-, plain | ⟨-, answered⟩ | ⟨-, answered⟩⟩ := accepted.work
  · obtain ⟨before, after, queued, events⟩ := greets.queued
    obtain ⟨first, second⟩ := List.forall_mem_append.mp events
    rw [queued]
    exact (SessionState.succeeds_events first).append
      (List.forall_mem_cons.mpr ⟨nofun, SessionState.succeeds_events second⟩)
  · exact SessionState.succeeds_events plain.queued
  · exact SessionState.succeeds_answerVariables answered
  · exact SessionState.succeeds_answerEvaluate answered

-- ---------------------------------------------------------------------------
-- Requests
-- ---------------------------------------------------------------------------

/-- How work on a request ends, in place and as it is answered. -/
inductive Ends (s : Session) (d : Debuggee) (r : Request) :
    EStateM.Result Failure Outcome Reply → Outcome → Prop
  | succeeds (reply : Reply) (done : Outcome) :
    s.state.Succeeds r.replyTo (done.queued ++ answerNow r.replyTo reply) →
    Ends s d r (.ok reply done)
      ⟨done.session, done.calls, done.queued ++ answerNow r.replyTo reply⟩
  | fails (refused : Refused) : refused.Bare d →
    Ends s d r (.error refused.failure ⟨s, refused.calls, []⟩) (s.refuse r refused)

theorem ends_of_result {result : Except Refused Handled}
    (bare : ∀ refused, result = .error refused → refused.Bare d)
    (accepted : ∀ handled, result = .ok handled → s.Accepts d r handled) :
    s.Ends d r (s.inPlace result) (s.answer r result) := by
  cases result with
  | error refused => exact .fails refused (bare refused rfl)
  | ok handled => exact .succeeds handled.reply _ (accepted handled rfl).succeeds

theorem request_ends (s : Session) (d : Debuggee) (directory : List DirectoryEntry)
    (r : Request) :
    s.Ends d r (SessionWork.request d directory r s.rest) (s.request d directory r) := by
  have here : s.rest.session = s := rfl
  have ended : s.Ends d r (.error (.protocol ErrorId.sessionTerminated
      "debug session has been terminated") s.rest) (s.refuse r (.atOnce ErrorId.sessionTerminated
      "debug session has been terminated")) :=
    .fails (.atOnce ..) (Refused.bare_atOnce d (by decide) _)
  have early : s.Ends d r (.error (notInitialized r.command).failure s.rest)
      (s.refuse r (notInitialized r.command)) :=
    .fails (notInitialized r.command) (Refused.bare_atOnce d (by decide) _)
  have listing (body : Json) :
      s.Ends d r (.ok (.body body) s.rest) ⟨s, [], [.respond r.replyTo body]⟩ :=
    .succeeds (.body body) s.rest (List.forall_mem_singleton.mpr nofun)
  have leaving : s.Ends d r (.ok .deferred (s.leave d r)) (s.leave d r) :=
    .succeeds .deferred (s.leave d r) (by
      simp [leave, answerNow, SessionState.Succeeds, Outgoing.respondEmpty, terminatedEvent,
        Outgoing.fails])
  unfold request
  cases dead : s.terminated with
  | true => simpa [SessionWork.request, here, dead] using ended
  | false =>
  by_cases directs : r.command = directoryCommand
  · simpa [SessionWork.request, here, dead, directs] using listing _
  cases command : Command.ofName r.command with
  | handshake =>
    have greets : s.Ends d r (s.inPlace (s.greet r)) (s.answer r (s.greet r)) :=
      ends_of_result (fun _ => bare_greet) fun _ => .greet
    simpa [SessionWork.request, here, dead, directs, command, greet_inPlace] using greets
  | leave =>
    cases introduced : s.state.initialized with
    | true =>
      simpa [SessionWork.request, here, dead, directs, command, introduced, leave_inPlace] using
        leaving
    | false => simpa [SessionWork.request, here, dead, directs, command, introduced] using early
  | work w =>
    obtain rfl := ofName_work command
    cases introduced : s.state.initialized with
    | true =>
      have served : s.Ends d r (s.inPlace (s.serve d r (.ofName r.command))) (s.answer r _) :=
        ends_of_result (fun _ => bare_serve) fun _ => .serve introduced
      rw [← serve_inPlace] at served
      simpa [SessionWork.request, here, dead, directs, command, introduced] using served
    | false => simpa [SessionWork.request, here, dead, directs, command, introduced] using early

theorem Fails.refused (fails : s.Fails d directory r item) : ∃ refused : Refused,
    refused.Bare d ∧ SessionWork.request d directory r s.rest =
      .error refused.failure ⟨s, refused.calls, []⟩ ∧
    s.request d directory r = ⟨s, refused.calls, [item]⟩ ∧
    item = .respondError r.replyTo refused.failure.errorId refused.failure.message := by
  obtain ⟨queued, failed, own⟩ := fails
  have ends := s.request_ends d directory r
  generalize SessionWork.request d directory r s.rest = work at ends ⊢
  generalize s.request d directory r = outcome at ends queued ⊢
  cases ends with
  | succeeds reply done others => exact absurd (others item queued failed) own
  | fails refused bare =>
    obtain rfl := List.mem_singleton.mp queued
    exact ⟨refused, bare, rfl, rfl, rfl⟩

theorem fails_iff : (∃ item, s.Fails d directory r item) ↔
    ∃ failure done, SessionWork.request d directory r s.rest = .error failure done := by
  constructor
  · rintro ⟨item, fails⟩
    obtain ⟨refused, -, gives, -⟩ := fails.refused
    exact ⟨_, _, gives⟩
  · rintro ⟨failure, done, gives⟩
    have ends := s.request_ends d directory r
    rw [gives] at ends
    generalize served : s.request d directory r = outcome at ends
    cases ends with
    | fails refused bare =>
      refine ⟨.respondError r.replyTo refused.failure.errorId refused.failure.message, ?_,
        Outgoing.fails_respondError .., s.state.not_cancels_respondError _ bare.errorId _⟩
      rw [served]
      exact List.mem_singleton_self _

-- ---------------------------------------------------------------------------
-- Runs
-- ---------------------------------------------------------------------------

def failure? (s : Session) (m : Moment) : Option Failure :=
  match m.event with
  | .request directory r =>
    match SessionWork.request m.debuggee directory r s.rest with
    | .error failure _ => some failure
    | .ok .. => none
  | _ => none

theorem fails_of_failure? {failure : Failure} (failed : s.failure? m = some failure) :
    ∃ directory r item, m.event = .request directory r ∧ s.Fails m.debuggee directory r item := by
  unfold failure? at failed
  split at failed
  · rename_i directory r asked
    split at failed <;> cases failed
    rename_i gives
    obtain ⟨item, fails⟩ := fails_iff.mpr ⟨_, _, gives⟩
    exact ⟨directory, r, item, asked, fails⟩
  · cases failed

/-- The events of a run but the requests that fail when their turn comes. -/
def succeeding (s : Session) : List Moment → List Moment
  | [] => []
  | m :: rest =>
    let others := (s.step m).session.succeeding rest
    if (s.failure? m).isSome then others else m :: others

theorem run_succeeding (s : Session) (moments : List Moment) :
    (s.run (s.succeeding moments)).session = (s.run moments).session ∧
      (s.run (s.succeeding moments)).queued.Sublist (s.run moments).queued := by
  induction moments generalizing s with
  | nil => exact ⟨rfl, .refl _⟩
  | cons m rest ih =>
    obtain ⟨same, answers⟩ := ih (s.step m).session
    unfold succeeding
    cases failed : s.failure? m with
    | none => exact ⟨same, answers.append_left _⟩
    | some failure =>
      obtain ⟨directory, r, item, asked, fails⟩ := fails_of_failure? failed
      obtain ⟨refused, -, -, served, -⟩ := fails.refused
      have step : s.step m = ⟨s, refused.calls, [item]⟩ := by
        obtain ⟨d, event⟩ := m
        cases asked
        exact served
      rw [step] at same answers
      rw [run_cons_session, run_cons_queued, step]
      exact ⟨same, answers.trans (List.sublist_append_right ..)⟩

/-- In whatever state and phase a session is, a request that it answers at once with a
failure leaves it as it was. The handlers, working on the session in place, give up before
they have changed or queued anything, so nothing that waits is cancelled, and the debuggee
has been asked for nothing but the value of an expression that has none. -/
theorem failed_requests_leave_no_trace (fails : s.Fails d directory r item) :
    ∃ failure calls,
      SessionWork.request d directory r s.rest = .error failure ⟨s, calls, []⟩ ∧
      s.request d directory r = ⟨s, calls, [item]⟩ ∧
      item = .respondError r.replyTo failure.errorId failure.message ∧
      (∀ c ∈ calls, ∃ expression frame, c = .evaluate expression frame ∧
        d.evaluate expression frame = .error failure.message) ∧
      ∀ later, let o := s.run later
        s.run (⟨d, .request directory r⟩ :: later) =
          ⟨o.session, calls ++ o.calls, item :: o.queued⟩ := by
  obtain ⟨refused, bare, gives, served, answer⟩ := fails.refused
  refine ⟨refused.failure, refused.calls, gives, served, answer, bare.calls, fun later => ?_⟩
  simp only [run, step_request, served, List.singleton_append]

/-- While an inquiry waits, its client asks under the same number for a value that was
never handed out, and then for an expression without a value. -/
theorem failed_requests_beside_inquiry :
    let stopped : Debuggee := { Debuggee.holding (.tuple []) [⟨none, none, 0, 0, 0⟩,
      ⟨none, none, 0, 0, 0⟩] with evaluate := fun _ _ => .error "variable 'x' does not exist" }
    let q : Inquiry := ⟨.locals, 1, ⟨2, "variables"⟩⟩
    let s := ((fresh 0 41912 (some ⟨11, 1, "a"⟩) 20).run [
      ⟨stopped, .request [] (.withHandle 1 "initialize" 0)⟩,
      ⟨stopped, .request [] q.request⟩]).session
    let stale : Moment := ⟨stopped, .request [] (.withHandle 2 "variables" 2097153)⟩
    let wrong : Moment :=
      ⟨stopped, .request [] ⟨3, "request", "evaluate", .obj [("expression", .str "x")]⟩⟩
    s.state.pending .locals = some q.reply ∧
      s.failure? stale = some (.invalidHandle 2097153) ∧
      (s.step stale).session = s ∧ (s.step stale).calls = [] ∧
      s.failure? wrong = some (.protocol 3014 "variable 'x' does not exist") ∧
      (s.step wrong).session = s ∧ (s.step wrong).calls = [.evaluate "x" 0] := by
  intro stopped q s stale wrong
  have gone : s.failure? stale = some (.invalidHandle 2097153) := by decide +kernel
  have worthless : s.failure? wrong = some (.protocol 3014 "variable 'x' does not exist") := by
    decide +kernel
  obtain ⟨_, _, _, ⟨⟩, fails⟩ := fails_of_failure? gone
  obtain ⟨_, _, _, ⟨⟩, fails'⟩ := fails_of_failure? worthless
  obtain ⟨_, calls, -, served, -⟩ := failed_requests_leave_no_trace fails
  obtain ⟨_, calls', -, served', -⟩ := failed_requests_leave_no_trace fails'
  have first : s.step stale = ⟨s, calls, _⟩ := served
  have second : s.step wrong = ⟨s, calls', _⟩ := served'
  exact ⟨by decide +kernel, gone, by rw [first], by decide +kernel, worthless, by rw [second],
    by decide +kernel⟩

end Session

end DebugAdapter
