import DebugAdapter.Proofs.Session.Reports

/-!
# Stops and exceptions

Requests to go on or to pause and exceptions tell why execution will stop next; the last of
them counts. The exception that was told of last is kept whatever comes after it. So a stop
on an exception has a message to show, and the exception can be asked for as long as the
debuggee is on the stack that it was raised on (`stops_explained`).
-/

namespace DebugAdapter

def CallFrame.activation (f : CallFrame) : Nat × Nat × Nat := (f.address, f.basePtr, f.retAddress)

def exceptions (moments : List Moment) : List RuntimeException :=
  moments.filterMap (·.event.exception?)

/-- The body of the event for a stop: only a stop on an exception has a text. -/
structure Json.TellsStop (reason : StopReason) (last : Option RuntimeException) (body : Json) :
    Prop where
  named : body.get? "reason" = some (.str reason.name)
  silent : reason ≠ .exception → body.get? "text" = none
  message : reason = .exception → ∃ e, last = some e ∧ body.get? "text" = some (.str e.message)

namespace Session

def causes (s : Session) : List Moment → List StopReason
  | [] => []
  | m :: rest => (s.cause? m.event).toList ++ (s.step m).session.causes rest

variable {s : Session} {d : Debuggee} {r : Request}

-- ---------------------------------------------------------------------------
-- What a run leaves
-- ---------------------------------------------------------------------------

theorem stop_answerEvaluate (s : Session) (d : Debuggee) (r : Request) :
    let o := s.answer r (s.state.answerEvaluate d r)
    (∀ msg ∈ o.queued, msg.isStop = false) ∧
      o.session.state.stopReason = s.state.stopReason ∧
      o.session.state.exception = s.state.exception := by
  have answered (body : Json) :
      ∀ msg ∈ [Outgoing.respond r.replyTo body], msg.isStop = false :=
    List.forall_mem_singleton.mpr rfl
  unfold SessionState.answerEvaluate SessionState.evaluateExpression
  split
  · exact ⟨List.forall_mem_singleton.mpr rfl, rfl, rfl⟩
  split
  · refine ⟨List.forall_mem_append.mpr ⟨fun msg queued => ?_, answered _⟩, rfl, rfl⟩
    obtain ⟨line, -, rfl⟩ := List.mem_map.mp queued
    exact isStop_console line
  split
  · exact ⟨List.forall_mem_singleton.mpr rfl, rfl, rfl⟩
  · exact ⟨answered _, rfl, rfl⟩

theorem step_keeps_stop (alive : s.terminated = false) (target : s.target.isSome) (m : Moment) :
    (s.step m).session.state.stopReason = (s.cause? m.event).getD s.state.stopReason ∧
      (s.step m).session.state.exception = m.event.exception?.or s.state.exception := by
  cases asks : s.evaluation? m.event with
  | none =>
    have reports := step_reports alive target m asks
    exact ⟨reports.stopReason, reports.exception⟩
  | some r =>
    obtain ⟨directory, event, -, command⟩ := evaluation?_eq_some.mp asks
    rw [step_evaluation asks, event, cause?_of_command (by rw [command]; rfl)]
    exact (s.stop_answerEvaluate _ _).2

theorem run_keeps_stop {moments : List Moment} (target : s.target.isSome)
    (alive : (s.run moments).session.terminated = false) :
    (s.run moments).session.state.stopReason =
        (s.causes moments).getLast?.getD s.state.stopReason ∧
      (s.run moments).session.state.exception =
        (exceptions moments).getLast?.or s.state.exception := by
  induction moments generalizing s with
  | nil => exact ⟨rfl, rfl⟩
  | cons m moments ih =>
    obtain ⟨reason, exception⟩ := step_keeps_stop (alive_of_step (alive_of_run alive)) target m
    obtain ⟨last, raised⟩ := ih (s := (s.step m).session) (by rwa [step_target]) alive
    rw [run_cons_session, last, raised, reason, exception, causes]
    simp only [exceptions, filterMap_cons_eq_append, getLast?_toList_append, Option.getD_or,
      Option.or_assoc, and_self]

/-- Whoever waits for a stop on an exception has been told of it. -/
def Traced (s : Session) : Prop :=
  s.state.stopReason = .exception → s.state.exception.isSome

theorem stopReasonOf?_ne_exception (name : String) : stopReasonOf? name ≠ some .exception := by
  unfold stopReasonOf?
  split <;> simp

theorem exception?_of_cause? {event : Event} (h : s.cause? event = some .exception) :
    event.exception?.isSome := by
  cases event with
  | request directory r =>
    obtain ⟨-, told⟩ := Option.ite_none_right_eq_some.mp h
    exact absurd told (stopReasonOf?_ne_exception r.command)
  | notification n =>
    cases n with
    | exception e => rfl
    | _ => cases h
  | _ => cases h

theorem Traced.step (h : s.Traced) (alive : s.terminated = false) (target : s.target.isSome)
    (m : Moment) : (s.step m).session.Traced := by
  obtain ⟨reason, exception⟩ := step_keeps_stop alive target m
  intro expected
  rw [reason] at expected
  rw [exception]
  cases told : s.cause? m.event with
  | none =>
    rw [told] at expected
    simp [h expected]
  | some other =>
    obtain rfl : other = .exception := by rwa [told] at expected
    simp [exception?_of_cause? told]

theorem Traced.run {moments : List Moment} (h : s.Traced) (target : s.target.isSome)
    (alive : (s.run moments).session.terminated = false) : (s.run moments).session.Traced := by
  induction moments generalizing s with
  | nil => exact h
  | cons m moments ih =>
    have traced := h.step (alive_of_step (alive_of_run alive)) target m
    exact ih traced (by rwa [step_target]) alive

end Session

-- ---------------------------------------------------------------------------
-- Events of stops
-- ---------------------------------------------------------------------------

namespace SessionState

variable {st : SessionState}

theorem isStop_report {n : Notification} (other : n ≠ .stopped) :
    ∀ msg ∈ (st.report d n).2, msg.isStop = false := by
  have refreshed (st : SessionState) (scope : FrameScope) :
      ∀ msg ∈ (st.refreshScope d scope).2, msg.isStop = false := by
    unfold refreshScope resolve
    dsimp only
    split
    · exact List.forall_mem_nil _
    split
    · split
      · exact List.forall_mem_nil _
      · exact List.forall_mem_singleton.mpr rfl
    · exact List.forall_mem_nil _
  cases n with
  | stopped => exact absurd rfl other
  | exception e => exact List.forall_mem_nil _
  | watchesUpdated kind frame =>
    cases kind with
    | callStack => exact List.forall_mem_nil _
    | locals => exact refreshed _ _
    | closure => exact refreshed _ _
  | sourceChanged source =>
    simp only [report]
    cases d.sourceInfo source with
    | none => exact List.forall_mem_nil _
    | some info => exact List.forall_mem_singleton.mpr (isStop_console _)
  | executionEnded =>
    simp only [report]
    split
    · exact List.forall_mem_singleton.mpr (isStop_console _)
    · exact List.forall_mem_nil _

end SessionState

namespace Session

variable {s : Session} {d : Debuggee} {r : Request}

theorem isStop_request (s : Session) (d : Debuggee) (directory : List DirectoryEntry)
    (r : Request) : ∀ msg ∈ (s.request d directory r).queued, msg.isStop = false := by
  cases asks : s.evaluation? (.request directory r) with
  | none => exact (request_steady asks d).queued
  | some q =>
    rw [← step_request, step_evaluation asks]
    exact (s.stop_answerEvaluate d q).1

theorem stopped_of_isStop {msg : Outgoing} (queued : msg ∈ (s.step m).queued)
    (stop : msg.isStop = true) :
    m.event = .notification .stopped ∧ msg = s.state.stoppedEvent := by
  obtain ⟨d, event⟩ := m
  have none {queue : List Outgoing} (h : ∀ msg ∈ queue, msg.isStop = false)
      (queued : msg ∈ queue) : False := by
    cases stop.symm.trans (h msg queued)
  cases event with
  | request directory r => exact (none (s.isStop_request d directory r) queued).elim
  | terminate restart =>
    refine (none ?_ queued).elim
    simp only [step, terminate]
    split <;> simp [rest, terminatedEvent, Outgoing.isStop]
  | connectionClosed =>
    refine (none ?_ queued).elim
    simp only [step, connectionClosed]
    split <;> exact List.forall_mem_singleton.mpr rfl
  | notification n =>
    simp only [step, notify] at queued
    split at queued
    · cases queued
    by_cases stopped : n = .stopped
    · subst stopped
      exact ⟨rfl, List.mem_singleton.mp queued⟩
    · exact (none (SessionState.isStop_report stopped) queued).elim

end Session

theorem SessionState.tellsStop {st : SessionState}
    (traced : st.stopReason = .exception → st.exception.isSome) :
    ∃ body, st.stoppedEvent = .event "stopped" (some body) ∧
      body.TellsStop st.stopReason st.exception := by
  by_cases expected : st.stopReason = .exception
  · obtain ⟨e, raised⟩ := Option.isSome_iff_exists.mp (traced expected)
    refine ⟨_, rfl, ?_, fun other => absurd expected other, fun _ => ⟨e, raised, ?_⟩⟩
    all_goals simp [expected, raised, Json.optional, Json.get?_object, Json.lookup_cons]
  · refine ⟨_, rfl, ?_, fun _ => ?_, fun other => absurd other expected⟩
    all_goals simp [expected, Json.optional, Json.get?_object, Json.lookup_cons]

-- ---------------------------------------------------------------------------
-- The exception that is asked for
-- ---------------------------------------------------------------------------

theorem sameActivations_iff {a b : List CallFrame} :
    SessionState.sameActivations a b = true ↔
      a.map CallFrame.activation = b.map CallFrame.activation := by
  induction a generalizing b with
  | nil => cases b <;> simp [SessionState.sameActivations]
  | cons f a ih =>
    cases b with
    | nil => simp [SessionState.sameActivations]
    | cons g b =>
      simp [SessionState.sameActivations, ih, CallFrame.sameActivation, CallFrame.activation,
        and_assoc]

theorem SessionState.liveException?_eq_some {st : SessionState} :
    st.liveException? d = some e ↔ st.exception = some e ∧
      e.callStack.map CallFrame.activation = d.callStack.map CallFrame.activation := by
  rw [liveException?, Option.filter_eq_some_iff, sameActivations_iff]

namespace Session

variable {s : Session} {r : Request}

theorem step_exceptionInfo (attached : s.phase = .attached) (command : r.command = "exceptionInfo")
    (d : Debuggee) (directory : List DirectoryEntry) :
    s.step ⟨d, .request directory r⟩ = s.answer r (s.state.answerExceptionInfo d) := by
  rw [step_request, request_attached attached (by rw [command]; rfl) (by rw [command]; decide)]
  rfl

/-- In an attached session a stop is reported with the reason that was told of last, or as
the end of a step if none was, and on an exception with the message of the last one.
A client that asks for the exception is given the last one as long as the debuggee is on the
stack that it was raised on. -/
theorem stops_explained (id : SessionId) (port : Nat) (target : Target) (defaultLevels : Nat)
    (before : List Moment) :
    let start := fresh id port (some target) defaultLevels
    let s := (start.run before).session
    let reason := (start.causes before).getLast?.getD .step
    let last := (exceptions before).getLast?
    s.phase = .attached →
    (∀ m body, .event "stopped" body ∈ (s.step m).queued → m.event = .notification .stopped) ∧
    (∀ d, ∃ body, (s.step ⟨d, .notification .stopped⟩).queued = [.event "stopped" (some body)] ∧
      body.TellsStop reason last) ∧
    ∀ d directory r, r.command = "exceptionInfo" →
      let queued := (s.step ⟨d, .request directory r⟩).queued
      let Live (e : RuntimeException) : Prop := last = some e ∧
        e.callStack.map CallFrame.activation = d.callStack.map CallFrame.activation
      (∀ e, Live e → ∃ body, queued = [.respond r.replyTo body] ∧
        (body.get? "details").bind (·.get? "message") = some (.str e.message)) ∧
      ((∀ e, ¬Live e) →
        queued = [.respondError r.replyTo 2020 "exceptionInfo: no current exception"]) := by
  intro start s reason last attached
  obtain ⟨alive, -, hasTarget⟩ := phase_attached.mp attached
  have traced : s.Traced := Traced.run (s := start) nofun rfl alive
  obtain ⟨reason_eq, last_eq⟩ := run_keeps_stop (s := start) rfl alive
  replace reason_eq : s.state.stopReason = reason := reason_eq
  replace last_eq : s.state.exception = last := last_eq.trans (Option.or_none ..)
  refine ⟨fun m body queued => (stopped_of_isStop queued (by simp [Outgoing.isStop])).1, ?_, ?_⟩
  · intro d
    obtain ⟨body, event, tells⟩ := SessionState.tellsStop traced
    rw [reason_eq, last_eq] at tells
    refine ⟨body, ?_, tells⟩
    rw [step_hears ⟨rfl, alive, hasTarget⟩, ← event]
    rfl
  · intro d directory r command queued Live
    have live (e : RuntimeException) : s.state.liveException? d = some e ↔ Live e := by
      rw [SessionState.liveException?_eq_some, last_eq]
    have step := congrArg Outcome.queued (step_exceptionInfo attached command d directory)
    unfold SessionState.answerExceptionInfo at step
    refine ⟨fun e raised => ?_, fun none => ?_⟩
    · rw [(live e).mpr raised] at step
      exact ⟨_, step, by simp [Json.get?_object, Json.lookup_cons]⟩
    · rw [Option.eq_none_iff_forall_ne_some.mpr fun e raised => none e ((live e).mp raised)] at step
      exact step

/-- After a step past an exception the stop is that of the step. The exception can be asked
for on its stack, but not once the stack has grown. -/
theorem step_after_exception :
    let frame : CallFrame := ⟨none, none, 1, 2, 3⟩
    let e : RuntimeException := ⟨"boom", [frame]⟩
    let d := Debuggee.holding (.tuple []) [{ frame with name := some "f" }]
    let deeper := Debuggee.holding (.tuple []) [frame, frame]
    let start := fresh 1 4711 (some ⟨0, 7, "main"⟩) 20
    let raised : List Moment :=
      [⟨d, .request [] (.withHandle 1 "initialize" 0)⟩, ⟨d, .notification (.exception e)⟩]
    let stepped := raised ++ [⟨d, .request [] (.withHandle 2 "next" 0)⟩]
    let s := (start.run raised).session
    let t := (start.run stepped).session
    let asks : Event := .request [] (.withHandle 3 "exceptionInfo" 0)
    s.phase = .attached ∧ t.phase = .attached ∧
      (∃ body, (s.step ⟨d, .notification .stopped⟩).queued = [.event "stopped" (some body)] ∧
        body.get? "reason" = some (.str "exception") ∧ body.get? "text" = some (.str "boom")) ∧
      (∃ body, (t.step ⟨d, .notification .stopped⟩).queued = [.event "stopped" (some body)] ∧
        body.get? "reason" = some (.str "step") ∧ body.get? "text" = none) ∧
      (∃ body, (t.step ⟨d, asks⟩).queued = [.respond ⟨3, "exceptionInfo"⟩ body]) ∧
      (t.step ⟨deeper, asks⟩).queued =
        [.respondError ⟨3, "exceptionInfo"⟩ 2020 "exceptionInfo: no current exception"] := by
  intro frame e d deeper start raised stepped s t asks
  have first : s.phase = .attached := by decide +kernel
  have second : t.phase = .attached := by decide +kernel
  obtain ⟨-, tells, -⟩ := stops_explained 1 4711 ⟨0, 7, "main"⟩ 20 raised first
  obtain ⟨-, tellsLater, answers⟩ := stops_explained 1 4711 ⟨0, 7, "main"⟩ 20 stepped second
  have expects : (start.causes raised).getLast?.getD .step = .exception := by decide +kernel
  have steps : (start.causes stepped).getLast?.getD .step = .step := by decide +kernel
  have last : (exceptions stepped).getLast? = some e := by decide +kernel
  refine ⟨first, second, ?_, ?_, ?_, ?_⟩
  · obtain ⟨body, queued, shown⟩ := tells d
    rw [expects] at shown
    obtain ⟨raised, known, message⟩ := shown.message rfl
    obtain rfl : e = raised := Option.some.inj (by rw [← known]; decide +kernel)
    exact ⟨body, queued, shown.named, message⟩
  · obtain ⟨body, queued, shown⟩ := tellsLater d
    rw [steps] at shown
    exact ⟨body, queued, shown.named, shown.silent nofun⟩
  · obtain ⟨given, -⟩ := answers d [] (.withHandle 3 "exceptionInfo" 0) rfl
    obtain ⟨body, queued, -⟩ := given e ⟨last, rfl⟩
    exact ⟨body, queued⟩
  · obtain ⟨-, refused⟩ := answers deeper [] (.withHandle 3 "exceptionInfo" 0) rfl
    refine refused fun other live => ?_
    obtain rfl : e = other := Option.some.inj (last.symm.trans live.1)
    exact absurd live.2 (by decide)

end Session

end DebugAdapter
