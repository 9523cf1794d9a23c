import DebugAdapter.Proofs.Json.Members
import DebugAdapter.Proofs.Session.Run

/-!
# What a step leads to

Most requests are plain: they are answered at once, by what lists no values,
and of the session change at most the reason of the next stop. What is left
are the introduction of a client, and the requests for variables and for the
value of an expression (`Accepts.work`). `step_cases` says of every step that
it keeps the state, or is one of an accepted request, or of a report.
-/

namespace DebugAdapter

-- ---------------------------------------------------------------------------
-- Messages that show no values
-- ---------------------------------------------------------------------------

def Json.Blank (j : Json) : Prop :=
  j.get? "variablesReference" = none ∧ j.get? "variables" = none

theorem Json.blank_object {members : List (String × Json)}
    (hn : lookup "variablesReference" members.reverse = none)
    (hr : lookup "variables" members.reverse = none) : (object members).Blank := by
  simp only [Blank, get?_object]
  exact ⟨hn, hr⟩

def Outgoing.IsEvent (m : Outgoing) : Prop := ∃ name body, m = .event name body

def Outgoing.Blank : Outgoing → Prop
  | .response _ _ _ (some body) => body.Blank
  | _ => True

theorem Outgoing.IsEvent.blank {m : Outgoing} (h : m.IsEvent) : m.Blank := by
  obtain ⟨name, body, rfl⟩ := h
  trivial

theorem Outgoing.blank_respondError (reply : ReplyTo) (id : Int) (text : String) :
    (respondError reply id text).Blank :=
  Json.blank_object (by simp [Json.lookup_cons]) (by simp [Json.lookup_cons])

def Reply.Blank : Reply → Prop
  | .body j => j.Blank
  | .empty => True
  | .deferred => False

-- ---------------------------------------------------------------------------
-- Requests
-- ---------------------------------------------------------------------------

structure Handled.Plain (h : Handled) (st : SessionState) : Prop where
  state : ∃ reason, h.state = { st with stopReason := reason }
  queued : ∀ m ∈ h.queued, m.IsEvent
  reply : h.reply.Blank

structure Handled.Greets (h : Handled) (st : SessionState) (reply : ReplyTo) : Prop where
  state : ∃ conventions, h.state = { st with conventions, initialized := true }
  queued : ∃ before after, h.queued = before ++ .respond reply capabilities :: after ∧
    ∀ m ∈ before ++ after, m.IsEvent
  reply : h.reply = .deferred

theorem Handled.Plain.blank {h : Handled} (plain : h.Plain st) (reply : ReplyTo) :
    ∀ m ∈ h.queued ++ Session.answerNow reply h.reply, m.Blank := by
  refine List.forall_mem_append.mpr ⟨fun m hm => (plain.queued m hm).blank, ?_⟩
  have answered := plain.reply
  cases hr : h.reply with
  | body j =>
    rw [hr] at answered
    exact List.forall_mem_singleton.mpr answered
  | empty => exact List.forall_mem_singleton.mpr trivial
  | deferred => exact nofun

theorem Handled.Greets.blank {h : Handled} {reply : ReplyTo} (greets : h.Greets st reply) :
    ∀ m ∈ h.queued ++ Session.answerNow reply h.reply, m.Blank := by
  obtain ⟨-, ⟨before, after, queued, events⟩, deferred⟩ := greets
  obtain ⟨first, second⟩ := List.forall_mem_append.mp events
  have capable : (Outgoing.respond reply capabilities).Blank :=
    Json.blank_object (by simp [Json.lookup_cons]) (by simp [Json.lookup_cons])
  rw [queued, deferred]
  intro m hm
  obtain hm | rfl | hm : m ∈ before ∨ m = Outgoing.respond reply capabilities ∨ m ∈ after := by
    simpa [Session.answerNow] using hm
  · exact (first m hm).blank
  · exact capable
  · exact (second m hm).blank

theorem Handled.plain_answer {members : List (String × Json)} (calls : List Call)
    (hn : Json.lookup "variablesReference" members.reverse = none)
    (hr : Json.lookup "variables" members.reverse = none) :
    (Handled.answer st members calls).Plain st :=
  ⟨⟨st.stopReason, rfl⟩, nofun, Json.blank_object hn hr⟩

theorem Handled.plain_empty (st : SessionState) : Plain ⟨st, [], [], .empty⟩ st :=
  ⟨⟨st.stopReason, rfl⟩, nofun, trivial⟩

namespace Session

theorem resume_plain (st : SessionState) (how : Resume) : (resume st how).Plain st := by
  refine ⟨⟨how.stopReason, rfl⟩, nofun, ?_⟩
  cases how with
  | run => exact Json.blank_object (by simp [Json.lookup_cons]) (by simp [Json.lookup_cons])
  | _ => trivial

theorem pause_plain (st : SessionState) : (pause st).Plain st := by
  refine ⟨⟨.pause, rfl⟩, fun m hm => ?_, trivial⟩
  obtain rfl := List.mem_singleton.mp hm
  exact ⟨_, _, rfl⟩

theorem serveAttached_cases {st : SessionState}
    (h : serveAttached st levels d r w = .ok handled) :
    handled.Plain st ∨ w = .variables ∧ st.answerVariables d r = .ok handled ∨
      w = .evaluate ∧ st.answerEvaluate d r = .ok handled := by
  cases w with
  | «variables» => exact .inr (.inl ⟨rfl, h⟩)
  | evaluate => exact .inr (.inr ⟨rfl, h⟩)
  | setBreakpoints =>
    simp only [serveAttached, answerBreakpoints] at h
    split at h <;> cases h
    exact .inl (Handled.plain_answer _ rfl rfl)
  | exceptionInfo =>
    simp only [serveAttached, SessionState.answerExceptionInfo] at h
    split at h <;> cases h
    exact .inl (Handled.plain_answer _ (by simp [Json.lookup_cons]) (by simp [Json.lookup_cons]))
  | resume how =>
    cases h
    exact .inl (resume_plain st how)
  | pause =>
    cases h
    exact .inl (pause_plain st)
  | acknowledge =>
    cases h
    exact .inl (Handled.plain_empty st)
  | source => cases h
  | unknown => cases h
  | _ =>
    cases h
    exact .inl (Handled.plain_answer _ (by simp [Json.lookup_cons]) (by simp [Json.lookup_cons]))

theorem greet_greets {s : Session} (h : s.greet r = .ok handled) :
    handled.Greets s.state r.replyTo := by
  unfold greet greetDetached greetAttached at h
  cases hc : Conventions.ofRequest r with
  | error => simp only [hc] at h; split at h <;> cases h
  | ok conventions =>
    simp only [hc] at h
    split at h <;> cases h
    · refine ⟨⟨conventions, rfl⟩, ⟨[], _, rfl, ?_⟩, rfl⟩
      simp [Outgoing.IsEvent, Outgoing.console]
    · refine ⟨⟨conventions, rfl⟩, ⟨[_, _], _, rfl, ?_⟩, rfl⟩
      simp [Outgoing.IsEvent, Outgoing.console]

/-- A request that is accepted introduces the client, or comes from one that
has introduced itself and is plain, or asks an attached session for variables
or for the value of an expression. -/
theorem Accepts.work {s : Session} (h : s.Accepts d r handled) :
    handled.Greets s.state r.replyTo ∨ s.state.initialized = true ∧
      (handled.Plain s.state ∨
        Work.ofName r.command = .variables ∧ s.state.answerVariables d r = .ok handled ∨
        Work.ofName r.command = .evaluate ∧ s.state.answerEvaluate d r = .ok handled) := by
  cases h with
  | greet h => exact .inl (greet_greets h)
  | serve introduced h =>
    refine .inr ⟨introduced, ?_⟩
    unfold Session.serve at h
    split at h
    · exact serveAttached_cases h
    · unfold serveDetached at h
      split at h <;> cases h
      exact .inl (Handled.plain_empty _)

theorem request_variables {s : Session} (alive : s.terminated = false)
    (introduced : s.state.initialized = true) (attached : s.target.isSome)
    (command : r.command = "variables") :
    s.request d directory r = s.answer r (s.state.answerVariables d r) := by
  have isWork : Command.ofName r.command = .work .variables := by
    rw [command]
    rfl
  have noDirectory : ¬r.command = directoryCommand := by
    rw [command]
    decide
  simp [request, alive, noDirectory, isWork, introduced, serve, attached, serveAttached]

end Session

-- ---------------------------------------------------------------------------
-- Reports
-- ---------------------------------------------------------------------------

theorem SessionState.report_cases (st : SessionState) (d : Debuggee) (n : Notification) :
    (∃ scope frame, n = .watchesUpdated scope.watchKind frame ∧
        st.report d n =
          { st with currentFrame := frame <|> st.currentFrame }.refreshScope d scope) ∨
      (∃ frame, n = .watchesUpdated .callStack frame ∧
        st.report d n =
          ({ st with currentFrame := frame <|> st.currentFrame }.refreshStack d, [])) ∨
      (∃ stopReason exception, (st.report d n).1 = { st with stopReason, exception }) ∧
        ∀ m ∈ (st.report d n).2, m.IsEvent := by
  cases n with
  | watchesUpdated kind frame =>
    cases kind with
    | callStack => exact .inr (.inl ⟨frame, rfl, rfl⟩)
    | locals => exact .inl ⟨.locals, frame, rfl, rfl⟩
    | closure => exact .inl ⟨.closure, frame, rfl, rfl⟩
  | stopped =>
    refine .inr (.inr ⟨⟨st.stopReason, st.exception, rfl⟩, ?_⟩)
    exact List.forall_mem_singleton.mpr ⟨_, _, rfl⟩
  | exception e => exact .inr (.inr ⟨⟨.exception, some e, rfl⟩, nofun⟩)
  | sourceChanged source =>
    refine .inr (.inr ⟨⟨st.stopReason, st.exception, rfl⟩, fun m hm => ?_⟩)
    obtain ⟨info, -, rfl⟩ : ∃ info, _ ∧ Outgoing.console (sourceLine info) = m := by
      simpa [report] using hm
    exact ⟨_, _, rfl⟩
  | executionEnded =>
    refine .inr (.inr ⟨⟨st.stopReason, st.exception, rfl⟩, fun m hm => ?_⟩)
    obtain ⟨-, rfl⟩ : _ ∧ m = Outgoing.console "Execution ended." := by
      simpa [report] using hm
    exact ⟨_, _, rfl⟩

-- ---------------------------------------------------------------------------
-- Steps
-- ---------------------------------------------------------------------------

namespace Session

/-- A step keeps the state and shows no values, or it is an accepted request,
or the debuggee of an attached session reports something. -/
theorem step_cases (s : Session) (m : Moment) :
    ((s.step m).session.state = s.state ∧ ∀ msg ∈ (s.step m).queued, msg.Blank) ∨
      (∃ directory r handled, m.event = .request directory r ∧ s.terminated = false ∧
        s.Accepts m.debuggee r handled ∧ s.step m = s.answer r (.ok handled)) ∨
      ∃ n, m.event = .notification n ∧ s.terminated = false ∧
        (s.step m).session.state = (s.state.report m.debuggee n).1 ∧
        (s.step m).queued = (s.state.report m.debuggee n).2 := by
  obtain ⟨d, event⟩ := m
  cases event with
  | request directory r =>
    obtain ⟨refused, h⟩ | ⟨-, body, h⟩ | ⟨-, h⟩ | ⟨alive, handled, accepted, h⟩ :=
      s.request_cases d directory r
    all_goals rw [step_request, h]
    · refine .inl ⟨rfl, fun msg hm => ?_⟩
      obtain rfl := List.mem_singleton.mp hm
      exact Outgoing.blank_respondError ..
    · refine .inl ⟨rfl, fun msg hm => ?_⟩
      obtain rfl := List.mem_singleton.mp hm
      exact Json.blank_object (by simp [Json.lookup_cons]) (by simp [Json.lookup_cons])
    · refine .inl ⟨rfl, ?_⟩
      simp [leave, Outgoing.respondEmpty, terminatedEvent, Outgoing.Blank]
    · exact .inr (.inl ⟨directory, r, handled, rfl, alive, accepted, rfl⟩)
  | notification n =>
    simp only [step, notify]
    split
    · exact .inl ⟨rfl, List.forall_mem_nil _⟩
    · rename_i reported
      have alive : s.terminated = false := by
        revert reported
        cases s.terminated <;> simp
      exact .inr (.inr ⟨n, rfl, alive, rfl, rfl⟩)
  | terminate restart =>
    refine .inl ?_
    simp only [step, terminate]
    split
    · exact ⟨rfl, List.forall_mem_nil _⟩
    · exact ⟨rfl, by simp [terminatedEvent, Outgoing.Blank]⟩
  | connectionClosed =>
    refine .inl ?_
    simp only [step, connectionClosed]
    split <;> exact ⟨rfl, by simp [Outgoing.Blank]⟩

end Session

end DebugAdapter
