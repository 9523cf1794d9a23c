import DebugAdapter.Proofs.Session.Inquiries

/-!
# What others see of a session

A debuggee that several sessions share, and a server that runs them, see of a
session whom the debuggee shall report to, and when the session is over.
`step_conduct` says of every step which it is: the client introduces itself and
the debuggee is claimed; the session ends and gives the debuggee up; it goes on
with work that does neither; or it was over before.
-/

namespace DebugAdapter

def Call.IsWork : Call → Prop
  | .attachDebugger | .detachDebugger | .setClient _ => False
  | _ => True

def Outgoing.IsOrdinary : Outgoing → Prop
  | .response .. => True
  | .event name _ => name ≠ "terminated"
  | .close => False

/-- What comes of a request claims nothing and ends nothing. -/
inductive Works : Except Refused Handled → Prop
  | refused : (∀ c ∈ refused.calls, c.IsWork) → Works (.error refused)
  | handled : (∀ c ∈ handled.calls, c.IsWork) → (∀ m ∈ handled.queued, m.IsOrdinary) →
    Works (.ok handled)

namespace Session

def introduces (s : Session) (m : Moment) : Bool :=
  match m.event with
  | .request _ r => r.command = "initialize" && (s.step m).queued.any (Outgoing.answers r.replyTo)
  | _ => false

/-- What a step is to others; `introduced` tells whether it introduces the client. -/
inductive Conduct (s : Session) (d : Debuggee) : (introduced : Bool) → Outcome → Prop
  | ended (queued : List Outgoing) : s.terminated = true → Conduct s d false ⟨s, [], queued⟩
  | claims (state : SessionState) (queued : List Outgoing) : s.terminated = false →
    (∀ m ∈ queued, m.IsOrdinary) →
    Conduct s d true
      ⟨{ s with state }, (s.target.map fun _ => Call.setClient (some s.id)).toList, queued⟩
  | works (state : SessionState) (calls : List Call) (queued : List Outgoing) :
    s.terminated = false → (∀ c ∈ calls, c.IsWork) → (∀ m ∈ queued, m.IsOrdinary) →
    Conduct s d false ⟨{ s with state }, calls, queued⟩
  | ends (queued : List Outgoing) : s.terminated = false → .close ∈ queued →
    Conduct s d false ⟨{ s with terminated := true }, s.unbind d, queued⟩

end Session

-- ---------------------------------------------------------------------------
-- Requests
-- ---------------------------------------------------------------------------

theorem isOrdinary_console (line : String) : (Outgoing.console line).IsOrdinary := by
  simp [Outgoing.console, Outgoing.IsOrdinary]

theorem works_answer (st : SessionState) (members : List (String × Json)) {calls : List Call}
    (h : ∀ c ∈ calls, c.IsWork) : Works (.ok (.answer st members calls)) :=
  .handled h (List.forall_mem_nil _)

theorem isWork_setBreakpoints (h : setBreakpoints d c arguments = .ok (answers, calls)) :
    ∀ call ∈ calls, call.IsWork :=
  setBreakpoints_calls (fun _ => trivial) (fun _ => trivial) (fun _ _ => trivial) h

theorem ConsoleCommand.isWork_execute (command : ConsoleCommand) (d : Debuggee) (notify : Bool) :
    ∀ c ∈ (command.execute d notify).calls, c.IsWork := by
  intro c made
  obtain ⟨pattern, rfl⟩ := mem_execute made
  trivial

namespace SessionState

variable (st : SessionState) (d : Debuggee)

theorem works_park (reply : ReplyTo) (scope : FrameScope) (frame : Nat) :
    Works (.ok (st.park reply scope frame)) := by
  refine .handled (fun c made => ?_) fun m queued => ?_
  · rw [st.mem_calls_park reply scope frame made]
    trivial
  · obtain ⟨other, waiting, rfl⟩ := st.mem_queued_park reply scope frame queued
    trivial

theorem works_answerVariables (r : Request) : Works (st.answerVariables d r) := by
  have looksUp := st.looksUp_answerVariables d r
  generalize st.answerVariables d r = result at looksUp ⊢
  cases looksUp with
  | refuses => exact .refused (List.forall_mem_nil _)
  | lists values rows calls asks =>
    refine works_answer _ _ fun c made => ?_
    obtain ⟨scope, frame, rfl⟩ := asks c made
    trivial
  | parks scope frame => exact st.works_park ..

theorem works_answerEvaluate (r : Request) : Works (st.answerEvaluate d r) := by
  have evaluated (expression : String) (frame : Nat) :
      ∀ c ∈ [Call.evaluate expression frame], c.IsWork := List.forall_mem_singleton.mpr trivial
  unfold answerEvaluate evaluateExpression
  split
  · exact .refused (List.forall_mem_nil _)
  split
  · rename_i command _
    refine .handled (command.isWork_execute _ _) fun m hm => ?_
    obtain ⟨line, -, rfl⟩ := List.mem_map.mp hm
    exact isOrdinary_console line
  split
  · exact .refused (evaluated _ _)
  · exact works_answer _ _ (evaluated _ _)

theorem isOrdinary_report (n : Notification) : ∀ m ∈ (st.report d n).2, m.IsOrdinary := by
  have resolved (st : SessionState) (scope : FrameScope) (frame : Nat) :
      ∀ m ∈ (st.resolve d scope frame).2, m.IsOrdinary := by
    unfold resolve
    split
    · exact List.forall_mem_nil _
    · exact List.forall_mem_singleton.mpr trivial
  have refreshed (st : SessionState) (scope : FrameScope) :
      ∀ m ∈ (st.refreshScope d scope).2, m.IsOrdinary := by
    unfold refreshScope
    dsimp only
    split
    · exact List.forall_mem_nil _
    split
    · exact resolved _ _ _
    · exact List.forall_mem_nil _
  cases n with
  | watchesUpdated kind frame =>
    cases kind with
    | callStack => exact List.forall_mem_nil _
    | locals => exact refreshed _ _
    | closure => exact refreshed _ _
  | stopped => exact List.forall_mem_singleton.mpr (by simp [stoppedEvent, Outgoing.IsOrdinary])
  | exception e => exact List.forall_mem_nil _
  | sourceChanged source =>
    simp only [report]
    cases d.sourceInfo source with
    | none => exact List.forall_mem_nil _
    | some info => exact List.forall_mem_singleton.mpr (isOrdinary_console _)
  | executionEnded =>
    simp only [report]
    split
    · exact List.forall_mem_singleton.mpr (isOrdinary_console _)
    · exact List.forall_mem_nil _

end SessionState

namespace Session

theorem works_serve (s : Session) (d : Debuggee) (r : Request) (w : Work) :
    Works (s.serve d r w) := by
  unfold serve
  split
  · cases w with
    | «variables» => exact s.state.works_answerVariables d r
    | evaluate => exact s.state.works_answerEvaluate d r
    | setBreakpoints =>
      simp only [serveAttached, answerBreakpoints]
      split
      · exact .refused (List.forall_mem_nil _)
      · rename_i set
        exact works_answer _ _ (isWork_setBreakpoints set)
    | exceptionInfo =>
      simp only [serveAttached, SessionState.answerExceptionInfo]
      split
      · exact .refused (List.forall_mem_nil _)
      · exact works_answer _ _ (List.forall_mem_nil _)
    | resume how => exact .handled (List.forall_mem_singleton.mpr trivial) (List.forall_mem_nil _)
    | pause =>
      exact .handled (List.forall_mem_singleton.mpr trivial)
        (List.forall_mem_singleton.mpr (isOrdinary_console _))
    | source => exact .refused (List.forall_mem_nil _)
    | unknown => exact .refused (List.forall_mem_nil _)
    | _ => exact .handled (List.forall_mem_nil _) (List.forall_mem_nil _)
  · unfold serveDetached
    split
    · exact .handled (List.forall_mem_nil _) (List.forall_mem_nil _)
    · exact .refused (List.forall_mem_nil _)

-- ---------------------------------------------------------------------------
-- Steps
-- ---------------------------------------------------------------------------

theorem isOrdinary_answerNow (reply : ReplyTo) (answer : Reply) :
    ∀ m ∈ answerNow reply answer, m.IsOrdinary := by
  cases answer with
  | deferred => exact List.forall_mem_nil _
  | _ => exact List.forall_mem_singleton.mpr trivial

theorem conduct_answer {s : Session} {d : Debuggee} {result : Except Refused Handled}
    (alive : s.terminated = false) (h : Works result) (r : Request) :
    s.Conduct d false (s.answer r result) := by
  cases h with
  | refused calls =>
    exact .works s.state _ _ alive calls (List.forall_mem_singleton.mpr trivial)
  | handled calls queued =>
    exact .works _ _ _ alive calls
      (List.forall_mem_append.mpr ⟨queued, isOrdinary_answerNow _ _⟩)

theorem answers_respond (reply : ReplyTo) (body : Json) :
    (Outgoing.respond reply body).answers reply = true := by
  simp [Outgoing.respond, Outgoing.answers]

theorem answers_refuse (s : Session) (r : Request) (refused : Refused) (reply : ReplyTo) :
    (s.refuse r refused).queued.any (Outgoing.answers reply) = false := rfl

theorem greet_cases (s : Session) (r : Request) :
    (∃ refused, s.answer r (s.greet r) = s.refuse r refused ∧ refused.calls = []) ∨
      ∃ state queued, s.answer r (s.greet r) = ⟨{ s with state },
          (s.target.map fun _ => Call.setClient (some s.id)).toList, queued⟩ ∧
        state.initialized = true ∧ (∀ m ∈ queued, m.IsOrdinary) ∧
        queued.any (Outgoing.answers r.replyTo) = true := by
  cases asked : Conventions.ofRequest r with
  | error refused =>
    refine .inl ⟨refused, ?_, calls_ofRequest asked⟩
    unfold greet greetDetached greetAttached
    rw [asked]
    cases s.target <;> rfl
  | ok conventions =>
    refine .inr ?_
    obtain ⟨id, port, target, levels, dead, state⟩ := s
    cases target with
    | none =>
      refine ⟨_, _, by simp only [greet, greetDetached, asked]; rfl, rfl, ?_, ?_⟩
      · simp [Outgoing.respond, Outgoing.console, Outgoing.IsOrdinary, answerNow]
      · simp [answers_respond]
    | some t =>
      refine ⟨_, _, by simp only [greet, greetAttached, asked]; rfl, rfl, ?_, ?_⟩
      · simp [Outgoing.respond, Outgoing.console, Outgoing.IsOrdinary, answerNow]
      · simp [answers_respond]

theorem conduct_greet {s : Session} {d : Debuggee} (alive : s.terminated = false) (r : Request) :
    s.Conduct d ((s.answer r (s.greet r)).queued.any (Outgoing.answers r.replyTo))
      (s.answer r (s.greet r)) := by
  obtain ⟨refused, greets, quiet⟩ | ⟨state, queued, greets, -, ordinary, answered⟩ :=
    s.greet_cases r
  · rw [greets, answers_refuse]
    refine conduct_answer alive (.refused ?_) r
    rw [quiet]
    exact List.forall_mem_nil _
  · rw [greets, answered]
    exact .claims _ _ alive ordinary

theorem step_conduct (s : Session) (m : Moment) :
    s.Conduct m.debuggee (s.introduces m) (s.step m) := by
  by_cases dead : s.terminated = true
  · have silent : s.introduces m = false := by
      rw [introduces, step_ended dead]
      cases m.event with
      | request directory r => exact Bool.and_false _
      | _ => rfl
    rw [silent, step_ended dead]
    exact .ended _ dead
  replace dead : s.terminated = false := by simpa using dead
  obtain ⟨d, event⟩ := m
  cases event with
  | request directory r =>
    simp only [introduces, step_request]
    have passes := s.request_passes d directory r
    generalize s.request d directory r = o at passes ⊢
    -- only the introduction may claim the debuggee
    cases passes with
    | greeting _ greeting =>
      rw [greeting]
      exact conduct_greet dead r
    | ended done => exact absurd (dead.symm.trans done) (by decide)
    | listing _ elsewhere =>
      rw [elsewhere]
      exact .works s.state _ _ dead (List.forall_mem_nil _) (List.forall_mem_singleton.mpr trivial)
    | early =>
      rw [answers_refuse, Bool.and_false]
      exact conduct_answer dead (.refused (List.forall_mem_nil _)) r
    | leaving _ _ other =>
      rw [decide_eq_false other, Bool.false_and]
      exact .ends _ dead (by simp)
    | work _ _ other =>
      rw [decide_eq_false other, Bool.false_and]
      exact conduct_answer dead (s.works_serve d r _) r
  | notification n =>
    simp only [introduces, step, notify]
    split
    · exact .works s.state _ _ dead (List.forall_mem_nil _) (List.forall_mem_nil _)
    · exact .works _ _ _ dead (List.forall_mem_nil _) (s.state.isOrdinary_report d n)
  | terminate restart =>
    simp only [introduces, step, terminate, dead]
    exact .ends _ dead (by simp)
  | connectionClosed =>
    simp only [introduces, step, connectionClosed, dead]
    exact .ends _ dead (by simp)

end Session

end DebugAdapter
