import DebugAdapter.Proofs.Session.FrameScopes
import DebugAdapter.Proofs.Session.Phases

/-!
# What reports depend on

Why execution will stop next, the exception that was told of last, and whether ends of
executions are announced: a session keeps these until an event is about them. An event that
asks for no value changes them as it tells (`step_reports`), and a request among these
neither leads to the event of a stop nor has the debuggee evaluate anything
(`request_steady`).
-/

namespace DebugAdapter

def stopReasonOf? : String → Option StopReason
  | "continue" => some .breakpoint
  | "next" | "stepIn" | "stepOut" => some .step
  | "pause" => some .pause
  | _ => none

def Event.exception? : Event → Option RuntimeException
  | .notification (.exception e) => some e
  | _ => none

def Outgoing.isStop : Outgoing → Bool
  | .event name _ => name = "stopped"
  | _ => false

def Call.isConsole : Call → Bool
  | .evaluate .. | .setErrorFilter _ => true
  | _ => false

namespace SessionState

/-- Two states report stops and ends of executions in the same way. -/
structure SameReports (a b : SessionState) : Prop where
  stopReason : a.stopReason = b.stopReason
  exception : a.exception = b.exception
  notifyEnd : a.notifyEnd = b.notifyEnd

def told (st : SessionState) (reason : Option StopReason) (e : Option RuntimeException) :
    SessionState :=
  { st with stopReason := reason.getD st.stopReason, exception := e.or st.exception }

inductive Steady (st after : SessionState) : Except Refused Handled → Prop
  | refuses (failure : Failure) : st.SameReports after → Steady st after (.error ⟨failure, []⟩)
  | handles : handled.state.SameReports after → (∀ msg ∈ handled.queued, msg.isStop = false) →
    (∀ c ∈ handled.calls, c.isConsole = false) → Steady st after (.ok handled)

end SessionState

/-- A step after which reports are those of `after`. It does not send the event of a stop, and
nothing is evaluated. -/
structure Outcome.Steady (o : Outcome) (after : SessionState) : Prop where
  state : o.session.state.SameReports after
  queued : ∀ msg ∈ o.queued, msg.isStop = false
  calls : ∀ c ∈ o.calls, c.isConsole = false

namespace Session

def cause? (s : Session) : Event → Option StopReason
  | .request _ r => if s.phase = .attached then stopReasonOf? r.command else none
  | .notification (.exception _) => some .exception
  | _ => none

def evaluation? (s : Session) : Event → Option Request
  | .request _ r => if s.phase = .attached ∧ r.command = "evaluate" then some r else none
  | _ => none

end Session

theorem getLast?_toList_append (first : Option α) (rest : List α) :
    (first.toList ++ rest).getLast? = rest.getLast?.or first := by
  rw [List.getLast?_append]
  cases first <;> rfl

theorem filterMap_cons_eq_append (f : α → Option β) (a : α) (rest : List α) :
    (a :: rest).filterMap f = (f a).toList ++ rest.filterMap f := by
  rw [List.filterMap_cons]
  cases f a <;> rfl

-- ---------------------------------------------------------------------------
-- Looking up, and fresh watches
-- ---------------------------------------------------------------------------

theorem isStop_console (line : String) : (Outgoing.console line).isStop = false := by
  simp [Outgoing.console, Outgoing.isStop]

namespace SessionState

theorem SameReports.refl (st : SessionState) : st.SameReports st := ⟨rfl, rfl, rfl⟩

theorem SameReports.trans {a b c : SessionState} (h : a.SameReports b) (h' : b.SameReports c) :
    a.SameReports c :=
  ⟨h.stopReason.trans h'.stopReason, h.exception.trans h'.exception,
    h.notifyEnd.trans h'.notifyEnd⟩

variable (st : SessionState) (d : Debuggee)

theorem sameReports_setView (scope : FrameScope) (v : ScopeView) :
    (st.setView scope v).SameReports st := by
  cases scope <;> exact ⟨rfl, rfl, rfl⟩

theorem sameReports_setPending (scope : FrameScope) (reply : Option ReplyTo) :
    (st.setPending scope reply).SameReports st := st.sameReports_setView ..

theorem steady_park (reply : ReplyTo) (scope : FrameScope) (frame : Nat) :
    Steady st st (.ok (st.park reply scope frame)) := by
  have parked (other : Option ReplyTo) := (sameReports_setPending _ scope (some reply)).trans
    (st.sameReports_setPending scope.other other)
  refine .handles ?_ (fun msg queued => ?_) fun c made => ?_
  · unfold park
    dsimp only
    split <;> split
    · exact parked _
    · exact ⟨(parked _).stopReason, (parked _).exception, (parked _).notifyEnd⟩
    · exact parked _
    · exact ⟨(parked _).stopReason, (parked _).exception, (parked _).notifyEnd⟩
  · obtain ⟨dropped, waiting, rfl⟩ := st.mem_queued_park reply scope frame queued
    rfl
  · rw [st.mem_calls_park reply scope frame made]
    rfl

theorem steady_answerVariables (r : Request) : Steady st st (st.answerVariables d r) := by
  have looksUp := st.looksUp_answerVariables d r
  generalize st.answerVariables d r = result at looksUp ⊢
  cases looksUp with
  | refuses failure => exact .refuses failure (.refl st)
  | lists values rows calls asks =>
    refine .handles ⟨rfl, rfl, rfl⟩ (List.forall_mem_nil _) fun c made => ?_
    obtain ⟨scope, frame, rfl⟩ := asks c made
    rfl
  | parks scope frame => exact st.steady_park ..

variable {st d}

theorem sameReports_refreshWatches (kind : WatchKind) (frame : Option Nat) :
    (st.refreshWatches d kind frame).1.SameReports st := by
  have resolved (st : SessionState) (scope : FrameScope) (frame : Nat) :
      (st.resolve d scope frame).1.SameReports st := by
    have served := st.sameReports_setPending scope none
    unfold resolve
    split
    · exact ⟨rfl, rfl, rfl⟩
    · exact ⟨served.stopReason, served.exception, served.notifyEnd⟩
  have settled (st : SessionState) : st.settle.SameReports st := by
    unfold settle
    split <;> exact ⟨rfl, rfl, rfl⟩
  have refreshed (st : SessionState) (scope : FrameScope) :
      (st.refreshScope d scope).1.SameReports st := by
    have viewed := st.sameReports_setView scope { st.view scope with frame := st.currentFrame }
    unfold refreshScope
    dsimp only
    split
    · exact viewed
    split
    · exact (settled _).trans ((resolved ..).trans viewed)
    · exact viewed
  have current : SameReports { st with currentFrame := frame <|> st.currentFrame } st :=
    ⟨rfl, rfl, rfl⟩
  cases kind with
  | callStack =>
    simp only [refreshWatches, refreshStack]
    split <;> exact ⟨rfl, rfl, rfl⟩
  | locals => exact (refreshed _ .locals).trans current
  | closure => exact (refreshed _ .closure).trans current

end SessionState

-- ---------------------------------------------------------------------------
-- What requests and notifications report
-- ---------------------------------------------------------------------------

def Work.stopReason? : Work → Option StopReason
  | .resume how => some how.stopReason
  | .pause => some .pause
  | _ => none

theorem Work.stopReason?_ofName (name : String) :
    (ofName name).stopReason? = stopReasonOf? name := by
  unfold ofName
  split <;> simp_all [stopReason?, stopReasonOf?, Resume.stopReason]

namespace Session

variable {s : Session} {d : Debuggee} {r : Request}

theorem evaluation?_eq_some {event : Event} : s.evaluation? event = some r ↔
    ∃ directory, event = .request directory r ∧ s.phase = .attached ∧ r.command = "evaluate" := by
  cases event with
  | request directory q =>
    simp only [evaluation?, Option.ite_none_right_eq_some, Option.some.injEq, Event.request.injEq]
    constructor
    · rintro ⟨both, rfl⟩
      exact ⟨directory, ⟨rfl, rfl⟩, both⟩
    · rintro ⟨_, ⟨-, rfl⟩, both⟩
      exact ⟨both, rfl⟩
  | _ => simp [evaluation?]

theorem cause?_of_unattached (h : s.phase ≠ .attached) (directory : List DirectoryEntry)
    (r : Request) : s.cause? (.request directory r) = none := if_neg h

theorem cause?_of_command (silent : stopReasonOf? r.command = none)
    (directory : List DirectoryEntry) : s.cause? (.request directory r) = none := by
  rw [cause?, silent, ite_self]

theorem serveAttached_steady (st : SessionState) (levels : Nat) (d : Debuggee) (r : Request)
    {w : Work} (other : w ≠ .evaluate) :
    SessionState.Steady st (st.told w.stopReason? none) (serveAttached st levels d r w) := by
  have same : st.SameReports (st.told none none) := ⟨rfl, rfl, rfl⟩
  have none {P : Outgoing → Prop} : ∀ msg ∈ ([] : List Outgoing), P msg := List.forall_mem_nil _
  cases w with
  | evaluate => exact absurd rfl other
  | «variables» => exact st.steady_answerVariables d r
  | resume how =>
    exact .handles ⟨rfl, rfl, rfl⟩ none (List.forall_mem_singleton.mpr rfl)
  | pause =>
    exact .handles ⟨rfl, rfl, rfl⟩ (List.forall_mem_singleton.mpr (isStop_console _))
      (List.forall_mem_singleton.mpr rfl)
  | setBreakpoints =>
    simp only [serveAttached, answerBreakpoints]
    split
    · exact .refuses _ same
    · rename_i set
      exact .handles same none
        (setBreakpoints_calls (fun _ => rfl) (fun _ => rfl) (fun _ _ => rfl) set)
  | exceptionInfo =>
    simp only [serveAttached, SessionState.answerExceptionInfo]
    split
    · exact .refuses _ same
    · exact .handles same none (List.forall_mem_nil _)
  | source => exact .refuses _ same
  | unknown => exact .refuses _ same
  | _ => exact .handles same none (List.forall_mem_nil _)

theorem serveDetached_steady (st : SessionState) (w : Work) :
    SessionState.Steady st st (serveDetached st w) := by
  unfold serveDetached
  split
  · exact .handles (.refl st) (List.forall_mem_nil _) (List.forall_mem_nil _)
  · exact .refuses _ (.refl st)

theorem isStop_answerNow (reply : ReplyTo) (answer : Reply) :
    ∀ msg ∈ answerNow reply answer, msg.isStop = false := by
  cases answer with
  | deferred => exact List.forall_mem_nil _
  | _ => exact List.forall_mem_singleton.mpr rfl

theorem answer_steady {result : Except Refused Handled} {after : SessionState}
    (h : s.state.Steady after result) (r : Request) : (s.answer r result).Steady after := by
  cases h with
  | refuses failure same =>
    exact ⟨same, List.forall_mem_singleton.mpr rfl, List.forall_mem_nil _⟩
  | handles same queued calls =>
    exact ⟨same, List.forall_mem_append.mpr ⟨queued, isStop_answerNow _ _⟩, calls⟩

theorem greet_steady (s : Session) (r : Request) : (s.answer r (s.greet r)).Steady s.state := by
  unfold greet greetDetached greetAttached
  cases asked : Conventions.ofRequest r with
  | error refused =>
    have quiet : ∀ c ∈ refused.calls, c.isConsole = false := by
      rw [calls_ofRequest asked]
      exact List.forall_mem_nil _
    cases s.target <;> exact ⟨⟨rfl, rfl, rfl⟩, List.forall_mem_singleton.mpr rfl, quiet⟩
  | ok conventions =>
    cases s.target with
    | none =>
      refine ⟨⟨rfl, rfl, rfl⟩, ?_, List.forall_mem_nil _⟩
      simp [answer, answerNow, Outgoing.respond, Outgoing.console, Outgoing.isStop]
    | some t =>
      refine ⟨⟨rfl, rfl, rfl⟩, ?_, List.forall_mem_singleton.mpr rfl⟩
      simp [answer, answerNow, Outgoing.respond, Outgoing.console, Outgoing.isStop]

theorem isConsole_unbind (s : Session) (d : Debuggee) : ∀ c ∈ s.unbind d, c.isConsole = false := by
  unfold unbind
  split
  · exact List.forall_mem_singleton.mpr rfl
  · exact List.forall_mem_nil _

theorem ofName_evaluate {name : String} (h : Work.ofName name = .evaluate) :
    name = "evaluate" := by
  unfold Work.ofName at h
  split at h <;> cases h
  rfl

theorem request_steady {directory : List DirectoryEntry}
    (other : s.evaluation? (.request directory r) = none) (d : Debuggee) :
    (s.request d directory r).Steady (s.state.told (s.cause? (.request directory r)) none) := by
  have refused (id : Int) (message : String) :
      (s.refuse r (.atOnce id message)).Steady s.state :=
    ⟨⟨rfl, rfl, rfl⟩, List.forall_mem_singleton.mpr rfl, List.forall_mem_nil _⟩
  have passes := s.request_passes d directory r
  generalize s.request d directory r = o at passes ⊢
  cases passes with
  | ended dead =>
    rw [cause?_of_unattached fun h => by simp [phase_attached, dead] at h]
    exact refused ..
  | early _ stranger =>
    rw [cause?_of_unattached fun h => by simp [phase_attached, stranger] at h]
    exact refused ..
  | listing _ elsewhere =>
    rw [cause?_of_command (by rw [elsewhere]; rfl)]
    exact ⟨⟨rfl, rfl, rfl⟩, List.forall_mem_singleton.mpr rfl, List.forall_mem_nil _⟩
  | leaving _ _ _ leave =>
    have silent : stopReasonOf? r.command = none := by
      obtain leave | leave := List.mem_pair.mp (ofName_leave.mp leave)
      all_goals (rw [leave]; rfl)
    rw [cause?_of_command silent]
    refine ⟨⟨rfl, rfl, rfl⟩, ?_, s.isConsole_unbind d⟩
    simp [Session.leave, Outgoing.respondEmpty, terminatedEvent, Outgoing.isStop]
  | greeting _ greeting =>
    rw [cause?_of_command (by rw [greeting]; rfl)]
    exact s.greet_steady r
  | work alive introduced =>
    refine answer_steady ?_ r
    unfold serve
    split
    · rename_i target
      have attached : s.phase = .attached := phase_attached.mpr ⟨alive, introduced, target⟩
      rw [cause?, if_pos attached, ← Work.stopReason?_ofName]
      refine serveAttached_steady _ _ d r fun evaluate => ?_
      cases other.symm.trans
        (evaluation?_eq_some.mpr ⟨directory, rfl, attached, ofName_evaluate evaluate⟩)
    · rename_i detached
      rw [cause?_of_unattached fun h => detached (phase_attached.mp h).2.2]
      exact serveDetached_steady _ _

-- ---------------------------------------------------------------------------
-- Steps
-- ---------------------------------------------------------------------------

theorem step_evaluation (asks : s.evaluation? m.event = some r) :
    s.step m = s.answer r (s.state.answerEvaluate m.debuggee r) := by
  obtain ⟨d, event⟩ := m
  obtain ⟨directory, rfl, attached, command⟩ := evaluation?_eq_some.mp asks
  rw [step_request, request_attached attached (by rw [command]; rfl) (by rw [command]; decide)]
  rfl

/-- A step of a session with a target that is not asked for a value changes what reports
depend on as its event tells. -/
theorem step_reports (alive : s.terminated = false) (target : s.target.isSome) (m : Moment)
    (other : s.evaluation? m.event = none) :
    (s.step m).session.state.SameReports
      (s.state.told (s.cause? m.event) m.event.exception?) := by
  obtain ⟨d, event⟩ := m
  have same : s.state.SameReports (s.state.told none none) := ⟨rfl, rfl, rfl⟩
  cases event with
  | request directory r => exact (request_steady other d).state
  | notification n =>
    rw [step_hears ⟨rfl, alive, target⟩]
    cases n with
    | exception e => exact ⟨rfl, rfl, rfl⟩
    | watchesUpdated kind frame => exact SessionState.sameReports_refreshWatches kind frame
    | _ => exact same
  | terminate restart =>
    simp only [step, terminate]
    split <;> exact same
  | connectionClosed =>
    simp only [step, connectionClosed]
    split <;> exact same

end Session

end DebugAdapter
