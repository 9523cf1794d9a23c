import DebugAdapter.Proofs.Session.Conduct
import DebugAdapter.Proofs.Session.Introduction

/-!
# Phases

Requests alone lead a session from the introduction of its client to its end,
with one phase between that the target decides. `request_passes` says which
way a request takes in each phase; where it is answered without the debuggee
follows from it.
-/

namespace DebugAdapter

def Phase.main (target : Option Target) : Phase := if target.isSome then .attached else .detached

inductive Phase.Leads (target : Option Target) : Phase → Phase → Prop
  | stays (p : Phase) : Leads target p p
  | opens : Leads target .uninitialized (.main target)
  | ends : Leads target (.main target) .terminated

theorem Phase.Leads.from {target : Option Target} {p : Phase} (h : Leads target p .terminated) :
    p = .terminated ∨ p = .main target := by
  generalize reached : Phase.terminated = q at h
  cases h with
  | stays => exact .inl rfl
  | opens => cases target <;> cases reached
  | ends => exact .inr rfl

structure Asking where
  debuggee : Debuggee
  directory : List DirectoryEntry
  request : Request

def Asking.moment (a : Asking) : Moment := ⟨a.debuggee, .request a.directory a.request⟩

-- ---------------------------------------------------------------------------
-- Commands
-- ---------------------------------------------------------------------------

theorem ofName_leave {name : String} :
    Command.ofName name = .leave ↔ name ∈ ["disconnect", "terminate"] := by
  constructor
  · intro h
    unfold Command.ofName at h
    split at h
    · cases h
    · decide
    · decide
    · cases h
  · intro h
    obtain rfl | h := List.mem_cons.mp h
    · rfl
    · obtain rfl := List.mem_singleton.mp h
      rfl

theorem ofName_acknowledge {name : String} :
    Work.ofName name = .acknowledge ↔ name ∈ ["attach", "launch", "configurationDone"] := by
  constructor
  · intro h
    unfold Work.ofName at h
    split at h <;> first | decide | cases h
  · intro h
    simp only [List.mem_cons, List.not_mem_nil, or_false] at h
    obtain rfl | rfl | rfl := h <;> rfl

namespace Session

def introducedIn (s : Session) : List Moment → Bool
  | [] => false
  | m :: rest => s.introduces m || (s.step m).session.introducedIn rest

-- ---------------------------------------------------------------------------
-- Phases
-- ---------------------------------------------------------------------------

theorem phase_main {s : Session} (alive : s.terminated = false)
    (introduced : s.state.initialized = true) : s.phase = .main s.target := by
  simp [phase, Phase.main, alive, introduced]

theorem phase_uninitialized {s : Session} :
    s.phase = .uninitialized ↔ s.terminated = false ∧ s.state.initialized = false := by
  unfold phase
  cases s.terminated <;> cases s.state.initialized <;> cases s.target <;> simp

theorem phase_terminated {s : Session} : s.phase = .terminated ↔ s.terminated = true := by
  unfold phase
  cases s.terminated <;> cases s.state.initialized <;> cases s.target <;> simp

theorem phase_detached {s : Session} : s.phase = .detached ↔
    s.terminated = false ∧ s.state.initialized = true ∧ s.target = none := by
  unfold phase
  cases s.terminated <;> cases s.state.initialized <;> cases s.target <;> simp

theorem introduced_of_main {s : Session} (h : s.phase = .main s.target) :
    s.state.initialized = true := by
  cases introduced : s.state.initialized with
  | true => rfl
  | false =>
    simp only [phase, Phase.main, introduced] at h
    revert h
    cases s.terminated <;> cases s.target <;> simp

theorem leads_answer {s : Session} {result : Except Refused Handled}
    (alive : s.terminated = false)
    (introduces : ∀ handled, result = .ok handled → handled.state.initialized = true) :
    Phase.Leads s.target s.phase (s.answer r result).session.phase := by
  cases result with
  | error refused => exact .stays _
  | ok handled =>
    have opened : (s.answer r (.ok handled)).session.phase = .main s.target :=
      phase_main alive (introduces handled rfl)
    rw [opened]
    cases introduced : s.state.initialized with
    | true =>
      rw [phase_main alive introduced]
      exact .stays _
    | false =>
      rw [phase_uninitialized.mpr ⟨alive, introduced⟩]
      exact .opens

theorem Passes.leads {s : Session} (h : s.Passes d directory r o) :
    Phase.Leads s.target s.phase o.session.phase := by
  cases h with
  | greeting alive =>
    exact leads_answer alive fun handled h => Accepts.initialized (.greet (d := d) h)
  | leaving alive introduced =>
    rw [phase_main alive introduced]
    exact .ends
  | work alive introduced =>
    exact leads_answer alive fun handled h => Accepts.initialized (.serve introduced h)
  | _ => exact .stays _

theorem initialized_request (s : Session) (a : Asking) :
    (s.step a.moment).session.state.initialized =
      (s.state.initialized || s.introduces a.moment) := by
  obtain ⟨d, directory, r⟩ := a
  simp only [Asking.moment, introduces, step_request]
  have passes := s.request_passes d directory r
  generalize s.request d directory r = o at passes ⊢
  cases passes with
  | ended =>
    rw [answers_refuse, Bool.and_false, Bool.or_false]
    rfl
  | listing _ elsewhere =>
    rw [elsewhere]
    simp [directoryCommand]
  | greeting _ greeting =>
    obtain ⟨refused, greets, -⟩ | ⟨state, queued, greets, introduced, -, answered⟩ :=
      s.greet_cases r
    · rw [greets, answers_refuse, Bool.and_false, Bool.or_false]
      rfl
    · rw [greets, greeting, answered]
      simpa using introduced
  | early _ _ stranger => simp [stranger, refuse]
  | leaving _ _ other =>
    rw [decide_eq_false other, Bool.false_and, Bool.or_false]
    rfl
  | work _ introduced =>
    rw [introduced, Bool.true_or]
    cases served : s.serve d r (.ofName r.command) with
    | error refused => exact introduced
    | ok handled => exact Accepts.initialized (.serve introduced served)

theorem initialized_introducedIn (s : Session) (askings : List Asking) :
    (s.run (askings.map Asking.moment)).session.state.initialized =
      (s.state.initialized || s.introducedIn (askings.map Asking.moment)) := by
  induction askings generalizing s with
  | nil => simp [introducedIn, rest]
  | cons a askings ih =>
    rw [List.map_cons, run_cons_session, ih, initialized_request, introducedIn, Bool.or_assoc]

theorem introduced_of_ended {s : Session} (h : s.phase = .terminated → s.state.initialized = true)
    (askings : List Asking) :
    (s.run (askings.map Asking.moment)).session.phase = .terminated →
      (s.run (askings.map Asking.moment)).session.state.initialized = true := by
  induction askings generalizing s with
  | nil => exact h
  | cons a askings ih =>
    refine ih fun ended => ?_
    have leads : Phase.Leads s.target s.phase .terminated :=
      ended ▸ (s.request_passes a.debuggee a.directory a.request).leads
    obtain before | main := leads.from
    · exact initialized_step (h before)
    · exact initialized_step (introduced_of_main main)

-- ---------------------------------------------------------------------------
-- Requests in a phase
-- ---------------------------------------------------------------------------

theorem request_uninitialized {s : Session} (h : s.phase = .uninitialized)
    (d : Debuggee) (directory : List DirectoryEntry) {r : Request}
    (notGreeting : r.command ≠ "initialize") (here : r.command ≠ directoryCommand) :
    s.request d directory r = s.refuse r (notInitialized r.command) := by
  obtain ⟨alive, stranger⟩ := phase_uninitialized.mp h
  have passes := s.request_passes d directory r
  generalize s.request d directory r = o at passes ⊢
  cases passes with
  | early => rfl
  | ended dead => exact absurd (alive.symm.trans dead) (by decide)
  | listing _ elsewhere => exact absurd elsewhere here
  | greeting _ greeting => exact absurd greeting notGreeting
  | leaving _ introduced => exact absurd (stranger.symm.trans introduced) (by decide)
  | work _ introduced => exact absurd (stranger.symm.trans introduced) (by decide)

theorem answer_serve_detached {s : Session} (h : s.target = none) (d : Debuggee) (r : Request)
    (w : Work) : s.answer r (s.serve d r w) =
      if w = .acknowledge then ⟨s, [], [.respondEmpty r.replyTo]⟩
      else s.refuse r (.atOnce ErrorId.notAttached "Debug session is not attached to a script") := by
  rw [serve, h]
  cases w <;> rfl

theorem unbind_detached {s : Session} (h : s.target = none) (d : Debuggee) : s.unbind d = [] := by
  simp [unbind, h]

theorem request_detached {s : Session} (h : s.phase = .detached) (d : Debuggee)
    (directory : List DirectoryEntry) {r : Request} (notGreeting : r.command ≠ "initialize")
    (here : r.command ≠ directoryCommand) :
    s.request d directory r =
      if Command.ofName r.command = .leave then
        ⟨{ s with terminated := true }, [],
          [.respondEmpty r.replyTo, terminatedEvent false, .close]⟩
      else if Work.ofName r.command = .acknowledge then ⟨s, [], [.respondEmpty r.replyTo]⟩
      else s.refuse r (.atOnce 1 "Debug session is not attached to a script") := by
  obtain ⟨alive, introduced, target⟩ := phase_detached.mp h
  have passes := s.request_passes d directory r
  generalize s.request d directory r = o at passes ⊢
  cases passes with
  | leaving _ _ _ leave => rw [if_pos leave, Session.leave, unbind_detached target]
  | work _ _ _ _ stays => rw [if_neg stays, answer_serve_detached target]; rfl
  | ended dead => exact absurd (alive.symm.trans dead) (by decide)
  | listing _ elsewhere => exact absurd elsewhere here
  | greeting _ greeting => exact absurd greeting notGreeting
  | early _ stranger => exact absurd (introduced.symm.trans stranger) (by decide)

theorem not_attached_cases {s : Session} (h : s.phase ≠ .attached) :
    s.terminated = true ∨ s.state.initialized = false ∨ s.target = none := by
  rw [Ne, phase_attached] at h
  simpa only [Classical.not_and_iff_not_or_not, Bool.not_eq_false, Bool.not_eq_true,
    Option.isSome_eq_false_iff, Option.isNone_iff_eq_none] using h

/-- Outside the attached phase it does not matter what the debuggee would answer. -/
theorem request_unread {s : Session} (h : s.phase ≠ .attached) (d d' : Debuggee)
    (directory : List DirectoryEntry) (r : Request) :
    s.request d directory r = s.request d' directory r := by
  obtain dead | stranger | target := not_attached_cases h
  · simp only [request, dead, if_true]
  · simp only [request, stranger, Bool.false_eq_true, if_false]
  · simp only [request, leave, unbind_detached target, answer_serve_detached target]

theorem calls_request {s : Session} (h : s.phase ≠ .attached) (a : Asking)
    (silent : s.introduces a.moment = false) : (s.step a.moment).calls = [] := by
  obtain ⟨d, directory, r⟩ := a
  have detached (alive : s.terminated = false) (introduced : s.state.initialized = true) :
      s.target = none := by
    obtain dead | stranger | target := not_attached_cases h
    · exact absurd (alive.symm.trans dead) (by decide)
    · exact absurd (introduced.symm.trans stranger) (by decide)
    · exact target
  simp only [Asking.moment, introduces, step_request] at silent ⊢
  have passes := s.request_passes d directory r
  generalize s.request d directory r = o at passes silent ⊢
  cases passes with
  | greeting _ greeting =>
    obtain ⟨refused, greets, quiet⟩ | ⟨state, queued, greets, -, -, answered⟩ := s.greet_cases r
    · rw [greets]
      exact quiet
    · rw [greets, greeting, answered] at silent
      cases silent
  | leaving alive introduced => exact unbind_detached (detached alive introduced) d
  | work alive introduced =>
    rw [answer_serve_detached (detached alive introduced)]
    split <;> rfl
  | _ => rfl

-- ---------------------------------------------------------------------------
-- Runs of requests
-- ---------------------------------------------------------------------------

/-- The phases of a session that is asked this and that; in each of them, what becomes of
the next request. -/
theorem phase_gate (id : SessionId) (port : Nat) (target : Option Target) (levels : Nat)
    (earlier : List Asking) (a : Asking) :
    let start := fresh id port target levels
    let s := (start.run (earlier.map Asking.moment)).session
    let o := s.step a.moment
    let command := a.request.command
    let reply := a.request.replyTo
    Phase.Leads target s.phase o.session.phase ∧
    (start.introducedIn (earlier.map Asking.moment) = false → s.phase = .uninitialized ∧
      (command ≠ "initialize" → command ≠ "_sessions" → o = ⟨s, [],
        [.respondError reply 1100 ("request '" ++ command ++ "' before initialize")]⟩)) ∧
    (start.introducedIn (earlier.map Asking.moment) = true →
      s.phase = .main target ∨ s.phase = .terminated) ∧
    (s.phase = .detached → command ≠ "initialize" → command ≠ "_sessions" →
      o = if command ∈ ["disconnect", "terminate"] then ⟨{ s with terminated := true }, [],
            [.respondEmpty reply, terminatedEvent false, .close]⟩
          else if command ∈ ["attach", "launch", "configurationDone"] then
            ⟨s, [], [.respondEmpty reply]⟩
          else ⟨s, [], [.respondError reply 1 "Debug session is not attached to a script"]⟩) ∧
    (s.phase ≠ .attached → s.introduces a.moment = false → o.calls = [] ∧
      ∀ d : Debuggee, s.step { a.moment with debuggee := d } = o) := by
  intro start s o command reply
  have sameTarget : s.target = target := start.run_target _
  have known : s.state.initialized = start.introducedIn (earlier.map Asking.moment) :=
    start.initialized_introducedIn earlier
  have early : s.phase = .terminated → s.state.initialized = true :=
    introduced_of_ended (s := start) nofun earlier
  have unintroduced (stranger : start.introducedIn (earlier.map Asking.moment) = false) :
      s.phase = .uninitialized := by
    rw [← known] at stranger
    refine phase_uninitialized.mpr ⟨?_, stranger⟩
    cases ended : s.terminated with
    | false => rfl
    | true =>
      have introduced := early (phase_terminated.mpr ended)
      exact absurd (stranger.symm.trans introduced) (by decide)
  refine ⟨?_, fun stranger => ⟨unintroduced stranger, ?_⟩, fun introduced => ?_, ?_, ?_⟩
  · exact sameTarget ▸ (s.request_passes a.debuggee a.directory a.request).leads
  · exact request_uninitialized (unintroduced stranger) _ _
  · rw [← known] at introduced
    cases ended : s.terminated with
    | false => exact .inl (sameTarget ▸ phase_main ended introduced)
    | true => exact .inr (phase_terminated.mpr ended)
  · intro detached notGreeting here
    refine (request_detached detached _ _ notGreeting here).trans ?_
    simp only [ofName_leave, ofName_acknowledge]
    rfl
  · exact fun apart silent => ⟨calls_request apart a silent, fun d => request_unread apart _ _ _ _⟩

/-- A client asks a session without a target for threads: before it introduces itself, after
it failed to, and after it did. -/
theorem threads_without_target :
    let idle := Debuggee.holding (.tuple []) []
    let asks (seq : Int) (command : String) (arguments : Json) : Asking :=
      ⟨idle, [], ⟨seq, "request", command, arguments⟩⟩
    let wrong := asks 1 "initialize" (.obj [("pathFormat", .str "dos")])
    let right := asks 2 "initialize" .null
    let threads := asks 3 "threads" .null
    let start := fresh 7 4711 none 100
    let stranger := (start.run [wrong.moment]).session
    let known := (start.run [wrong.moment, right.moment]).session
    stranger.step threads.moment = ⟨stranger, [],
        [.respondError ⟨3, "threads"⟩ 1100 "request 'threads' before initialize"]⟩ ∧
      known.step threads.moment = ⟨known, [],
        [.respondError ⟨3, "threads"⟩ 1 "Debug session is not attached to a script"]⟩ := by
  intro idle asks wrong right threads start stranger known
  have before := phase_gate 7 4711 none 100 [wrong] threads
  have after := phase_gate 7 4711 none 100 [wrong, right] threads
  exact ⟨(before.2.1 (by decide +kernel)).2 (by decide) (by decide),
    after.2.2.2.1 (by decide +kernel) (by decide) (by decide)⟩

end Session

end DebugAdapter
