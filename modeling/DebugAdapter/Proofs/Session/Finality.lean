import DebugAdapter.Proofs.Session.Conduct
import DebugAdapter.Protocol.Stream

/-!
# The end of a session

The client may leave, the server may end the session, or the connection may be
lost. `step_ends` says what the first of these puts into the queue: what it
announces, and a close. Nothing after it makes the session do anything more
(`run_ended`), and nothing behind the close is written (`write_behind`).
-/

namespace DebugAdapter

namespace Outgoing

def announcesEnd : Outgoing → Bool
  | .event name _ => name = "terminated"
  | _ => false

def isClose : Outgoing → Bool
  | .close => true
  | _ => false

def beforeClose (queue : List Outgoing) : List Outgoing := queue.takeWhile fun m => !m.isClose

theorem IsOrdinary.quiet {m : Outgoing} (h : m.IsOrdinary) :
    m.announcesEnd = false ∧ m.isClose = false := by
  cases m with
  | response => exact ⟨rfl, rfl⟩
  | event name body => exact ⟨decide_eq_false h, rfl⟩
  | close => exact h.elim

end Outgoing

def Event.announces : Event → List Outgoing
  | .request .. => [Session.terminatedEvent false]
  | .terminate restart => [Session.terminatedEvent restart]
  | .notification _ | .connectionClosed => []

namespace Session

open Outgoing (beforeClose)

/-- The event that ends the session in a run. -/
def ending? (s : Session) : List Moment → Option Event
  | [] => none
  | m :: rest =>
    if (s.step m).session.terminated then some m.event else (s.step m).session.ending? rest

-- ---------------------------------------------------------------------------
-- Steps
-- ---------------------------------------------------------------------------

theorem step_ends {s : Session} {m : Moment} (alive : s.terminated = false)
    (ends : (s.step m).session.terminated = true) :
    ∃ answers, (∀ o ∈ answers, o.IsOrdinary) ∧
      (s.step m).queued = answers ++ m.event.announces ++ [.close] := by
  obtain ⟨d, event⟩ := m
  cases event with
  | request directory r =>
    rw [step_request] at ends ⊢
    obtain ⟨refused, h⟩ | ⟨-, body, h⟩ | ⟨-, h⟩ | ⟨-, handled, -, h⟩ :=
      s.request_cases d directory r
    all_goals rw [h] at ends
    · exact absurd (alive.symm.trans ends) (by decide)
    · exact absurd (alive.symm.trans ends) (by decide)
    · rw [h]
      exact ⟨[.respondEmpty r.replyTo], List.forall_mem_singleton.mpr trivial, rfl⟩
    · exact absurd (alive.symm.trans ends) (by decide)
  | notification n =>
    have kept : (s.notify d n).session.terminated = s.terminated := by
      unfold notify
      split <;> rfl
    exact absurd (alive.symm.trans (kept.symm.trans ends)) (by decide)
  | terminate restart =>
    refine ⟨[], List.forall_mem_nil _, ?_⟩
    simp [step, terminate, alive, Event.announces]
  | connectionClosed =>
    refine ⟨[], List.forall_mem_nil _, ?_⟩
    simp [step, connectionClosed, alive, Event.announces]

theorem Conduct.ordinary {s : Session} {o : Outcome} (h : s.Conduct d introduced o)
    (alive : o.session.terminated = false) : ∀ m ∈ o.queued, m.IsOrdinary := by
  cases h with
  | ended queued dead => exact absurd (dead.symm.trans alive) (by decide)
  | claims state queued _ ordinary => exact ordinary
  | works state calls queued _ _ ordinary => exact ordinary
  | ends queued => cases alive

-- ---------------------------------------------------------------------------
-- Runs
-- ---------------------------------------------------------------------------

theorem run_ended {s : Session} (dead : s.terminated = true) (moments : List Moment) :
    s.run moments = ⟨s, [], moments.flatMap fun m => m.event.afterEnd⟩ := by
  induction moments with
  | nil => rfl
  | cons m moments ih => simp only [run, step_ended dead, ih, List.append_nil, List.flatMap_cons]

/-- A run in which the session goes on announces no end. One in which it ends has the
announcement of the event that ends it right before the first close. -/
theorem run_ending {s : Session} (alive : s.terminated = false) (moments : List Moment) :
    (s.ending? moments = none ∧ (s.run moments).session.terminated = false ∧
      ∀ o ∈ (s.run moments).queued, o.IsOrdinary) ∨
    ∃ event before behind, s.ending? moments = some event ∧
      (s.run moments).session.terminated = true ∧ (∀ o ∈ before, o.IsOrdinary) ∧
      (s.run moments).queued = before ++ event.announces ++ .close :: behind := by
  induction moments generalizing s with
  | nil => exact .inl ⟨rfl, alive, List.forall_mem_nil _⟩
  | cons m moments ih =>
    simp only [ending?, run_cons_session, run_cons_queued]
    by_cases ends : (s.step m).session.terminated = true
    · obtain ⟨answers, ordinary, queued⟩ := step_ends alive ends
      refine .inr ⟨m.event, answers, moments.flatMap fun m => m.event.afterEnd, ?_, ?_, ordinary,
        ?_⟩
      · rw [if_pos ends]
      · rw [run_ended ends]
        exact ends
      · rw [queued, run_ended ends]
        simp only [List.append_assoc, List.singleton_append]
    · have goesOn : (s.step m).session.terminated = false := by simpa using ends
      have first := (s.step_conduct m).ordinary goesOn
      rw [if_neg ends]
      obtain ⟨unended, still, others⟩ | ⟨event, before, behind, ended, dead, ordinary, queued⟩ :=
        ih goesOn
      · exact .inl ⟨unended, still, List.forall_mem_append.mpr ⟨first, others⟩⟩
      · refine .inr ⟨event, (s.step m).queued ++ before, behind, ended, dead,
          List.forall_mem_append.mpr ⟨first, ordinary⟩, ?_⟩
        rw [queued]
        simp only [List.append_assoc]

end Session

-- ---------------------------------------------------------------------------
-- The queue
-- ---------------------------------------------------------------------------

namespace Outgoing

theorem beforeClose_cons {m : Outgoing} (h : m.isClose = false) (queue : List Outgoing) :
    beforeClose (m :: queue) = m :: beforeClose queue :=
  List.takeWhile_cons_of_pos (by rw [h]; rfl)

theorem beforeClose_append {before : List Outgoing} (h : ∀ m ∈ before, m.isClose = false)
    (behind : List Outgoing) : beforeClose (before ++ behind) = before ++ beforeClose behind :=
  List.takeWhile_append_of_pos fun m mem => by rw [h m mem]; rfl

end Outgoing

open Outgoing (beforeClose beforeClose_cons beforeClose_append)

theorem Stream.writeFrom_beforeClose (room : Option Nat) (seq : Nat) (queue : List Outgoing) :
    writeFrom room seq (beforeClose queue) = writeFrom room seq queue := by
  induction queue generalizing room seq with
  | nil => rfl
  | cons m queue ih =>
    by_cases closes : m.isClose = true
    · cases m with
      | close => rfl
      | _ => cases closes
    · rw [beforeClose_cons (by simpa using closes)]
      simp only [writeFrom, ih]

theorem Stream.write_behind {queue : List Outgoing} (closed : .close ∈ queue)
    (room : Option Nat) (behind : List Outgoing) :
    write room (queue ++ behind) = write room (beforeClose queue) := by
  have same : beforeClose (queue ++ behind) = beforeClose queue := by
    induction queue with
    | nil => cases closed
    | cons m queue ih =>
      by_cases closes : m.isClose = true
      · cases m with
        | close => rfl
        | _ => cases closes
      · have opened : m.isClose = false := by simpa using closes
        have later : Outgoing.close ∈ queue := by
          obtain rfl | later := List.mem_cons.mp closed
          · cases opened
          · exact later
        rw [List.cons_append, beforeClose_cons opened, beforeClose_cons opened, ih later]
  rw [write, write, ← writeFrom_beforeClose, same]

theorem Event.announces_cases (e : Event) :
    e.announces = [] ∨ ∃ restart, e.announces = [Session.terminatedEvent restart] ∧
      (restart = true ↔ e = .terminate true) := by
  cases e with
  | request directory r => exact .inr ⟨false, rfl, by simp⟩
  | notification n => exact .inl rfl
  | terminate restart => exact .inr ⟨restart, rfl, by simp⟩
  | connectionClosed => exact .inl rfl

namespace Session

theorem run_announces {s : Session} (alive : s.terminated = false) (moments : List Moment) :
    ∃ before, (∀ m ∈ before, m.IsOrdinary) ∧ beforeClose (s.run moments).queued =
      before ++ (s.ending? moments).elim [] Event.announces := by
  obtain ⟨unended, -, ordinary⟩ | ⟨event, before, behind, ended, -, ordinary, queued⟩ :=
    run_ending alive moments
  · have opened := beforeClose_append (fun m mem => (ordinary m mem).quiet.2) []
    rw [List.append_nil] at opened
    exact ⟨_, ordinary, by rw [opened, unended]; rfl⟩
  · have opened : ∀ m ∈ before ++ event.announces, m.isClose = false := by
      refine List.forall_mem_append.mpr ⟨fun m mem => (ordinary m mem).quiet.2, ?_⟩
      obtain silent | ⟨restart, announces, -⟩ := event.announces_cases
      · rw [silent]
        exact List.forall_mem_nil _
      · rw [announces]
        exact List.forall_mem_singleton.mpr rfl
    refine ⟨before, ordinary, ?_⟩
    rw [queued, beforeClose_append opened, ended]
    exact List.append_nil _

theorem terminated_iff_closed {s : Session} (alive : s.terminated = false)
    (moments : List Moment) :
    (s.run moments).session.terminated = true ↔ .close ∈ (s.run moments).queued := by
  obtain ⟨-, goesOn, ordinary⟩ | ⟨event, before, behind, -, dead, -, queued⟩ :=
    run_ending alive moments
  · refine ⟨fun dead => ?_, fun closed => (ordinary _ closed).elim⟩
    exact absurd (goesOn.symm.trans dead) (by decide)
  · refine ⟨fun _ => ?_, fun _ => dead⟩
    rw [queued]
    exact List.mem_append_right _ List.mem_cons_self

/-- The first end of a session is its last. What is queued before the first close
announces it once at most, as its last message, and asks for a restart if the server
ended the session so. From then on the session does no more than refuse requests, and
nothing is written behind the close. -/
theorem ending_final (id : SessionId) (port : Nat) (target : Option Target) (levels : Nat)
    (moments : List Moment) :
    let start := fresh id port target levels
    let o := start.run moments
    let first := beforeClose o.queued
    first.countP Outgoing.announcesEnd ≤ 1 ∧
    (∀ m ∈ first, m.announcesEnd = true → first.getLast? = some m ∧
      ∃ restart, m = terminatedEvent restart ∧
        (restart = true ↔ start.ending? moments = some (.terminate true))) ∧
    (o.session.terminated = true ↔ .close ∈ o.queued) ∧
    (o.session.terminated = true →
      (∀ later, o.session.run later =
        ⟨o.session, [], later.flatMap fun m => m.event.afterEnd⟩) ∧
      ∀ room behind, Stream.write room (o.queued ++ behind) = Stream.write room first) := by
  intro start o first
  have closed : o.session.terminated = true ↔ .close ∈ o.queued :=
    terminated_iff_closed rfl moments
  obtain ⟨before, ordinary, announced⟩ :
      ∃ before, (∀ m ∈ before, m.IsOrdinary) ∧
        first = before ++ (start.ending? moments).elim [] Event.announces :=
    run_announces rfl moments
  have quiet : before.countP Outgoing.announcesEnd = 0 :=
    List.countP_eq_zero.mpr fun m mem => by rw [(ordinary m mem).quiet.1]; decide
  -- an end that is announced is announced behind everything else
  have last : (start.ending? moments).elim [] Event.announces = [] ∨
      ∃ restart, (start.ending? moments).elim [] Event.announces = [terminatedEvent restart] ∧
        (restart = true ↔ start.ending? moments = some (.terminate true)) := by
    cases start.ending? moments with
    | none => exact .inl rfl
    | some event => simpa using event.announces_cases
  refine ⟨?_, ?_, closed, fun dead => ⟨run_ended dead, Stream.write_behind (closed.mp dead)⟩⟩
  · rw [announced, List.countP_append, quiet, Nat.zero_add]
    obtain silent | ⟨restart, announces, -⟩ := last
    · rw [silent]
      exact Nat.zero_le 1
    · rw [announces]
      exact List.countP_le_length
  · intro m mem announces
    rw [announced] at mem ⊢
    obtain early | late := List.mem_append.mp mem
    · exact absurd announces (by rw [(ordinary m early).quiet.1]; decide)
    obtain silent | ⟨restart, told, asked⟩ := last
    · rw [silent] at late
      cases late
    · rw [told] at late ⊢
      obtain rfl := List.mem_singleton.mp late
      exact ⟨List.getLast?_concat, restart, rfl, asked⟩

/-- The server has the client reconnect; then the client leaves, and is gone. -/
theorem restart_told_once :
    let idle := Debuggee.holding (.tuple []) []
    let o := (fresh 7 4711 (some ⟨0, 1, "main"⟩) 100).run [
      ⟨idle, .request [] ⟨1, "request", "initialize", .null⟩⟩, ⟨idle, .terminate true⟩,
      ⟨idle, .notification .stopped⟩, ⟨idle, .request [] ⟨2, "request", "disconnect", .null⟩⟩,
      ⟨idle, .connectionClosed⟩, ⟨idle, .terminate false⟩]
    o.queued.length = 8 ∧
      (beforeClose o.queued).getLast? = some (terminatedEvent true) ∧
      Stream.write none o.queued = Stream.write none (beforeClose o.queued) := by
  intro idle o
  have announced : terminatedEvent true ∈ beforeClose o.queued :=
    .tail _ (.tail _ (.tail _ (.tail _ (.head _))))
  have final := ending_final 7 4711 (some ⟨0, 1, "main"⟩) 100 [
    ⟨idle, .request [] ⟨1, "request", "initialize", .null⟩⟩, ⟨idle, .terminate true⟩,
    ⟨idle, .notification .stopped⟩, ⟨idle, .request [] ⟨2, "request", "disconnect", .null⟩⟩,
    ⟨idle, .connectionClosed⟩, ⟨idle, .terminate false⟩]
  refine ⟨rfl, (final.2.1 _ announced rfl).1, ?_⟩
  have written := (final.2.2.2 rfl).2 none []
  rwa [List.append_nil] at written

end Session

end DebugAdapter
