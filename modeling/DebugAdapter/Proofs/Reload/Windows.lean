import DebugAdapter.Proofs.Reload.Hosts

/-!
# Windows

A timer runs on what it is fed with: signals in the order of their times, and the end of their
channel. `expiries_feed` says of each reset by itself whether its window lapses. A coordinator whose
users call it in the order of times runs on such a timer (`expiries_run`), and while it has old
instances a window is open (`armed_run`).
-/

namespace DebugAdapter

namespace Debounce

-- ---------------------------------------------------------------------------
-- Feeds
-- ---------------------------------------------------------------------------

structure Feed where
  signals : List (Nat × Signal)
  closing : Option Nat

namespace Feed

def received (f : Feed) : List (Nat × Signal) :=
  f.signals ++ f.closing.toList.map fun time => (time, .shutdown)

def Ordered (f : Feed) : Prop := f.received.Pairwise fun a b => a.1 ≤ b.1

/-- Nothing comes up to a time and at that time, and the channel stays open. -/
def Quiet (f : Feed) (stop : Nat) : Prop := ∀ e ∈ f.received, stop < e.1

instance (f : Feed) (stop : Nat) : Decidable (f.Quiet stop) :=
  inferInstanceAs (Decidable (∀ e ∈ f.received, stop < e.1))

/-- When the window that a signal opens lapses: it is a reset, no shutdown comes before it, and
nothing comes after it until then. -/
def lapse? (f : Feed) (window i : Nat) : Option Nat :=
  match f.signals[i]? with
  | some (start, .reset) =>
    if (∀ e ∈ f.signals.take i, e.2 ≠ .shutdown) ∧
        Quiet ⟨f.signals.drop (i + 1), f.closing⟩ (start + window) then
      some (start + window)
    else none
  | _ => none

def lapses (f : Feed) (window : Nat) : List Nat :=
  (List.range f.signals.length).filterMap (f.lapse? window)

variable (e : Nat × Signal) (rest : List (Nat × Signal)) (closing : Option Nat) (window : Nat)

variable {e rest closing} in
theorem quiet_cons (ordered : Ordered ⟨e :: rest, closing⟩) :
    Quiet ⟨e :: rest, closing⟩ stop ↔ stop < e.1 := by
  rw [Ordered, received, List.cons_append, List.pairwise_cons] at ordered
  rw [Quiet, received, List.cons_append, List.forall_mem_cons]
  exact and_iff_left_of_imp fun first e he => first.trans_le (ordered.1 e he)

theorem lapse?_zero :
    lapse? ⟨e :: rest, closing⟩ window 0 =
      (deadlineAfter window e.1 e.2).filter fun stop => Quiet ⟨rest, closing⟩ stop := by
  rcases e with ⟨now, _ | _ | _⟩ <;> simp [lapse?, deadlineAfter, Option.filter]

theorem lapse?_succ (i : Nat) :
    lapse? ⟨e :: rest, closing⟩ window (i + 1) =
      if e.2 = .shutdown then none else lapse? ⟨rest, closing⟩ window i := by
  by_cases shut : e.2 = .shutdown
  · rw [if_pos shut, lapse?]
    split
    · exact if_neg fun h => h.1 e (by simp) shut
    · rfl
  · have others : (∀ a ∈ (e :: rest).take (i + 1), a.2 ≠ .shutdown) ↔
        ∀ a ∈ rest.take i, a.2 ≠ .shutdown := by simp [shut]
    rw [if_neg shut]
    simp only [lapse?, List.getElem?_cons_succ, List.drop_succ_cons, others]

theorem lapses_cons :
    lapses ⟨e :: rest, closing⟩ window =
      ((deadlineAfter window e.1 e.2).filter fun stop => Quiet ⟨rest, closing⟩ stop).toList ++
        if e.2 = .shutdown then [] else lapses ⟨rest, closing⟩ window := by
  simp only [lapses, List.filterMap_eq_flatMap_toList, List.length_cons, List.range_succ_eq_map,
    List.flatMap_cons, List.flatMap_map, lapse?_zero, lapse?_succ]
  split <;> simp

end Feed

theorem expiries_feed (window : Nat) (deadline : Option Nat) {f : Feed} (ordered : f.Ordered) :
    expiries window deadline f.received =
      (deadline.filter fun stop => f.Quiet stop).toList ++ f.lapses window := by
  rcases f with ⟨signals, closing⟩
  induction signals generalizing deadline with
  | nil =>
    rcases closing with _ | time <;> rcases deadline with _ | stop
    · rfl
    · rfl
    · rfl
    · by_cases first : stop < time <;>
        simp [Feed.received, Feed.lapses, Feed.Quiet, expiries, hasEnded, Option.filter, first]
  | cons e rest ih =>
    -- No time comes before that of the first signal, so this alone decides on the open window.
    have before : (if hasEnded deadline e.1 then deadline.toList else []) =
        (deadline.filter fun stop => Feed.Quiet ⟨e :: rest, closing⟩ stop).toList := by
      rcases deadline with _ | stop
      · rfl
      · simp only [Option.filter, Feed.quiet_cons ordered, hasEnded]
        split <;> simp_all
    have later := ih (deadlineAfter window e.1 e.2) ordered.tail
    rw [Feed.lapses_cons, ← before]
    rcases e with ⟨now, _ | _ | _⟩
    · exact congrArg _ later
    · exact congrArg _ later
    · rfl

theorem expiries_of_ended (window : Nat) {signals : List (Nat × Signal)}
    (ended : ∀ e ∈ signals, stop < e.1) :
    expiries window (some stop) signals = stop :: expiries window none signals := by
  rcases signals with _ | ⟨⟨now, signal⟩, rest⟩
  · rfl
  · have first : stop < now := ended _ (List.mem_cons_self ..)
    simp only [expiries, hasEnded, first, decide_true, if_true]
    rfl

end Debounce

-- ---------------------------------------------------------------------------
-- Calls at their times
-- ---------------------------------------------------------------------------

inductive ReloadCall where
  | load (name : String) (loaded : Loaded)
  | remove (name : String)
  | flush
  | wait

namespace ReloadCall

/-- A window that has ended by the time of a call has done so before it. -/
def events (now : Nat) : ReloadCall → List CoordinatorEvent
  | .load name l => [.elapse now, .load now name l]
  | .remove name => [.elapse now, .remove name]
  | .flush => [.elapse now, .flush now]
  | .wait => [.elapse now]

def signal? : ReloadCall → Option Debounce.Signal
  | .load .. => some .reset
  | .flush => some .cancel
  | .remove _ | .wait => none

end ReloadCall

abbrev Timeline := List (Nat × ReloadCall)

namespace Timeline

def Ordered (timeline : Timeline) : Prop := timeline.Pairwise fun a b => a.1 ≤ b.1

def events (timeline : Timeline) : List CoordinatorEvent :=
  timeline.flatMap fun e => e.2.events e.1

def signals (timeline : Timeline) : List (Nat × Debounce.Signal) :=
  timeline.filterMap fun e => e.2.signal?.map fun signal => (e.1, signal)

theorem le_signals {timeline : Timeline} (later : ∀ e ∈ timeline, now ≤ e.1) :
    ∀ e ∈ timeline.signals, now ≤ e.1 := by
  intro e he
  obtain ⟨d, hd, told⟩ := List.mem_filterMap.mp he
  obtain ⟨signal, -, rfl⟩ := Option.map_eq_some_iff.mp told
  exact later d hd

end Timeline

namespace Coordinator

variable {host : TargetHost σ} {x : σ × Coordinator}

/-- While there are old instances, a window is open. -/
def Armed (c : Coordinator) : Prop := c.generations.superseded ≠ [] → c.deadline ≠ none

theorem armed_step (armed : x.2.Armed) (e : CoordinatorEvent) : (step host x e).2.Armed := by
  cases e with
  | load now name l => exact fun _ => Option.some_ne_none _
  | remove name =>
    intro old
    refine armed fun absent => old ?_
    simp only [step, remove, Generations.remove]
    split
    · exact absent
    · split <;> simp [absent, Generation.erase]
  | flush now => exact fun old => absurd rfl old
  | elapse now =>
    simp only [step, elapse]
    split
    · exact fun old => absurd rfl old
    · exact armed

theorem armed_run (armed : x.2.Armed) (events : List CoordinatorEvent) :
    (run host x events).2.Armed := by
  induction events generalizing x with
  | nil => exact armed
  | cons e rest ih => exact ih (armed_step armed e)

theorem deadline_elapse (host : TargetHost σ) (x : σ × Coordinator) (now : Nat) :
    (step host x (.elapse now)).2.deadline =
      if Debounce.hasEnded x.2.deadline now then none else x.2.deadline := by
  simp only [step, elapse]
  split <;> rfl

theorem window_elapse (host : TargetHost σ) (x : σ × Coordinator) (now : Nat) :
    (step host x (.elapse now)).2.window = x.2.window := by
  simp only [step, elapse]
  split <;> rfl

theorem le_deadline {now : Nat} {c : ReloadCall}
    (opened : (run host x (c.events now)).2.deadline = some stop) : now ≤ stop := by
  have before (same : (step host x (.elapse now)).2.deadline = some stop) : now ≤ stop := by
    rw [deadline_elapse] at same
    split at same
    · cases same
    · rename_i unended
      simpa [Debounce.hasEnded, same] using unended
  cases c with
  | load => exact (Nat.le_add_right ..).trans_eq (Option.some_inj.mp opened)
  | remove => exact before opened
  | flush => cases opened
  | wait => exact before opened

theorem le_deadline_run {timeline : Timeline} (ordered : timeline.Ordered)
    (opened : (run host x timeline.events).2.deadline = some stop) :
    ∀ e ∈ timeline, e.1 ≤ stop := by
  rcases timeline.eq_nil_or_concat with rfl | ⟨before, last, rfl⟩
  · simp
  · rw [List.concat_eq_append] at *
    rw [Timeline.events, List.flatMap_append, run_append, List.flatMap_singleton] at opened
    have due : last.1 ≤ stop := le_deadline opened
    rw [Timeline.Ordered, List.pairwise_append] at ordered
    intro e he
    rcases List.mem_append.mp he with he | he
    · exact (ordered.2.2 e he last (List.mem_singleton_self _)).trans due
    · rwa [List.mem_singleton.mp he]

theorem expiries_elapse (host : TargetHost σ) (x : σ × Coordinator) {now : Nat}
    {signals : List (Nat × Debounce.Signal)} (later : ∀ e ∈ signals, now ≤ e.1) :
    ∃ lapsed, Debounce.expiries x.2.window x.2.deadline signals =
      lapsed ++
        Debounce.expiries x.2.window (step host x (.elapse now)).2.deadline signals := by
  rw [deadline_elapse]
  rcases opened : x.2.deadline with _ | stop
  · exact ⟨[], rfl⟩
  · by_cases ended : stop < now
    · refine ⟨[stop], ?_⟩
      simp only [Debounce.hasEnded, ended, decide_true, if_true]
      exact Debounce.expiries_of_ended _ fun e he => ended.trans_le (later e he)
    · exact ⟨[], by simp [Debounce.hasEnded, ended]⟩

theorem expiries_call (host : TargetHost σ) (x : σ × Coordinator) {now : Nat} (c : ReloadCall)
    {rest : Timeline} (later : ∀ e ∈ rest, now ≤ e.1) :
    let y := run host x (c.events now)
    ∃ lapsed, Debounce.expiries x.2.window x.2.deadline (Timeline.signals ((now, c) :: rest)) =
      lapsed ++ Debounce.expiries y.2.window y.2.deadline rest.signals := by
  intro y
  have kept : y.2.window = x.2.window := by
    cases c <;> exact window_elapse host x now
  have quiet := expiries_elapse host x (Timeline.le_signals later)
  rw [kept]
  cases c with
  | load name l =>
    have opened : y.2.deadline = some (now + x.2.window) := kept ▸ rfl
    rw [opened]
    exact ⟨_, rfl⟩
  | flush => exact ⟨_, rfl⟩
  | remove => exact quiet
  | wait => exact quiet

/-- A coordinator whose users call it runs on a timer that is told of their calls: the windows of
this timer have lapsed by now, but for the one that is open. -/
theorem expiries_run (host : TargetHost σ) (x : σ × Coordinator) {timeline : Timeline}
    (ordered : timeline.Ordered) :
    ∃ lapsed, Debounce.expiries x.2.window x.2.deadline timeline.signals =
      lapsed ++ (run host x timeline.events).2.deadline.toList := by
  induction timeline generalizing x with
  | nil => exact ⟨[], rfl⟩
  | cons e rest ih =>
    obtain ⟨first, later⟩ := List.pairwise_cons.mp ordered
    obtain ⟨lapsed, before⟩ := expiries_call host x e.2 first
    obtain ⟨lapsed', after⟩ := ih (run host x (e.2.events e.1)) later
    have rejoined : run host x (Timeline.events (e :: rest)) =
        run host (run host x (e.2.events e.1)) (Timeline.events rest) := run_append ..
    exact ⟨lapsed ++ lapsed', by rw [before, after, rejoined, List.append_assoc]⟩

end Coordinator

/-- A timer expires once for each reset that comes before any shutdown and is followed by nothing
until the end of its window, at that end, and it does not expire else. The users of a coordinator,
on any host, call it in the order of times: while it has old instances, the window of its timer is
open, and these are withdrawn when it has ended. -/
theorem reload_windows (window : Nat) :
    (∀ f : Debounce.Feed, f.Ordered →
      Debounce.expiries window none f.received = f.lapses window) ∧
    ∀ {σ : Type} (host : TargetHost σ) (s : σ) (timeline : Timeline), timeline.Ordered →
      let x := Coordinator.run host (s, .create window) timeline.events
      x.2.generations.superseded ≠ [] → ∃ stop,
        x.2.deadline = some stop ∧ (∀ e ∈ timeline, e.1 ≤ stop) ∧
        (Debounce.expiries window none timeline.signals).getLast? = some stop ∧
        ∀ now, stop < now →
          x.2.withdraws (.elapse now) = x.2.generations.superseded.map (fun e => e.2.id) ∧
          (Coordinator.step host x (.elapse now)).2.generations.superseded = [] := by
  refine ⟨fun f ordered => Debounce.expiries_feed window none ordered, ?_⟩
  intro σ host s timeline ordered x old
  have armed : x.2.Armed := Coordinator.armed_run (fun h => absurd rfl h) timeline.events
  obtain ⟨stop, opened⟩ := Option.ne_none_iff_exists'.mp (armed old)
  obtain ⟨lapsed, fed⟩ := Coordinator.expiries_run host (s, .create window) ordered
  refine ⟨stop, opened, Coordinator.le_deadline_run ordered opened, ?_, fun now due => ?_⟩
  · exact (congrArg List.getLast? fed).trans (by simp [x, opened])
  · have ended : Debounce.hasEnded x.2.deadline now = true := by simp [opened, Debounce.hasEnded, due]
    simp [Coordinator.withdraws, Coordinator.step, Coordinator.elapse, ended, Generations.expire]

/-- The second reset lapses. The first is followed by it too early, the third by a cancel that comes
exactly at the end of its window. -/
theorem second_reset_lapses :
    let f : Debounce.Feed := ⟨[(0, .reset), (3, .reset), (20, .reset), (25, .cancel)], some 40⟩
    let host : TargetHost Unit :=
      ⟨fun s _ _ => (s, .ok ()), fun s _ _ _ => (s, .ok ()), fun s _ => (s, .ok ())⟩
    let timeline : Timeline :=
      [(0, .load "a" ⟨11, 1⟩), (1, .load "b" ⟨12, 2⟩), (2, .load "a" ⟨13, 3⟩)]
    let x := Coordinator.run host ((), .create 5) timeline.events
    Debounce.expiries 5 none f.received = [8] ∧
      x.2.generations.superseded = [("b", ⟨12, 2⟩)] ∧ x.2.deadline = some 7 := by
  intro f host timeline x
  obtain ⟨timer, armed⟩ := reload_windows 5
  obtain ⟨stop, opened, -, last, -⟩ := armed host () timeline
    (by simp [timeline, Timeline.Ordered]) (by decide +kernel)
  have lapses : f.lapses 5 = [8] := by decide
  have latest : (Debounce.expiries 5 none timeline.signals).getLast? = some 7 := by decide
  have expired := timer f (by simp [f, Debounce.Feed.Ordered, Debounce.Feed.received])
  rw [last, Option.some_inj] at latest
  subst latest
  exact ⟨expired.trans lapses, by decide +kernel, by simp only [x, opened]⟩

end DebugAdapter
