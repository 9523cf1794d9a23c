import DebugAdapter.Proofs.Session.Settlement
import Mathlib.Data.List.DropRight

/-!
# Whose watches an answer shows

A debuggee tells the watches of one frame only, and reports which. A session
remembers the frame reported last, and for each scope the one that was reported
last when the scope was. An inquiry that was parked is answered by the first,
one that is answered at once by the second: `watches_answer` says when they are
the same.
-/

namespace DebugAdapter

def Event.frame? : Event → Option Nat
  | .notification (.watchesUpdated _ frame) => frame
  | _ => none

def Event.reports (scope : FrameScope) : Event → Bool
  | .notification (.watchesUpdated kind _) => kind = scope.watchKind
  | _ => false

def lastFrame (moments : List Moment) : Option Nat :=
  (moments.filterMap (·.event.frame?)).getLast?

/-- What comes before a scope is reported for the last time, and that report. -/
def untilReport (scope : FrameScope) (moments : List Moment) : List Moment :=
  moments.rdropWhile fun m => !m.event.reports scope

def sinceReport (scope : FrameScope) (moments : List Moment) : List Moment :=
  moments.rtakeWhile fun m => !m.event.reports scope

/-- What a state says of frames is true of the reports so far. -/
structure SessionState.Informed (st : SessionState) (moments : List Moment) : Prop where
  current : st.currentFrame = lastFrame moments
  view : ∀ scope, (st.view scope).frame = lastFrame (untilReport scope moments)

def Debuggee.telling (d : Debuggee) (watches : WatchKind → List Watch) : Debuggee :=
  { d with watches }

/-- The answer to an inquiry shows the watches, whichever the debuggee tells. -/
def Session.ShowsWatches (s : Session) (m : Moment) (q : Inquiry) : Prop :=
  ∀ watches, .respond q.reply (Json.object
      (s.state.watchRows (m.debuggee.telling watches) q.scope q.frame).1) ∈
    (s.step ⟨m.debuggee.telling watches, m.event⟩).queued

-- ---------------------------------------------------------------------------
-- Reports
-- ---------------------------------------------------------------------------

theorem lastFrame_append (a b : List Moment) :
    lastFrame (a ++ b) = (lastFrame b).or (lastFrame a) := by
  simp [lastFrame, List.filterMap_append, List.getLast?_append]

theorem lastFrame_concat (moments : List Moment) (m : Moment) :
    lastFrame (moments ++ [m]) = m.event.frame?.or (lastFrame moments) := by
  rw [lastFrame_append]
  cases frame : m.event.frame? <;> simp [lastFrame, frame]

theorem untilReport_concat (scope : FrameScope) (moments : List Moment) (m : Moment) :
    untilReport scope (moments ++ [m]) =
      if m.event.reports scope then moments ++ [m] else untilReport scope moments := by
  unfold untilReport
  rw [List.rdropWhile_concat]
  cases m.event.reports scope <;> rfl

theorem lastFrame_since (scope : FrameScope) (moments : List Moment) :
    lastFrame moments = (lastFrame (sinceReport scope moments)).or
      (lastFrame (untilReport scope moments)) := by
  rw [← lastFrame_append, untilReport, sinceReport, List.rdropWhile_append_rtakeWhile]

theorem lastFrame_eq_iff {scope : FrameScope}
    (seen : lastFrame (untilReport scope moments) = some frame) :
    lastFrame moments = some frame ↔
      ∀ other, lastFrame (sinceReport scope moments) = some other → other = frame := by
  rw [lastFrame_since scope, seen]
  cases lastFrame (sinceReport scope moments) <;> simp

theorem Event.silent {e : Event}
    (h : ∀ kind frame, e ≠ .notification (.watchesUpdated kind frame)) :
    e.frame? = none ∧ ∀ scope, e.reports scope = false := by
  cases e with
  | notification n =>
    cases n with
    | watchesUpdated kind frame => exact absurd rfl (h kind frame)
    | _ => exact ⟨rfl, fun _ => rfl⟩
  | _ => exact ⟨rfl, fun _ => rfl⟩

namespace Session

theorem event_of_inquiry {s : Session} (h : s.inquiry? m = some q) (kind : WatchKind)
    (frame : Option Nat) : m.event ≠ .notification (.watchesUpdated kind frame) := by
  obtain ⟨-, directory, r, event, -⟩ := inquiry?_eq_some.mp h
  simp [event]

theorem frames_step {s : Session} (alive : s.terminated = false) (attached : s.target.isSome)
    (m : Moment) :
    (s.step m).session.state.currentFrame = m.event.frame?.or s.state.currentFrame ∧
      ∀ scope, ((s.step m).session.state.view scope).frame =
        if m.event.reports scope then (s.step m).session.state.currentFrame
        else (s.state.view scope).frame := by
  obtain ⟨q, parks, step⟩ | ⟨-, ⟨own, frame, hears, step⟩ | ⟨frame, hears, step⟩ |
    ⟨deaf, same, -⟩⟩ := s.step_frames m
  · obtain ⟨silent, quiet⟩ := Event.silent (event_of_inquiry (parked?_eq_some.mp parks).1)
    simp [step, Session.parks, silent, quiet]
  · rw [step]
    have current : (s.refreshes m.debuggee own frame).session.state.currentFrame =
      (frame <|> s.state.currentFrame) := SessionState.currentFrame_refreshScope ..
    refine ⟨?_, fun scope => ?_⟩
    · rw [current, hears.1]
      cases frame <;> rfl
    · rw [current, hears.1]
      refine (SessionState.view_frame_refreshScope ..).trans ?_
      cases own <;> cases scope <;> rfl
  · rw [step]
    have same := SessionState.refreshStack_sameFrames
      { s.state with currentFrame := frame <|> s.state.currentFrame } m.debuggee
    refine ⟨?_, fun scope => ?_⟩
    · rw [same.current, hears.1]
      cases frame <;> rfl
    · rw [same.view, hears.1]
      cases scope <;> rfl
  · obtain ⟨silent, quiet⟩ := Event.silent fun kind frame event =>
      deaf kind frame ⟨event, alive, attached⟩
    simp [silent, quiet, same.current, same.view]

theorem informed_run {start : Session} (attached : start.target.isSome)
    (fresh : start.state.Informed []) (moments : List Moment)
    (alive : (start.run moments).session.terminated = false) :
    (start.run moments).session.state.Informed moments := by
  induction moments using List.reverseRecOn with
  | nil => exact fresh
  | append_singleton moments m ih =>
    rw [run_concat_session] at alive ⊢
    have before := alive_of_step alive
    have known := ih before
    obtain ⟨current, view⟩ := frames_step before (by rwa [run_target]) m
    have now : ((start.run moments).session.step m).session.state.currentFrame =
        lastFrame (moments ++ [m]) := by
      rw [current, known.current, lastFrame_concat]
    refine ⟨now, fun scope => ?_⟩
    rw [view, untilReport_concat, now]
    split
    · rfl
    · exact known.view scope

-- ---------------------------------------------------------------------------
-- Answers
-- ---------------------------------------------------------------------------

theorem current_of_late {s : Session} (waits : s.state.Awaits q)
    (notified : m.event = .notification n)
    (answers : .respond q.reply body ∈ (s.step m).queued) :
    s.terminated = false ∧ s.target.isSome ∧
      (s.step m).session.state.currentFrame = some q.frame := by
  obtain ⟨p, parks, -⟩ | ⟨-, ⟨scope, frame, hears, step⟩ | ⟨frame, -, step⟩ | ⟨-, same, -⟩⟩ :=
    s.step_frames m
  · obtain ⟨-, directory, r, event, -⟩ := inquiry?_eq_some.mp (parked?_eq_some.mp parks).1
    cases notified.symm.trans event
  · refine ⟨hears.2.1, hears.2.2, ?_⟩
    rw [step] at answers ⊢
    refine (SessionState.currentFrame_refreshScope ..).trans ?_
    by_contra apart
    have quiet : (s.refreshes m.debuggee scope frame).queued = [] :=
      (SessionState.refreshScope_apart _ _ _ fun f known waited =>
        apart (known.trans (waited.symm.trans waits.frame))).1
    rw [quiet] at answers
    cases answers
  · rw [step] at answers
    cases answers
  · -- nothing is asked and what waits stays, so nothing is answered
    have balance := s.step_accounts m
    have none : m.event.asked = 0 := by rw [notified]; rfl
    rw [SessionState.parked_congr same.pending, none, add_zero] at balance
    have member : q.reply ∈ answered (s.step m).queued :=
      Multiset.mem_coe.mpr (List.mem_filterMap.mpr ⟨_, answers, rfl⟩)
    rw [add_eq_right.mp balance] at member
    cases member

theorem rows_ne_nil (st : SessionState) (d : Debuggee) (scope : FrameScope) (frame : Nat)
    (w : Watch) : Json.object (st.watchRows (d.telling fun _ => [w]) scope frame).1 ≠
      Json.object (SessionState.variablesMember []) := by
  intro same
  injection same with members
  injection members with first
  injection first with name rows
  cases rows

theorem showsWatches_iff {s : Session} (asked : s.inquiry? m = some q) :
    s.ShowsWatches m q ↔ (s.state.view q.scope).frame = some q.frame := by
  have same (watches : WatchKind → List Watch) :
      s.inquiry? ⟨m.debuggee.telling watches, m.event⟩ = some q := asked
  constructor
  · intro shows
    -- one watch is enough to tell the answer from an empty one
    have shown := shows fun _ => [⟨"", none⟩]
    obtain ⟨here, -⟩ | ⟨away, -, step⟩ | ⟨away, -, step⟩ :=
      inquiry_cases (same fun _ => [⟨"", none⟩])
    · exact here
    · rw [step] at shown
      have rows := List.mem_singleton.mp shown
      injection rows with _ _ _ body
      exact (rows_ne_nil _ _ _ _ _ (Option.some.inj body)).elim
    · rw [step] at shown
      have answers := List.any_eq_false.mp (answers_parks s q q.reply) _ shown
      simp [Outgoing.respond, Outgoing.answers] at answers
  · intro here watches
    obtain ⟨-, step⟩ | ⟨away, -⟩ | ⟨away, -⟩ := inquiry_cases (same watches)
    · rw [step]
      exact List.mem_singleton_self _
    · exact absurd here away
    · exact absurd here away

theorem informed_fresh : SessionState.fresh.Informed [] where
  current := rfl
  view scope := by cases scope <;> rfl

variable (id : SessionId) (port : Nat) (target : Target) (defaultLevels : Nat)

/-- An inquiry that has waited is answered while its frame is the one reported
last. One that is answered by the watches at once is about the frame reported
last when its scope was. That is the frame reported last exactly if no other
has been reported since. -/
theorem watches_answer (before : List Moment) (m : Moment) :
    let start := fresh id port (some target) defaultLevels
    let s := (start.run before).session
    (∀ q n body, m.event = .notification n → start.Keeps before q →
      .respond q.reply body ∈ (s.step m).queued →
        lastFrame (before ++ [m]) = some q.frame) ∧
    ∀ q, s.inquiry? m = some q →
      (s.ShowsWatches m q ↔ lastFrame (untilReport q.scope before) = some q.frame) ∧
      (s.ShowsWatches m q → (lastFrame (before ++ [m]) = some q.frame ↔
        ∀ other, lastFrame (sinceReport q.scope before) = some other → other = q.frame)) := by
  intro start s
  have attached : start.target.isSome := rfl
  refine ⟨fun q n body notified keeps answers => ?_, fun q asked => ?_⟩
  · have waits : s.state.Awaits q := (keeps_iff SessionState.coherent_fresh).mp keeps
    obtain ⟨alive, listens, current⟩ := current_of_late waits notified answers
    have informed : s.state.Informed before := informed_run attached informed_fresh before alive
    rw [lastFrame_concat, ← informed.current, ← (frames_step alive listens m).1, current]
  · obtain ⟨alive, -, -⟩ := phase_attached.mp (inquiry?_eq_some.mp asked).1
    have informed : s.state.Informed before := informed_run attached informed_fresh before alive
    have shows : s.ShowsWatches m q ↔ lastFrame (untilReport q.scope before) = some q.frame := by
      rw [showsWatches_iff asked, informed.view]
    refine ⟨shows, fun shown => ?_⟩
    obtain ⟨silent, -⟩ := Event.silent (event_of_inquiry asked)
    rw [lastFrame_concat, silent]
    exact lastFrame_eq_iff (shows.mp shown)

/-- Locals of the materialized frame are answered at once. -/
theorem reported_frame_answers :
    let idle := Debuggee.holding (.tuple []) [⟨none, none, 0, 0, 0⟩, ⟨none, none, 0, 0, 0⟩]
    let q : Inquiry := ⟨.locals, 1, ⟨2, "variables"⟩⟩
    let before : List Moment := [⟨idle, .request [] (.withHandle 1 "initialize" 0)⟩,
      ⟨idle, .notification (.watchesUpdated .locals (some 1))⟩]
    let m : Moment := ⟨idle, .request [] q.request⟩
    ((fresh 1 4711 (some ⟨0, 7, "main"⟩) 20).run before).session.ShowsWatches m q ∧
      lastFrame (before ++ [m]) = some 1 := by
  intro idle q before m
  have asked : ((fresh 1 4711 (some ⟨0, 7, "main"⟩) 20).run before).session.inquiry? m =
    some q := by decide +kernel
  obtain ⟨shows, same⟩ := (watches_answer 1 4711 ⟨0, 7, "main"⟩ 20 before m).2 q asked
  have shown := shows.mpr (by decide +kernel)
  refine ⟨shown, (same shown).mpr fun other reported => ?_⟩
  have none : lastFrame (sinceReport q.scope before) = none := by decide +kernel
  cases none.symm.trans reported

/-- The top frame is materialized when the stack is reported, but the request for
locals of the frame above is answered by the watches at once. -/
theorem top_frame_shown_as_caller :
    let idle := Debuggee.holding (.tuple []) [⟨none, none, 0, 0, 0⟩, ⟨none, none, 0, 0, 0⟩]
    let q : Inquiry := ⟨.locals, 1, ⟨2, "variables"⟩⟩
    let before : List Moment := [⟨idle, .request [] (.withHandle 1 "initialize" 0)⟩,
      ⟨idle, .notification (.watchesUpdated .locals (some 1))⟩,
      ⟨idle, .notification (.watchesUpdated .callStack (some 0))⟩]
    let m : Moment := ⟨idle, .request [] q.request⟩
    let s := ((fresh 1 4711 (some ⟨0, 7, "main"⟩) 20).run before).session
    s.inquiry? m = some q ∧ s.ShowsWatches m q ∧ lastFrame (before ++ [m]) = some 0 := by
  intro idle q before m
  have asked : ((fresh 1 4711 (some ⟨0, 7, "main"⟩) 20).run before).session.inquiry? m =
    some q := by decide +kernel
  refine ⟨asked, (showsWatches_iff asked).mpr ?_, ?_⟩ <;> decide +kernel

end Session

end DebugAdapter
