import DebugAdapter.Proofs.Session.Coherence
import DebugAdapter.Proofs.Session.Conservation
import DebugAdapter.Proofs.Session.Introduction

/-!
# How a parked inquiry ends

A parked inquiry is answered by the first report of its scope that comes while
its frame is the current one, unless it is cancelled before, by an inquiry that
is parked for the same scope or for another frame. `parked_inquiry_ends`: for
each run it is whichever comes first, and until then the inquiry waits.
-/

namespace DebugAdapter

structure SessionState.Awaits (st : SessionState) (q : Inquiry) : Prop where
  pending : st.pending q.scope = some q.reply
  frame : st.pendingFrame = some q.frame

namespace Session

/-- An inquiry that has been parked in a run waits at its end. -/
structure Keeps (start : Session) (moments : List Moment) (q : Inquiry) : Prop where
  pending : (start.run moments).session.state.pending q.scope = some q.reply
  last : lastAbout q.scope (start.parkings moments) = some q

/-- The scope of an inquiry is reported, and its frame is the one reported last. -/
def Delivers (s : Session) (q : Inquiry) (m : Moment) : Prop :=
  (∃ reported, s.Hears m (.watchesUpdated q.scope.watchKind reported)) ∧
    (s.step m).session.state.currentFrame = some q.frame

/-- An inquiry is parked that is about the same scope or about another frame. -/
def Supersedes (s : Session) (q : Inquiry) (m : Moment) : Prop :=
  ∃ p, s.parked? m = some p ∧ (p.scope = q.scope ∨ p.frame ≠ q.frame)

def Undisturbed (s : Session) (q : Inquiry) : List Moment → Prop
  | [] => True
  | m :: rest => ¬(s.Delivers q m ∨ s.Supersedes q m) ∧ (s.step m).session.Undisturbed q rest

/-- The session in which nothing had been parked for a scope. -/
def without (s : Session) (scope : FrameScope) : Session :=
  { s with state := s.state.setPending scope none }

end Session

-- ---------------------------------------------------------------------------
-- Waiting
-- ---------------------------------------------------------------------------

namespace SessionState

variable {st after : SessionState}

theorem values_refreshScope (st : SessionState) (d : Debuggee) {scope : FrameScope}
    (idle : st.pending scope = none) : (st.refreshScope d scope).1.values = st.values := by
  unfold refreshScope
  dsimp only
  split
  · exact values_setView ..
  split
  · unfold resolve settle
    rw [pending_setView_frame, idle]
    dsimp only
    split <;> exact values_setView ..
  · exact values_setView ..

theorem Awaits.congr (h : st.Awaits q) (frame : after.pendingFrame = st.pendingFrame)
    (pending : ∀ scope, after.pending scope = st.pending scope) : after.Awaits q :=
  ⟨(pending q.scope).trans h.pending, frame.trans h.frame⟩

theorem Awaits.park (h : st.Awaits q) {p : Inquiry} (scope : p.scope ≠ q.scope)
    (frame : p.frame = q.frame) : (st.park p.reply p.scope p.frame).state.Awaits q := by
  have other : q.scope = p.scope.other := (q.scope.eq_or_eq_other p.scope).resolve_left scope.symm
  constructor
  · rw [other, pending_other_park, if_pos (by rw [frame, h.frame]), ← other]
    exact h.pending
  · rw [pendingFrame_park, frame]

theorem Awaits.refreshScope (h : st.Awaits q) (d : Debuggee) {scope : FrameScope}
    (apart : scope = q.scope → st.currentFrame ≠ some q.frame) :
    (st.refreshScope d scope).1.Awaits q := by
  by_cases current : st.currentFrame = some q.frame
  · have foreign : q.scope ≠ scope := fun own => apart own.symm current
    have other : q.scope = scope.other := (q.scope.eq_or_eq_other scope).resolve_left foreign
    obtain ⟨-, pending, left⟩ := refreshScope_awaited st d scope current h.frame
    constructor
    · rw [pending, if_neg foreign]
      exact h.pending
    · rw [left, ← other, h.pending]
      rfl
  · obtain ⟨-, frame, pending⟩ := refreshScope_apart st d scope
      fun f known waited => current (known.trans (waited.symm.trans h.frame))
    exact h.congr frame pending

end SessionState

namespace Session

theorem awaits_step {s : Session} (h : s.state.Awaits q)
    (calm : ¬(s.Delivers q m ∨ s.Supersedes q m)) : (s.step m).session.state.Awaits q := by
  obtain ⟨undelivered, unsuperseded⟩ := not_or.mp calm
  obtain ⟨p, parks, step⟩ | ⟨-, ⟨scope, frame, hears, step⟩ | ⟨frame, -, step⟩ | ⟨-, same, -⟩⟩ :=
    s.step_frames m
  · -- what is parked is about the other scope and the same frame
    rw [step]
    apply h.park
    · intro own
      exact unsuperseded ⟨p, parks, .inl own⟩
    · by_contra apart
      exact unsuperseded ⟨p, parks, .inr apart⟩
  · have reported : SessionState.Awaits { s.state with
        currentFrame := frame <|> s.state.currentFrame } q := h.congr rfl fun _ => rfl
    rw [step]
    apply reported.refreshScope
    rintro rfl current
    refine undelivered ⟨⟨frame, hears⟩, ?_⟩
    rw [step]
    exact (SessionState.currentFrame_refreshScope ..).trans current
  · rw [step]
    have same := SessionState.refreshStack_sameFrames
      { s.state with currentFrame := frame <|> s.state.currentFrame } m.debuggee
    exact h.congr same.pendingFrame same.pending
  · exact h.congr same.pendingFrame same.pending

theorem awaits_run {s : Session} (h : s.state.Awaits q) (calm : s.Undisturbed q moments) :
    (s.run moments).session.state.Awaits q := by
  induction moments generalizing s with
  | nil => exact h
  | cons m moments ih => exact ih (awaits_step h calm.1) calm.2

/-- A run leaves an inquiry alone, or there is a first event that does not. -/
theorem undisturbed_or_first (s : Session) (q : Inquiry) (moments : List Moment) :
    s.Undisturbed q moments ∨ ∃ before m after, moments = before ++ m :: after ∧
      s.Undisturbed q before ∧
        ((s.run before).session.Delivers q m ∨ (s.run before).session.Supersedes q m) := by
  induction moments generalizing s with
  | nil => exact .inl trivial
  | cons m moments ih =>
    by_cases decided : s.Delivers q m ∨ s.Supersedes q m
    · exact .inr ⟨[], m, moments, rfl, trivial, decided⟩
    · obtain calm | ⟨before, last, after, rfl, calm, ends⟩ := ih (s.step m).session
      · exact .inl ⟨decided, calm⟩
      · exact .inr ⟨m :: before, last, after, rfl, ⟨decided, calm⟩, ends⟩

theorem keeps_iff {start : Session} (fresh : start.state.Coherent [] []) :
    start.Keeps moments q ↔ (start.run moments).session.state.Awaits q := by
  have coherent := coherent_run fresh moments
  constructor
  · rintro ⟨pending, last⟩
    obtain ⟨frame, waited, parked⟩ := coherent.about _ _ pending
    rw [List.nil_append, last] at parked
    obtain rfl : q.frame = frame := congrArg Inquiry.frame (Option.some.inj parked)
    exact ⟨pending, waited⟩
  · rintro ⟨pending, waited⟩
    obtain ⟨frame, others, parked⟩ := coherent.about _ _ pending
    obtain rfl : q.frame = frame := Option.some.inj (waited.symm.trans others)
    exact ⟨pending, parked⟩

theorem keeps_of_parked {start : Session} (fresh : start.state.Coherent [] [])
    (parks : (start.run before).session.parked? m = some q) : start.Keeps (before ++ [m]) q := by
  refine (keeps_iff fresh).mpr ?_
  rw [run_concat_session, step_parked parks]
  exact ⟨SessionState.pending_park .., SessionState.pendingFrame_park ..⟩

theorem others_account {s : Session} (before : s.state.Awaits q)
    (after : (s.run moments).session.state.Awaits q) :
    answered (s.run moments).queued +
        waiting ((s.run moments).session.state.pending q.scope.other) =
      waiting (s.state.pending q.scope.other) + requested moments := by
  have balance := s.run_accounts moments
  rw [SessionState.parked_eq _ q.scope, SessionState.parked_eq _ q.scope, before.pending,
    after.pending, add_left_comm, add_assoc] at balance
  exact add_left_cancel balance

-- ---------------------------------------------------------------------------
-- Ends
-- ---------------------------------------------------------------------------

theorem queued_at_once {s : Session} (q : Inquiry) (attached : s.phase = .attached)
    (here : (s.state.view q.scope).frame = some q.frame) (asks : r.inquiry? = some q) :
    (s.step ⟨d, .request directory r⟩).queued =
      [.respond q.reply (Json.object (s.state.watchRows d q.scope q.frame).1)] := by
  have asked : s.inquiry? ⟨d, .request directory r⟩ = some q :=
    inquiry?_eq_some.mpr ⟨attached, directory, r, rfl, asks⟩
  obtain ⟨-, step⟩ | ⟨away, -⟩ | ⟨away, -⟩ := inquiry_cases asked
  · rw [step]
  · exact absurd here away
  · exact absurd here away

theorem refreshes_awaited (s : Session) (d : Debuggee) (scope : FrameScope) {f : Nat}
    (current : (frame <|> s.state.currentFrame) = some f)
    (awaited : s.state.pendingFrame = some f) :
    (s.refreshes d scope frame).queued = ((s.state.pending scope).map fun reply =>
        Outgoing.respond reply (Json.object (s.state.watchRows d scope f).1)).toList ∧
      (s.refreshes d scope frame).session.state.pending scope = none ∧
      ((s.refreshes d scope frame).session.state.view scope).frame = some f := by
  obtain ⟨queued, pending, -⟩ := SessionState.refreshScope_awaited
    { s.state with currentFrame := frame <|> s.state.currentFrame } d scope current awaited
  refine ⟨queued, (pending scope).trans (if_pos rfl), ?_⟩
  exact (SessionState.view_frame_refreshScope ..).trans ((if_pos rfl).trans current)

theorem refreshes_values {s : Session} {scope : FrameScope} (d : Debuggee) (frame : Option Nat)
    (idle : s.state.pending scope = none) :
    (s.refreshes d scope frame).session.state.values = s.state.values :=
  SessionState.values_refreshScope
    { s.state with currentFrame := frame <|> s.state.currentFrame } d idle

/-- The answer that comes late is the one that a request gets at once if it comes
right after the report, and nothing had been parked. -/
theorem delivers_answers {s : Session} (waits : s.state.Awaits q)
    (introduced : s.state.initialized = true) (delivers : s.Delivers q m) :
    let body := Json.object (s.state.watchRows m.debuggee q.scope q.frame).1
    (s.step m).queued = [.respond q.reply body] ∧
      (s.step m).session.state.pending q.scope = none ∧
      ((s.without q.scope).step m).queued = [] ∧
      ∀ directory r, r.inquiry? = some ⟨q.scope, q.frame, r.replyTo⟩ →
        (((s.without q.scope).step m).session.step ⟨m.debuggee, .request directory r⟩).queued =
          [.respond r.replyTo body] := by
  intro body
  obtain ⟨⟨reported, hears⟩, current⟩ := delivers
  have step := step_refreshes hears
  have known : (reported <|> s.state.currentFrame) = some q.frame := by
    rw [step] at current
    exact (SessionState.currentFrame_refreshScope ..).symm.trans current
  obtain ⟨queued, pending, -⟩ := refreshes_awaited s m.debuggee q.scope known waits.frame
  -- the same report, heard by the session in which nothing waits for the scope
  have bare : (s.without q.scope).step m =
      (s.without q.scope).refreshes m.debuggee q.scope reported := step_refreshes hears
  have idle : (s.without q.scope).state.pending q.scope = none :=
    SessionState.pending_setPending ..
  have bareKnown : (reported <|> (s.without q.scope).state.currentFrame) = some q.frame := by
    simpa [without, SessionState.setPending] using known
  obtain ⟨quiet, -, here⟩ := refreshes_awaited (s.without q.scope) m.debuggee q.scope bareKnown
    ((SessionState.pendingFrame_setView ..).trans waits.frame)
  have values : ((s.without q.scope).step m).session.state.values = s.state.values := by
    rw [bare, refreshes_values _ _ idle]
    exact SessionState.values_setView ..
  have attached : ((s.without q.scope).step m).session.phase = .attached := by
    refine phase_attached.mpr ⟨?_, initialized_step ?_, ?_⟩
    · rw [bare]
      exact hears.2.1
    · exact (SessionState.inspects_setPending ..).initialized.trans introduced
    · rw [step_target]
      exact hears.2.2
  refine ⟨?_, ?_, ?_, fun directory r asks => ?_⟩
  · rw [step, queued, waits.pending]
    rfl
  · rw [step, pending]
  · rw [bare, quiet, idle]
    rfl
  · rw [← bare] at here
    rw [queued_at_once ⟨q.scope, q.frame, r.replyTo⟩ attached here asks]
    simp only [body, SessionState.watchRows, values]

theorem supersedes_cancels {s : Session} (waits : s.state.Awaits q)
    (parks : s.parked? m = some p) (apart : p.scope = q.scope ∨ p.frame ≠ q.frame) :
    .respondError q.reply 1200
        ("pending " ++ q.scope.kind.name ++ " (Variables) request cancelled") ∈
        (s.step m).queued ∧
      (s.step m).session.state.pending q.scope =
        if p.scope = q.scope then some p.reply else none := by
  rw [step_parked parks]
  by_cases own : p.scope = q.scope
  · rw [if_pos own, ← own]
    refine ⟨?_, SessionState.pending_park ..⟩
    simp only [Session.parks, SessionState.park, own, waits.pending]
    simp [SessionState.cancellation, ErrorId.requestCancelled]
  · have other : q.scope = p.scope.other :=
      (q.scope.eq_or_eq_other p.scope).resolve_left (Ne.symm own)
    have moved : ¬s.state.pendingFrame = some p.frame := by
      rw [waits.frame]
      simpa using (apart.resolve_left own).symm
    rw [if_neg own]
    constructor
    · simp only [Session.parks, SessionState.park, if_neg moved, ← other, waits.pending]
      simp [SessionState.cancellation, ErrorId.requestCancelled]
    · show (s.state.park p.reply p.scope p.frame).state.pending q.scope = none
      rw [other, SessionState.pending_other_park, if_neg moved]

variable (id : SessionId) (port : Nat) (target : Target) (defaultLevels : Nat)

/-- Whatever comes after an inquiry has been parked, either all of it leaves the
inquiry alone or there is a first event that does not. Up to then the inquiry
waits, and all responses are to other requests. A report then answers it, by
the watches, as a request would be answered that came right after the report;
an inquiry that takes its place cancels it. -/
theorem parked_inquiry_ends
    (keeps : (fresh id port (some target) defaultLevels).Keeps before q) (moments : List Moment) :
    let start := fresh id port (some target) defaultLevels
    let s := (start.run before).session
    let now := (s.run moments).session
    (s.Undisturbed q moments ∨ ∃ calm m after, moments = calm ++ m :: after ∧
      s.Undisturbed q calm ∧
        ((s.run calm).session.Delivers q m ∨ (s.run calm).session.Supersedes q m)) ∧
    (s.Undisturbed q moments →
      start.Keeps (before ++ moments) q ∧
      answered (s.run moments).queued + waiting (now.state.pending q.scope.other) =
        waiting (s.state.pending q.scope.other) + requested moments ∧
      (∀ m, now.Delivers q m →
        let body := Json.object (now.state.watchRows m.debuggee q.scope q.frame).1
        (now.step m).queued = [.respond q.reply body] ∧
          (now.step m).session.state.pending q.scope = none ∧
          ((now.without q.scope).step m).queued = [] ∧
          ∀ directory r, r.inquiry? = some ⟨q.scope, q.frame, r.replyTo⟩ →
            (((now.without q.scope).step m).session.step
              ⟨m.debuggee, .request directory r⟩).queued = [.respond r.replyTo body]) ∧
      ∀ m p, now.parked? m = some p → p.scope = q.scope ∨ p.frame ≠ q.frame →
        .respondError q.reply 1200
            ("pending " ++ q.scope.kind.name ++ " (Variables) request cancelled") ∈
            (now.step m).queued ∧
          (now.step m).session.state.pending q.scope =
            if p.scope = q.scope then some p.reply else none) := by
  intro start s now
  have origin : start.state.Coherent [] [] := SessionState.coherent_fresh
  have waits : s.state.Awaits q := (keeps_iff origin).mp keeps
  refine ⟨s.undisturbed_or_first q moments, fun calm => ?_⟩
  have later : now.state.Awaits q := awaits_run waits calm
  have joined : (start.run (before ++ moments)).session = now := run_append_session ..
  have introduced : now.state.initialized = true := by
    obtain introduced | ⟨-, idle⟩ := introduced_run
      (.inr (unintroduced_fresh id port (some target) defaultLevels)) (before ++ moments)
    · rwa [← joined]
    · have none := idle q.scope
      rw [joined, later.pending] at none
      cases none
  refine ⟨(keeps_iff origin).mpr ?_, others_account waits later, fun m delivers => ?_,
    fun m p parks apart => ?_⟩
  · rwa [joined]
  · exact delivers_answers later introduced delivers
  · exact supersedes_cancels later parks apart

/-- Locals of a frame wait while its closure is inquired about too. A report of
the frame answers them, an inquiry about locals of another frame cancels them. -/
theorem locals_answered_or_cancelled :
    let idle := Debuggee.holding (.tuple []) [⟨none, none, 0, 0, 0⟩, ⟨none, none, 0, 0, 0⟩]
    let first : Inquiry := ⟨.locals, 1, ⟨2, "variables"⟩⟩
    let second : Inquiry := ⟨.closure, 1, ⟨3, "variables"⟩⟩
    let third : Inquiry := ⟨.locals, 0, ⟨4, "variables"⟩⟩
    let before : List Moment := [⟨idle, .request [] (.withHandle 1 "initialize" 0)⟩,
      ⟨idle, .request [] first.request⟩]
    let now := (((fresh 1 4711 (some ⟨0, 7, "main"⟩) 20).run before).session.run
      [⟨idle, .request [] second.request⟩]).session
    (now.step ⟨idle, .notification (.watchesUpdated .locals (some 1))⟩).queued =
        [.respond first.reply (Json.object (now.state.watchRows idle .locals 1).1)] ∧
      .respondError first.reply 1200 ("pending " ++ FrameScope.locals.kind.name ++
          " (Variables) request cancelled") ∈
        (now.step ⟨idle, .request [] third.request⟩).queued := by
  intro idle first second third before
  have kept : ((fresh 1 4711 (some ⟨0, 7, "main"⟩) 20).run
      [⟨idle, .request [] (.withHandle 1 "initialize" 0)⟩]).session.parked?
        ⟨idle, .request [] first.request⟩ = some first := by decide +kernel
  have keeps : (fresh 1 4711 (some ⟨0, 7, "main"⟩) 20).Keeps before first :=
    keeps_of_parked SessionState.coherent_fresh kept
  obtain ⟨-, ends⟩ := parked_inquiry_ends 1 4711 ⟨0, 7, "main"⟩ 20 keeps
    [⟨idle, .request [] second.request⟩]
  have calm : ((fresh 1 4711 (some ⟨0, 7, "main"⟩) 20).run before).session.Undisturbed first
      [⟨idle, .request [] second.request⟩] := by
    refine ⟨?_, trivial⟩
    have parks : ((fresh 1 4711 (some ⟨0, 7, "main"⟩) 20).run before).session.parked?
      ⟨idle, .request [] second.request⟩ = some second := by decide +kernel
    rintro (⟨⟨_, hears⟩, -⟩ | ⟨p, parked, apart⟩)
    · exact not_hears (by simp) hears
    · cases parks.symm.trans parked
      simp [second, first] at apart
  obtain ⟨-, -, delivers, supersedes⟩ := ends calm
  constructor
  · refine (delivers _ ⟨⟨some 1, rfl, ?_, ?_⟩, ?_⟩).1 <;> decide +kernel
  · exact (supersedes _ third (by decide +kernel) (.inl rfl)).1

end Session

end DebugAdapter
