import DebugAdapter.Proofs.Session.Inquiries

/-!
# What a session waits for

A session waits for at most one frame, and the frame, the requests that wait
for it and the calls that asked for it belong together at any time. The
requests and the calls are not part of the state: `Coherent` ties it to the
history of the run. `waits_for_asked_frame`: whatever happens to a session,
each request that waits was about the frame that the debuggee was asked for
last.
-/

namespace DebugAdapter

def lastAbout (scope : FrameScope) (inquiries : List Inquiry) : Option Inquiry :=
  (inquiries.filter (·.scope = scope)).getLast?

/-- What a state says about waiting is true of the frames that were asked for
and of the inquiries that were parked so far. -/
structure SessionState.Coherent (st : SessionState) (frames : List Nat)
    (parked : List Inquiry) : Prop where
  waited : st.pendingFrame.isSome → ∃ scope, (st.pending scope).isSome
  asked : ∀ frame, st.pendingFrame = some frame → frames.getLast? = some frame
  about : ∀ scope reply, st.pending scope = some reply → ∃ frame,
    st.pendingFrame = some frame ∧ lastAbout scope parked = some ⟨scope, frame, reply⟩

namespace Session

def parkings (s : Session) : List Moment → List Inquiry
  | [] => []
  | m :: rest => (s.parked? m).toList ++ (s.step m).session.parkings rest

@[simp] theorem run_cons_calls (s : Session) (m : Moment) (rest : List Moment) :
    (s.run (m :: rest)).calls = (s.step m).calls ++ ((s.step m).session.run rest).calls := rfl

@[simp] theorem parkings_cons (s : Session) (m : Moment) (rest : List Moment) :
    s.parkings (m :: rest) = (s.parked? m).toList ++ (s.step m).session.parkings rest := rfl

end Session

@[simp] theorem lastAbout_append_self (parked : List Inquiry) (q : Inquiry) :
    lastAbout q.scope (parked ++ [q]) = some q := by
  simp [lastAbout]

theorem lastAbout_append_of_ne {scope : FrameScope} (h : q.scope ≠ scope)
    (parked : List Inquiry) : lastAbout scope (parked ++ [q]) = lastAbout scope parked := by
  simp [lastAbout, h]

-- ---------------------------------------------------------------------------
-- States
-- ---------------------------------------------------------------------------

namespace SessionState

theorem coherent_fresh : fresh.Coherent [] [] where
  waited := nofun
  asked := nofun
  about scope reply waits := by cases scope <;> cases waits

variable {st after : SessionState} {frames : List Nat} {parked : List Inquiry}

theorem Coherent.congr (h : st.Coherent frames parked)
    (frame : after.pendingFrame = st.pendingFrame)
    (pending : ∀ scope, after.pending scope = st.pending scope) :
    after.Coherent frames parked where
  waited := by
    simp only [frame, pending]
    exact h.waited
  asked := by
    rw [frame]
    exact h.asked
  about := by
    simp only [frame, pending]
    exact h.about

/-- A request of the other scope that stays is about the same frame, and that
frame has been asked for. -/
theorem Coherent.park (h : st.Coherent frames parked) (q : Inquiry) :
    (st.park q.reply q.scope q.frame).state.Coherent
      (frames ++ framesAsked (st.park q.reply q.scope q.frame).calls) (parked ++ [q]) where
  waited _ := ⟨q.scope, by simp⟩
  asked frame waited := by
    obtain rfl : q.frame = frame := by simpa using waited
    simp only [SessionState.park]
    by_cases same : st.pendingFrame = some q.frame
    · rw [if_pos same]
      split
      · simpa using h.asked _ same
      · simp [framesAsked, Call.frame?]
    · simp [same, framesAsked, Call.frame?]
  about scope reply waits := by
    refine ⟨q.frame, pendingFrame_park .., ?_⟩
    by_cases own : q.scope = scope
    · subst own
      obtain rfl : q.reply = reply := by simpa using waits
      exact lastAbout_append_self ..
    · have other : scope = q.scope.other :=
        (scope.eq_or_eq_other q.scope).resolve_left (Ne.symm own)
      rw [lastAbout_append_of_ne own]
      rw [other, pending_other_park] at waits
      split at waits
      · rename_i same
        rw [← other] at waits
        obtain ⟨frame, waited, last⟩ := h.about scope reply waits
        obtain rfl : q.frame = frame := by simpa [same] using waited
        exact last
      · cases waits

theorem Coherent.refreshScope (h : st.Coherent frames parked) (d : Debuggee)
    (scope : FrameScope) : (st.refreshScope d scope).1.Coherent frames parked := by
  by_cases awaited : ∃ frame, st.currentFrame = some frame ∧ st.pendingFrame = some frame
  · obtain ⟨frame, current, awaited⟩ := awaited
    obtain ⟨-, pending, left⟩ := refreshScope_awaited st d scope current awaited
    refine ⟨fun waited => ?_, fun f waited => ?_, fun s reply waits => ?_⟩
    · refine ⟨scope.other, ?_⟩
      rw [left] at waited
      rw [pending, if_neg scope.other_ne]
      split at waited
      · assumption
      · cases waited
    · rw [left] at waited
      split at waited <;> cases waited
      exact h.asked frame awaited
    · rw [pending] at waits
      split at waits
      · cases waits
      · rename_i apart
        have other : s = scope.other := (s.eq_or_eq_other scope).resolve_left apart
        obtain ⟨f, waited, last⟩ := h.about s reply waits
        refine ⟨f, ?_, last⟩
        rw [left, ← other, waits]
        exact awaited.symm.trans waited
  · obtain ⟨-, frame, pending⟩ := refreshScope_apart st d scope
      fun frame current waited => awaited ⟨frame, current, waited⟩
    exact h.congr frame pending

end SessionState

-- ---------------------------------------------------------------------------
-- Runs
-- ---------------------------------------------------------------------------

namespace Session

theorem coherent_step {s : Session} (h : s.state.Coherent frames parked) (m : Moment) :
    (s.step m).session.state.Coherent (frames ++ framesAsked (s.step m).calls)
      (parked ++ (s.parked? m).toList) := by
  obtain ⟨q, parks, step⟩ | ⟨others, ⟨scope, frame, -, step⟩ | ⟨frame, -, step⟩ |
    ⟨-, same, quiet⟩⟩ := s.step_frames m
  · rw [parks, step]
    exact h.park q
  · rw [others, step]
    have reported : SessionState.Coherent { s.state with
        currentFrame := frame <|> s.state.currentFrame } frames parked := h.congr rfl fun _ => rfl
    simpa [refreshes] using reported.refreshScope m.debuggee scope
  · rw [others, step]
    simp only [framesAsked_nil, Option.toList_none, List.append_nil]
    have same := SessionState.refreshStack_sameFrames
      { s.state with currentFrame := frame <|> s.state.currentFrame } m.debuggee
    exact h.congr same.pendingFrame same.pending
  · rw [others, quiet, Option.toList_none, List.append_nil, List.append_nil]
    exact h.congr same.pendingFrame same.pending

theorem coherent_run {s : Session} (h : s.state.Coherent frames parked) (moments : List Moment) :
    (s.run moments).session.state.Coherent (frames ++ framesAsked (s.run moments).calls)
      (parked ++ s.parkings moments) := by
  induction moments generalizing s frames parked with
  | nil => simpa [rest, parkings] using h
  | cons m moments ih =>
    simpa [List.append_assoc] using ih (coherent_step h m)

variable (id : SessionId) (port : Nat) (target : Target) (defaultLevels : Nat)

/-- In whatever state a session gets to, it waits for a frame exactly if a
request waits in one of its scopes. Each request that waits is the last one
parked for its scope, and it is about that frame, which is also the frame that
the session has asked the debuggee for last. -/
theorem waits_for_asked_frame (moments : List Moment) :
    let outcome := (fresh id port (some target) defaultLevels).run moments
    let parked := (fresh id port (some target) defaultLevels).parkings moments
    let st := outcome.session.state
    (st.pendingFrame.isSome ↔ ∃ scope, (st.pending scope).isSome) ∧
      ∀ frame, st.pendingFrame = some frame →
        (∀ scope reply, st.pending scope = some reply →
          lastAbout scope parked = some ⟨scope, frame, reply⟩) ∧
        (framesAsked outcome.calls).getLast? = some frame := by
  intro outcome parked st
  have coherent : st.Coherent (framesAsked outcome.calls) parked :=
    coherent_run (s := fresh id port (some target) defaultLevels)
      SessionState.coherent_fresh moments
  refine ⟨⟨coherent.waited, ?_⟩, fun frame waited => ⟨fun scope reply waits => ?_, ?_⟩⟩
  · rintro ⟨scope, waits⟩
    obtain ⟨reply, waits⟩ := Option.isSome_iff_exists.mp waits
    obtain ⟨frame, waited, -⟩ := coherent.about scope reply waits
    rw [waited]
    rfl
  · obtain ⟨f, others, last⟩ := coherent.about scope reply waits
    obtain rfl : frame = f := Option.some.inj (waited.symm.trans others)
    exact last
  · exact coherent.asked frame waited

/-- Locals and closure of one frame are waited for, and the frame is asked for once. -/
theorem two_scopes_wait_for_one_frame :
    let idle := Debuggee.holding (.tuple []) [⟨none, none, 0, 0, 0⟩, ⟨none, none, 0, 0, 0⟩]
    let first : Inquiry := ⟨.locals, 1, ⟨2, "variables"⟩⟩
    let second : Inquiry := ⟨.closure, 1, ⟨3, "variables"⟩⟩
    let moments : List Moment := [⟨idle, .request [] (.withHandle 1 "initialize" 0)⟩,
      ⟨idle, .request [] first.request⟩, ⟨idle, .request [] second.request⟩]
    let outcome := (fresh 1 4711 (some ⟨0, 7, "main"⟩) 20).run moments
    let parked := (fresh 1 4711 (some ⟨0, 7, "main"⟩) 20).parkings moments
    framesAsked outcome.calls = [1] ∧ outcome.session.state.pendingFrame = some 1 ∧
      lastAbout .locals parked = some first ∧ lastAbout .closure parked = some second ∧
      (framesAsked outcome.calls).getLast? = some 1 := by
  intro idle first second moments
  have waited : ((fresh 1 4711 (some ⟨0, 7, "main"⟩) 20).run
    moments).session.state.pendingFrame = some 1 := by decide +kernel
  obtain ⟨-, fits⟩ := waits_for_asked_frame 1 4711 ⟨0, 7, "main"⟩ 20 moments
  obtain ⟨about, asked⟩ := fits 1 waited
  refine ⟨by decide +kernel, waited, ?_, ?_, asked⟩
  · exact about .locals first.reply (by decide +kernel)
  · exact about .closure second.reply (by decide +kernel)

end Session

end DebugAdapter
