import DebugAdapter.Proofs.Session.Issuing
import DebugAdapter.Proofs.Session.Scopes

/-!
# Before and after the introduction

Once a client has introduced itself it stays introduced. Before that no
request is accepted but the introduction, so none waits for a report to answer
it. `initialized_of_shown`: in every session that can come to be, a client that
is shown a handle has introduced itself.
-/

namespace DebugAdapter

namespace SessionState

/-- Looking into the debuggee stores values and moves between frames; it neither
introduces the client nor takes another call stack over. -/
structure Inspects (st after : SessionState) : Prop where
  initialized : after.initialized = st.initialized
  callStack : after.callStack = st.callStack

theorem Inspects.trans {st between after : SessionState} (h : st.Inspects between)
    (h' : between.Inspects after) : st.Inspects after :=
  ⟨h'.initialized.trans h.initialized, h'.callStack.trans h.callStack⟩

theorem inspects_setView (st : SessionState) (scope : FrameScope) (v : ScopeView) :
    st.Inspects (st.setView scope v) := by
  cases scope <;> exact ⟨rfl, rfl⟩

theorem inspects_setPending (st : SessionState) (scope : FrameScope) (reply : Option ReplyTo) :
    st.Inspects (st.setPending scope reply) := inspects_setView ..

theorem inspects_settle (st : SessionState) : st.Inspects st.settle := by
  unfold settle
  split <;> exact ⟨rfl, rfl⟩

theorem inspects_park (st : SessionState) (reply : ReplyTo) (scope : FrameScope)
    (frame : Nat) : st.Inspects (st.park reply scope frame).state := by
  have parked (other : Option ReplyTo) := (st.inspects_setPending scope.other other).trans
    (inspects_setPending _ scope (some reply))
  unfold park
  dsimp only
  split <;> split
  · exact parked _
  · exact ⟨(parked _).initialized, (parked _).callStack⟩
  · exact parked _
  · exact ⟨(parked _).initialized, (parked _).callStack⟩

theorem inspects_answerVariables {st : SessionState}
    (h : st.answerVariables d r = .ok handled) : st.Inspects handled.state := by
  have looksUp := st.looksUp_answerVariables d r
  rw [h] at looksUp
  cases looksUp with
  | lists => exact ⟨rfl, rfl⟩
  | parks scope frame => exact inspects_park ..

theorem inspects_answerEvaluate {st : SessionState}
    (h : st.answerEvaluate d r = .ok handled) : st.Inspects handled.state := by
  unfold answerEvaluate evaluateExpression at h
  split at h
  · cases h
  split at h
  · cases h
    exact ⟨rfl, rfl⟩
  split at h <;> cases h
  exact ⟨rfl, rfl⟩

theorem inspects_resolve (st : SessionState) (d : Debuggee) (scope : FrameScope)
    (frame : Nat) : st.Inspects (st.resolve d scope frame).1 := by
  have served := st.inspects_setPending scope none
  unfold resolve
  split
  · exact ⟨rfl, rfl⟩
  · exact ⟨served.initialized, served.callStack⟩

theorem inspects_refreshScope (st : SessionState) (d : Debuggee) (scope : FrameScope) :
    st.Inspects (st.refreshScope d scope).1 := by
  have viewed := st.inspects_setView scope { st.view scope with frame := st.currentFrame }
  unfold refreshScope
  dsimp only
  split
  · exact viewed
  split
  · exact (viewed.trans (inspects_resolve ..)).trans (inspects_settle _)
  · exact viewed

@[simp] theorem initialized_report (st : SessionState) (d : Debuggee) (n : Notification) :
    (st.report d n).1.initialized = st.initialized := by
  obtain ⟨scope, frame, -, h⟩ | ⟨frame, -, h⟩ | ⟨⟨reason, exception, h⟩, -⟩ :=
    st.report_cases d n
  all_goals rw [h]
  · exact (inspects_refreshScope ..).initialized
  · unfold refreshStack
    split <;> rfl

end SessionState

namespace Session

theorem Accepts.initialized {s : Session} (h : s.Accepts d r handled) :
    handled.state.initialized = true := by
  obtain greets | ⟨introduced, plain | ⟨-, answered⟩ | ⟨-, answered⟩⟩ := h.work
  · obtain ⟨conventions, state⟩ := greets.state
    rw [state]
  · obtain ⟨reason, state⟩ := plain.state
    rw [state]
    exact introduced
  · exact (SessionState.inspects_answerVariables answered).initialized.trans introduced
  · exact (SessionState.inspects_answerEvaluate answered).initialized.trans introduced

theorem initialized_step {s : Session} (h : s.state.initialized = true) :
    (s.step m).session.state.initialized = true := by
  obtain ⟨kept, -⟩ | ⟨directory, r, handled, -, -, accepted, answered⟩ |
    ⟨n, -, -, state, -⟩ := s.step_cases m
  · rw [kept]
    exact h
  · rw [answered]
    exact accepted.initialized
  · rw [state, SessionState.initialized_report]
    exact h

theorem initialized_run {s : Session} (h : s.state.initialized = true) :
    (s.run moments).session.state.initialized = true := by
  induction moments generalizing s with
  | nil => exact h
  | cons m moments ih => exact ih (initialized_step h)

end Session

-- ---------------------------------------------------------------------------
-- Before
-- ---------------------------------------------------------------------------

structure SessionState.Unintroduced (st : SessionState) : Prop where
  initialized : st.initialized = false
  pending : ∀ scope, st.pending scope = none

namespace SessionState

theorem Unintroduced.settle {st : SessionState} (h : st.Unintroduced) :
    st.settle.Unintroduced := by
  unfold SessionState.settle
  split
  · exact ⟨h.initialized, h.pending⟩
  · exact h

theorem Unintroduced.refreshScope {st : SessionState} (h : st.Unintroduced) (d : Debuggee)
    (scope : FrameScope) :
    (st.refreshScope d scope).1.Unintroduced ∧ (st.refreshScope d scope).2 = [] := by
  have viewed : (st.setView scope { st.view scope with frame := st.currentFrame }).Unintroduced :=
    ⟨(inspects_setView ..).initialized.trans h.initialized, fun s => by simp [h.pending]⟩
  have quiet (frame : Nat) : (st.setView scope { st.view scope with
      frame := st.currentFrame }).resolve d scope frame =
        (st.setView scope { st.view scope with frame := st.currentFrame }, []) := by
    simp only [resolve, viewed.pending]
  unfold SessionState.refreshScope
  dsimp only
  split
  · exact ⟨viewed, rfl⟩
  split
  · rw [quiet]
    exact ⟨viewed.settle, rfl⟩
  · exact ⟨viewed, rfl⟩

theorem Unintroduced.report {st : SessionState} (h : st.Unintroduced) (d : Debuggee)
    (n : Notification) :
    (st.report d n).1.Unintroduced ∧ shownHandles (st.report d n).2 = [] := by
  obtain ⟨scope, frame, -, eq⟩ | ⟨frame, -, eq⟩ | ⟨⟨reason, exception, eq⟩, events⟩ :=
    st.report_cases d n
  · have current : SessionState.Unintroduced { st with
        currentFrame := frame <|> st.currentFrame } := ⟨h.initialized, h.pending⟩
    obtain ⟨after, quiet⟩ := current.refreshScope d scope
    rw [eq]
    exact ⟨after, congrArg shownHandles quiet⟩
  · rw [eq]
    unfold refreshStack
    split <;> exact ⟨⟨h.initialized, h.pending⟩, rfl⟩
  · rw [eq, shownHandles_blank fun m hm => (events m hm).blank]
    exact ⟨⟨h.initialized, h.pending⟩, rfl⟩

end SessionState

namespace Session

theorem unintroduced_step {s : Session} (h : s.state.Unintroduced) (m : Moment) :
    (s.step m).session.state.initialized = true ∨
      (s.step m).session.state.Unintroduced ∧ shownHandles (s.step m).queued = [] := by
  obtain ⟨kept, blank⟩ | ⟨directory, r, handled, -, -, accepted, answered⟩ |
    ⟨n, -, -, state, queued⟩ := s.step_cases m
  · rw [kept]
    exact .inr ⟨h, shownHandles_blank blank⟩
  · rw [answered]
    exact .inl accepted.initialized
  · rw [state, queued]
    exact .inr (h.report m.debuggee n)

theorem introduced_run {s : Session}
    (h : s.state.initialized = true ∨ s.state.Unintroduced) (moments : List Moment) :
    (s.run moments).session.state.initialized = true ∨
      (s.run moments).session.state.Unintroduced := by
  induction moments generalizing s with
  | nil => exact h
  | cons m moments ih =>
    obtain introduced | before := h
    · exact ih (.inl (initialized_step introduced))
    · exact ih ((unintroduced_step before m).imp_right And.left)

theorem initialized_of_shown {s : Session}
    (h : s.state.initialized = true ∨ s.state.Unintroduced)
    (shown : n ∈ shownHandles (s.step m).queued) :
    (s.step m).session.state.initialized = true := by
  obtain introduced | before := h
  · exact initialized_step introduced
  obtain introduced | ⟨-, none⟩ := unintroduced_step before m
  · exact introduced
  · rw [none] at shown
    cases shown

theorem unintroduced_fresh (id : SessionId) (port : Nat) (target : Option Target)
    (defaultLevels : Nat) : (fresh id port target defaultLevels).state.Unintroduced :=
  ⟨rfl, fun scope => by cases scope <;> rfl⟩

end Session

end DebugAdapter
