import DebugAdapter.Session.Report

/-!
# What waits for a scope

Laws of the requests that wait for locals or closure of a frame: what setting
one does to the other, and what is left after a request has been parked or a
report of a scope has been taken in. A request for variables is parked, or it is
refused or answered at once (`looksUp_answerVariables`).
-/

namespace DebugAdapter

theorem FrameScope.eq_or_eq_other (a b : FrameScope) : a = b ∨ a = b.other := by
  cases a <;> cases b <;> simp [other]

namespace SessionState

@[simp] theorem pending_setPending (st : SessionState) (scope : FrameScope)
    (reply : Option ReplyTo) : (st.setPending scope reply).pending scope = reply := by
  simp [setPending, pending]

@[simp] theorem pending_other_setPending (st : SessionState) (scope : FrameScope)
    (reply : Option ReplyTo) :
    (st.setPending scope reply).pending scope.other = st.pending scope.other := by
  simp [setPending, pending]

@[simp] theorem pending_setPending_other (st : SessionState) (scope : FrameScope)
    (reply : Option ReplyTo) :
    (st.setPending scope.other reply).pending scope = st.pending scope := by
  simpa using st.pending_other_setPending scope.other reply

@[simp] theorem pending_with_pendingFrame (st : SessionState) (frame : Option Nat)
    (scope : FrameScope) :
    ({ st with pendingFrame := frame } : SessionState).pending scope = st.pending scope := rfl

@[simp] theorem pending_setView_frame (st : SessionState) (scope s : FrameScope)
    (frame : Option Nat) :
    (st.setView scope { st.view scope with frame }).pending s = st.pending s := by
  cases scope <;> cases s <;> rfl

@[simp] theorem currentFrame_setView (st : SessionState) (scope : FrameScope) (v : ScopeView) :
    (st.setView scope v).currentFrame = st.currentFrame := by
  cases scope <;> rfl

@[simp] theorem pendingFrame_setView (st : SessionState) (scope : FrameScope) (v : ScopeView) :
    (st.setView scope v).pendingFrame = st.pendingFrame := by
  cases scope <;> rfl

theorem view_setView_of_ne {s scope : FrameScope} (h : s ≠ scope) (st : SessionState)
    (v : ScopeView) : (st.setView scope v).view s = st.view s := by
  cases s <;> cases scope <;> first | exact absurd rfl h | rfl

@[simp] theorem view_frame_setPending (st : SessionState) (scope : FrameScope)
    (reply : Option ReplyTo) (s : FrameScope) :
    ((st.setPending scope reply).view s).frame = (st.view s).frame := by
  cases scope <;> cases s <;> rfl

theorem setPending_pending (st : SessionState) (scope : FrameScope) :
    st.setPending scope (st.pending scope) = st := by
  cases scope <;> rfl

@[simp] theorem pendingFrame_setPending (st : SessionState) (scope : FrameScope)
    (reply : Option ReplyTo) : (st.setPending scope reply).pendingFrame = st.pendingFrame :=
  pendingFrame_setView ..

-- ---------------------------------------------------------------------------
-- Parking
-- ---------------------------------------------------------------------------

section

variable (st : SessionState) (reply : ReplyTo) (scope : FrameScope) (frame : Nat)

theorem pending_park_eq (s : FrameScope) : (st.park reply scope frame).state.pending s =
    ((st.setPending scope.other
      (if st.pendingFrame = some frame then st.pending scope.other else none)).setPending
        scope (some reply)).pending s := by
  unfold park
  dsimp only
  split <;> split <;> rfl

@[simp] theorem pending_park : (st.park reply scope frame).state.pending scope = some reply := by
  simp [pending_park_eq]

theorem pending_other_park : (st.park reply scope frame).state.pending scope.other =
    if st.pendingFrame = some frame then st.pending scope.other else none := by
  simp [pending_park_eq]

@[simp] theorem pendingFrame_park :
    (st.park reply scope frame).state.pendingFrame = some frame := by
  unfold park
  by_cases same : st.pendingFrame = some frame
  · simp only [same, if_true]
    split <;> simp [setPending, same]
  · simp [same]

theorem mem_calls_park (made : c ∈ (st.park reply scope frame).calls) :
    c = .queueAction (.viewFrame frame) := by
  have asking (asked : Bool)
      (made : c ∈ if asked then [] else [Call.queueAction (.viewFrame frame)]) :
      c = .queueAction (.viewFrame frame) := by
    cases asked with
    | true => cases made
    | false => exact List.mem_singleton.mp made
  exact asking _ made

theorem mem_queued_park (queued : m ∈ (st.park reply scope frame).queued) :
    ∃ scope waiting, cancellation scope waiting = m := by
  obtain first | second := List.mem_append.mp queued
  · obtain ⟨waiting, -, same⟩ := Option.map_eq_some_iff.mp (Option.mem_toList.mp first)
    exact ⟨_, waiting, same⟩
  · obtain ⟨waiting, -, same⟩ := Option.map_eq_some_iff.mp (Option.mem_toList.mp second)
    exact ⟨_, waiting, same⟩

@[simp] theorem currentFrame_park :
    (st.park reply scope frame).state.currentFrame = st.currentFrame := by
  unfold park
  dsimp only
  split <;> split <;> simp [setPending]

@[simp] theorem view_frame_park (s : FrameScope) :
    ((st.park reply scope frame).state.view s).frame = (st.view s).frame := by
  unfold park
  dsimp only
  split <;> split <;> cases scope <;> cases s <;> rfl

end

-- ---------------------------------------------------------------------------
-- Looking up
-- ---------------------------------------------------------------------------

/-- What comes of looking variables up: a refusal before the debuggee is asked anything, or
rows that values may have been registered for, or a wait for a frame. -/
inductive LooksUp (st : SessionState) (reply : ReplyTo) : Except Refused Handled → Prop
  | refuses (failure : Failure) : LooksUp st reply (.error ⟨failure, []⟩)
  | lists (values : ValueTable) (rows : List Variable) (calls : List Call) :
    (∀ c ∈ calls, ∃ scope frame, c = .scopeValue scope frame) →
    LooksUp st reply (.ok (.answer { st with values } (variablesMember rows) calls))
  | parks (scope : FrameScope) (frame : Nat) :
    LooksUp st reply (.ok (st.park reply scope frame))

theorem looksUp_scopeVariables (st : SessionState) (d : Debuggee) (reply : ReplyTo)
    (ref : VarRef) : st.LooksUp reply (.ok (st.scopeVariables d reply ref)) := by
  have frames (scope : FrameScope) (frame : Nat) :
      st.LooksUp reply (.ok (st.frameVariables d reply scope frame)) := by
    unfold frameVariables
    split
    · exact .lists _ _ [] nofun
    split
    · exact .lists _ _ [] nofun
    · exact .parks scope frame
  unfold scopeVariables
  split
  · exact frames ..
  · exact frames ..
  · exact .lists _ _ _ (List.forall_mem_singleton.mpr ⟨_, _, rfl⟩)

theorem looksUp_answerVariables (st : SessionState) (d : Debuggee) (r : Request) :
    st.LooksUp r.replyTo (st.answerVariables d r) := by
  unfold answerVariables
  dsimp only
  split
  · exact .refuses _
  split
  · exact st.looksUp_scopeVariables ..
  split
  · exact .refuses _
  · exact .lists _ _ [] nofun

-- ---------------------------------------------------------------------------
-- Reports
-- ---------------------------------------------------------------------------

variable {st : SessionState} {frame : Nat}

@[simp] theorem currentFrame_settle (st : SessionState) :
    st.settle.currentFrame = st.currentFrame := by
  unfold settle
  split <;> rfl

@[simp] theorem view_settle (st : SessionState) : st.settle.view = st.view := by
  unfold settle
  split <;> rfl

@[simp] theorem pending_settle (st : SessionState) : st.settle.pending = st.pending := by
  unfold settle
  split <;> rfl

theorem settle_of_waiting (s : FrameScope) (h : (st.pending s).isSome) : st.settle = st := by
  obtain ⟨reply, waits⟩ := Option.isSome_iff_exists.mp h
  unfold settle
  cases s <;> simp [waits]

theorem pendingFrame_settle_of_idle (h : ∀ s, st.pending s = none) :
    st.settle.pendingFrame = none := by
  simp [settle, h]

@[simp] theorem currentFrame_resolve (st : SessionState) (d : Debuggee) (scope : FrameScope)
    (frame : Nat) : (st.resolve d scope frame).1.currentFrame = st.currentFrame := by
  unfold resolve
  split
  · rfl
  · exact currentFrame_setView ..

@[simp] theorem pendingFrame_resolve (st : SessionState) (d : Debuggee) (scope : FrameScope)
    (frame : Nat) : (st.resolve d scope frame).1.pendingFrame = st.pendingFrame := by
  unfold resolve
  split
  · rfl
  · exact pendingFrame_setView ..

@[simp] theorem view_frame_resolve (st : SessionState) (d : Debuggee) (scope : FrameScope)
    (frame : Nat) (s : FrameScope) :
    ((st.resolve d scope frame).1.view s).frame = (st.view s).frame := by
  unfold resolve
  split
  · rfl
  · exact view_frame_setPending ..

theorem pending_resolve (st : SessionState) (d : Debuggee) (scope : FrameScope) (frame : Nat)
    (s : FrameScope) : (st.resolve d scope frame).1.pending s =
      if s = scope then none else st.pending s := by
  unfold resolve
  cases waits : st.pending scope with
  | none =>
    show st.pending s = _
    split
    · rename_i same
      rw [same, waits]
    · rfl
  | some reply =>
    show (st.setPending scope none).pending s = _
    split
    · rename_i same
      rw [same, pending_setPending]
    · rename_i apart
      exact congrArg ScopeView.pending (view_setView_of_ne apart st _)

@[simp] theorem currentFrame_refreshScope (st : SessionState) (d : Debuggee)
    (scope : FrameScope) : (st.refreshScope d scope).1.currentFrame = st.currentFrame := by
  unfold refreshScope
  dsimp only
  split
  · simp
  · split <;> simp

theorem view_frame_refreshScope (st : SessionState) (d : Debuggee) (scope s : FrameScope) :
    ((st.refreshScope d scope).1.view s).frame =
      if s = scope then st.currentFrame else (st.view s).frame := by
  have seen : ((st.setView scope { st.view scope with frame := st.currentFrame }).view s).frame =
      if s = scope then st.currentFrame else (st.view s).frame := by
    split
    · rename_i same
      rw [same, view_setView]
    · rename_i apart
      rw [view_setView_of_ne apart]
  unfold refreshScope
  dsimp only
  split
  · exact seen
  · split
    · rw [view_settle, view_frame_resolve, seen]
    · exact seen

theorem refreshScope_apart (st : SessionState) (d : Debuggee) (scope : FrameScope)
    (h : ∀ frame, st.currentFrame = some frame → st.pendingFrame ≠ some frame) :
    (st.refreshScope d scope).2 = [] ∧
      (st.refreshScope d scope).1.pendingFrame = st.pendingFrame ∧
      ∀ s, (st.refreshScope d scope).1.pending s = st.pending s := by
  unfold refreshScope
  dsimp only
  split
  · simp
  · rename_i frame current
    have apart := h frame (by simpa using current)
    simp [apart]

/-- A report of the frame that is waited for answers the request that waits for
the scope; the frame is waited for as long as a request waits for the other. -/
theorem refreshScope_awaited (st : SessionState) (d : Debuggee) (scope : FrameScope)
    (current : st.currentFrame = some frame) (awaited : st.pendingFrame = some frame) :
    (st.refreshScope d scope).2 = ((st.pending scope).map fun reply =>
      Outgoing.respond reply (Json.object (st.watchRows d scope frame).1)).toList ∧
    (∀ s, (st.refreshScope d scope).1.pending s = if s = scope then none else st.pending s) ∧
    (st.refreshScope d scope).1.pendingFrame =
      if (st.pending scope.other).isSome then some frame else none := by
  have taken : st.refreshScope d scope =
      (((st.setView scope { st.view scope with frame := st.currentFrame }).resolve d scope
        frame).1.settle, ((st.setView scope { st.view scope with
          frame := st.currentFrame }).resolve d scope frame).2) := by
    simp [refreshScope, current, awaited]
  rw [taken]
  refine ⟨?_, ?_, ?_⟩
  · unfold resolve
    rw [pending_setView_frame]
    cases st.pending scope with
    | none => rfl
    | some reply => cases scope <;> rfl
  · intro s
    rw [pending_settle, pending_resolve, pending_setView_frame]
  · cases waits : st.pending scope.other with
    | none =>
      refine pendingFrame_settle_of_idle fun s => ?_
      rw [pending_resolve, pending_setView_frame]
      obtain rfl | rfl := s.eq_or_eq_other scope
      · exact if_pos rfl
      · exact (if_neg scope.other_ne).trans waits
    | some reply =>
      rw [settle_of_waiting scope.other]
      · simp [awaited]
      · rw [pending_resolve, if_neg scope.other_ne, pending_setView_frame, waits]
        rfl

end SessionState

end DebugAdapter
