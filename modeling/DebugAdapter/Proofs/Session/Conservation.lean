import DebugAdapter.Proofs.Session.Scopes
import DebugAdapter.Proofs.Session.Serving
import Mathlib.Algebra.Order.Group.Multiset
import Mathlib.Tactic.Abel

/-!
# Every request is answered once

A request is answered at once, or waits in one of the two scopes, or is
answered by something that happens later. `responses_conserved`: over any run,
the responses sent and the requests that still wait are exactly the requests
that came, each as often as it came.
-/

namespace DebugAdapter

def Outgoing.reply? : Outgoing → Option ReplyTo
  | .response reply .. => some reply
  | _ => none

def answered (queued : List Outgoing) : Multiset ReplyTo := queued.filterMap Outgoing.reply?

def SessionState.parked (st : SessionState) : Multiset ReplyTo :=
  (st.pending .locals).toList ++ (st.pending .closure).toList

def Event.asked : Event → Multiset ReplyTo
  | .request _ r => {r.replyTo}
  | _ => 0

def requested (moments : List Moment) : Multiset ReplyTo :=
  (moments.map fun m => m.event.asked).sum

-- ---------------------------------------------------------------------------
-- Messages
-- ---------------------------------------------------------------------------

@[simp] theorem answered_nil : answered [] = 0 := rfl

@[simp] theorem answered_append (a b : List Outgoing) :
    answered (a ++ b) = answered a + answered b := by
  simp [answered]

@[simp] theorem answered_cons_respond (reply : ReplyTo) (body : Json) (rest : List Outgoing) :
    answered (.respond reply body :: rest) = {reply} + answered rest := rfl

@[simp] theorem answered_cons_respondEmpty (reply : ReplyTo) (rest : List Outgoing) :
    answered (.respondEmpty reply :: rest) = {reply} + answered rest := rfl

@[simp] theorem answered_cons_respondError (reply : ReplyTo) (id : Int) (text : String)
    (rest : List Outgoing) :
    answered (.respondError reply id text :: rest) = {reply} + answered rest := rfl

@[simp] theorem answered_cons_event (name : String) (body : Option Json) (rest : List Outgoing) :
    answered (.event name body :: rest) = answered rest := rfl

@[simp] theorem answered_cons_console (line : String) (rest : List Outgoing) :
    answered (.console line :: rest) = answered rest := rfl

@[simp] theorem answered_map_console (lines : List String) :
    answered (lines.map Outgoing.console) = 0 := by
  induction lines with
  | nil => rfl
  | cons line lines ih => exact ih

-- ---------------------------------------------------------------------------
-- Waiting requests
-- ---------------------------------------------------------------------------

def waiting (reply : Option ReplyTo) : Multiset ReplyTo := reply.toList

@[simp] theorem waiting_none : waiting none = 0 := rfl

@[simp] theorem waiting_some (reply : ReplyTo) : waiting (some reply) = {reply} := rfl

namespace SessionState

theorem parked_eq (st : SessionState) (scope : FrameScope) :
    st.parked = waiting (st.pending scope) + waiting (st.pending scope.other) := by
  cases scope
  · exact (Multiset.coe_add _ _).symm
  · exact (Multiset.coe_add _ _).symm.trans (add_comm _ _)

theorem parked_congr {a b : SessionState} (h : ∀ scope, a.pending scope = b.pending scope) :
    a.parked = b.parked := by
  simp [parked, h]

end SessionState

-- ---------------------------------------------------------------------------
-- Requests
-- ---------------------------------------------------------------------------

/-- The responses to a request and what waits after it are what waited before
and the request itself. -/
def Handled.Accounts (h : Handled) (st : SessionState) (reply : ReplyTo) : Prop :=
  answered (h.queued ++ Session.answerNow reply h.reply) + h.state.parked = st.parked + {reply}

theorem Handled.accounts_of_now {h : Handled} {reply : ReplyTo} (hq : answered h.queued = 0)
    (hr : answered (Session.answerNow reply h.reply) = {reply})
    (hp : h.state.parked = st.parked) : h.Accounts st reply := by
  rw [Accounts, answered_append, hq, hr, hp]
  abel

theorem answered_events {queued : List Outgoing} (h : ∀ m ∈ queued, m.IsEvent) :
    answered queued = 0 := by
  induction queued with
  | nil => rfl
  | cons m queued ih =>
    obtain ⟨⟨name, body, rfl⟩, others⟩ := List.forall_mem_cons.mp h
    exact ih others

theorem Handled.Plain.accounts {h : Handled} (plain : h.Plain st) (reply : ReplyTo) :
    h.Accounts st reply := by
  obtain ⟨⟨reason, state⟩, queued, blank⟩ := plain
  have now : answered (Session.answerNow reply h.reply) = {reply} := by
    cases hr : h.reply with
    | deferred =>
      rw [hr] at blank
      exact blank.elim
    | _ => rfl
  exact Handled.accounts_of_now (answered_events queued) now (by rw [state]; rfl)

theorem Handled.Greets.accounts {h : Handled} {reply : ReplyTo}
    (greets : h.Greets st reply) : h.Accounts st reply := by
  obtain ⟨⟨conventions, state⟩, ⟨before, after, queued, events⟩, deferred⟩ := greets
  obtain ⟨first, second⟩ := List.forall_mem_append.mp events
  have answers : answered h.queued = {reply} := by
    rw [queued, answered_append, answered_cons_respond, answered_events first,
      answered_events second, zero_add, add_zero]
  have kept : h.state.parked = st.parked := by
    rw [state]
    rfl
  rw [Accounts, deferred, answered_append, answers, kept]
  simp only [Session.answerNow, answered_nil, add_zero]
  exact add_comm _ _

theorem answered_cancellation (scope : FrameScope) (reply : Option ReplyTo) :
    answered (reply.map (SessionState.cancellation scope)).toList = waiting reply := by
  cases reply <;> rfl

namespace SessionState

variable {st : SessionState} {d : Debuggee}

/-- Of what waited for the two scopes, each is dropped or stays; the parked
request is added to what stays. -/
theorem park_accounts (reply : ReplyTo) (scope : FrameScope) (frame : Nat) :
    (st.park reply scope frame).Accounts st reply := by
  have queued : answered (st.park reply scope frame).queued = waiting (st.pending scope) +
      waiting (if st.pendingFrame = some frame then none else st.pending scope.other) := by
    simp only [park, answered_append, answered_cancellation]
  have now : answered (Session.answerNow reply (st.park reply scope frame).reply) = 0 := rfl
  rw [Handled.Accounts, answered_append, queued, now, parked_eq _ scope, parked_eq st scope,
    pending_park, pending_other_park]
  split
  all_goals
    simp only [waiting_none, waiting_some]
    abel

theorem answerVariables_accounts (h : st.answerVariables d r = .ok handled) :
    handled.Accounts st r.replyTo := by
  have looksUp := st.looksUp_answerVariables d r
  rw [h] at looksUp
  cases looksUp with
  | lists => exact Handled.accounts_of_now rfl rfl rfl
  | parks scope frame => exact park_accounts ..

theorem answerEvaluate_accounts (h : st.answerEvaluate d r = .ok handled) :
    handled.Accounts st r.replyTo := by
  unfold answerEvaluate at h
  split at h
  · cases h
  split at h
  · cases h
    exact Handled.accounts_of_now (answered_map_console _) rfl rfl
  · unfold evaluateExpression at h
    split at h <;> cases h
    exact Handled.accounts_of_now rfl rfl rfl

end SessionState

namespace Session

theorem Accepts.accounts {s : Session} (h : s.Accepts d r handled) :
    handled.Accounts s.state r.replyTo := by
  obtain greets | ⟨-, plain | ⟨-, answered⟩ | ⟨-, answered⟩⟩ := h.work
  · exact greets.accounts
  · exact plain.accounts _
  · exact SessionState.answerVariables_accounts answered
  · exact SessionState.answerEvaluate_accounts answered

end Session

-- ---------------------------------------------------------------------------
-- Reports
-- ---------------------------------------------------------------------------

namespace SessionState

theorem resolve_accounts (st : SessionState) (d : Debuggee) (scope : FrameScope) (frame : Nat) :
    answered (st.resolve d scope frame).2 + (st.resolve d scope frame).1.parked = st.parked := by
  unfold resolve
  cases hp : st.pending scope with
  | none => simp
  | some reply =>
    have left : ((st.setPending scope none).watchRows d scope frame).2.parked =
        (st.setPending scope none).parked := parked_congr fun _ => rfl
    simp only [answered_cons_respond, answered_nil, add_zero]
    rw [left, parked_eq _ scope, parked_eq st scope, hp]
    simp

theorem parked_settle (st : SessionState) : st.settle.parked = st.parked := by
  unfold settle
  split <;> rfl

theorem refreshScope_accounts (st : SessionState) (d : Debuggee) (scope : FrameScope) :
    answered (st.refreshScope d scope).2 + (st.refreshScope d scope).1.parked = st.parked := by
  have hv : (st.setView scope { st.view scope with frame := st.currentFrame }).parked =
      st.parked := parked_congr fun _ => pending_setView_frame ..
  unfold refreshScope
  dsimp only
  split
  · simpa using hv
  · split
    · rw [parked_settle, resolve_accounts, hv]
    · simpa using hv

theorem report_accounts (st : SessionState) (d : Debuggee) (n : Notification) :
    answered (st.report d n).2 + (st.report d n).1.parked = st.parked := by
  obtain ⟨scope, frame, -, h⟩ | ⟨frame, -, h⟩ | ⟨⟨reason, exception, h⟩, events⟩ :=
    st.report_cases d n
  · rw [h]
    exact refreshScope_accounts ..
  · rw [h, answered_nil, zero_add]
    unfold refreshStack
    split <;> rfl
  · rw [h, answered_events events, zero_add]
    rfl

end SessionState

-- ---------------------------------------------------------------------------
-- Steps and runs
-- ---------------------------------------------------------------------------

namespace Session

theorem request_accounts (s : Session) (d : Debuggee) (directory : List DirectoryEntry)
    (r : Request) :
    answered (s.request d directory r).queued + (s.request d directory r).session.state.parked =
      s.state.parked + {r.replyTo} := by
  obtain ⟨refused, h⟩ | ⟨-, body, h⟩ | ⟨-, h⟩ | ⟨-, handled, accepted, h⟩ :=
    s.request_cases d directory r
  · rw [h]
    exact add_comm _ _
  · rw [h]
    exact add_comm _ _
  · rw [h]
    exact add_comm _ _
  · rw [h]
    exact accepted.accounts

theorem step_accounts (s : Session) (m : Moment) :
    answered (s.step m).queued + (s.step m).session.state.parked =
      s.state.parked + m.event.asked := by
  obtain ⟨d, event⟩ := m
  cases event with
  | request directory r => exact s.request_accounts d directory r
  | notification n =>
    refine Eq.trans ?_ (add_zero _).symm
    simp only [step, notify]
    split
    · exact zero_add _
    · exact s.state.report_accounts d n
  | terminate restart =>
    refine Eq.trans ?_ (add_zero _).symm
    simp only [step, terminate]
    split <;> exact zero_add _
  | connectionClosed =>
    refine Eq.trans ?_ (add_zero _).symm
    simp only [step, connectionClosed]
    split <;> exact zero_add _

theorem run_accounts (s : Session) (moments : List Moment) :
    answered (s.run moments).queued + (s.run moments).session.state.parked =
      s.state.parked + requested moments := by
  induction moments generalizing s with
  | nil => simp [rest, requested]
  | cons m moments ih =>
    have head := s.step_accounts m
    have tail := ih (s.step m).session
    simp only [run_cons_queued, run_cons_session, answered_append, requested, List.map_cons,
      List.sum_cons] at tail ⊢
    calc answered (s.step m).queued + answered ((s.step m).session.run moments).queued +
          ((s.step m).session.run moments).session.state.parked
        = answered (s.step m).queued + (answered ((s.step m).session.run moments).queued +
          ((s.step m).session.run moments).session.state.parked) := add_assoc ..
      _ = (answered (s.step m).queued + (s.step m).session.state.parked) +
          (moments.map fun m => m.event.asked).sum := by rw [tail, add_assoc]
      _ = s.state.parked + (m.event.asked + (moments.map fun m => m.event.asked).sum) := by
        rw [head, add_assoc]

/-- Whatever happens to a session from its start, in whatever order, the
responses it has sent and the requests it keeps waiting are together exactly
the requests it was sent. -/
theorem responses_conserved (id : SessionId) (port : Nat) (target : Option Target)
    (defaultLevels : Nat) (moments : List Moment) :
    answered ((fresh id port target defaultLevels).run moments).queued +
        ((fresh id port target defaultLevels).run moments).session.state.parked =
      requested moments :=
  (run_accounts _ moments).trans (zero_add _)

end Session

end DebugAdapter
