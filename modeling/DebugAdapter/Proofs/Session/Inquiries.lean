import DebugAdapter.Proofs.Breakpoints.Installed
import DebugAdapter.Proofs.Session.Scopes
import DebugAdapter.Proofs.Session.Serving
import DebugAdapter.Proofs.Variables.Codec

/-!
# Inquiries

An inquiry asks for locals or the closure of a frame, which a debuggee
materializes for one frame at a time. An attached session answers an inquiry
at once or parks it (`inquiry_cases`). `step_frames` says of every step what
becomes of the frames that a session keeps track of: parking and reports of
watches change them, nothing else does, and only parking asks for a frame.
-/

namespace DebugAdapter

structure Inquiry where
  scope : FrameScope
  frame : Nat
  reply : ReplyTo
  deriving Repr, DecidableEq

def Request.inquiry? (r : Request) : Option Inquiry :=
  if r.command = "variables" then
    match VarRef.decode ((r.int? "variablesReference").getD 0) with
    | .ok ⟨.locals, frame, 0⟩ => some ⟨.locals, frame, r.replyTo⟩
    | .ok ⟨.closure, frame, 0⟩ => some ⟨.closure, frame, r.replyTo⟩
    | _ => none
  else none

def Inquiry.request (q : Inquiry) : Request :=
  .withHandle q.reply.seq "variables" (VarRef.mk q.scope.kind q.frame 0).encode

def Outgoing.answers (reply : ReplyTo) : Outgoing → Bool
  | .response r success _ _ => success && r = reply
  | _ => false

def Call.frame? : Call → Option Nat
  | .queueAction (.viewFrame frame) => some frame
  | _ => none

def framesAsked (calls : List Call) : List Nat := calls.filterMap Call.frame?

structure SessionState.SameFrames (a b : SessionState) : Prop where
  current : a.currentFrame = b.currentFrame
  pendingFrame : a.pendingFrame = b.pendingFrame
  view : ∀ scope, a.view scope = b.view scope

namespace Session

def inquiry? (s : Session) (m : Moment) : Option Inquiry :=
  match m.event with
  | .request _ r => if s.phase = .attached then r.inquiry? else none
  | _ => none

/-- The inquiry that a step leaves without an answer. -/
def parked? (s : Session) (m : Moment) : Option Inquiry :=
  (s.inquiry? m).filter fun q => !(s.step m).queued.any (Outgoing.answers q.reply)

def Hears (s : Session) (m : Moment) (n : Notification) : Prop :=
  m.event = .notification n ∧ s.terminated = false ∧ s.target.isSome

def parks (s : Session) (q : Inquiry) : Outcome :=
  let handled := s.state.park q.reply q.scope q.frame
  ⟨{ s with state := handled.state }, handled.calls, handled.queued⟩

def refreshes (s : Session) (d : Debuggee) (scope : FrameScope) (frame : Option Nat) : Outcome :=
  let reported := { s.state with currentFrame := frame <|> s.state.currentFrame }
  let (state, queued) := reported.refreshScope d scope
  ⟨{ s with state }, [], queued⟩

end Session

-- ---------------------------------------------------------------------------
-- Calls
-- ---------------------------------------------------------------------------

@[simp] theorem framesAsked_nil : framesAsked [] = [] := rfl

@[simp] theorem framesAsked_append (a b : List Call) :
    framesAsked (a ++ b) = framesAsked a ++ framesAsked b := List.filterMap_append

theorem SessionState.SameFrames.refl (st : SessionState) : st.SameFrames st :=
  ⟨rfl, rfl, fun _ => rfl⟩

theorem SessionState.SameFrames.pending {a b : SessionState} (h : a.SameFrames b)
    (scope : FrameScope) : a.pending scope = b.pending scope :=
  congrArg ScopeView.pending (h.view scope)

theorem SessionState.refreshStack_sameFrames (st : SessionState) (d : Debuggee) :
    (st.refreshStack d).SameFrames st := by
  unfold refreshStack
  split
  · exact .refl st
  · exact ⟨rfl, rfl, fun _ => rfl⟩

theorem framesAsked_setBreakpoints (h : setBreakpoints d c arguments = .ok (breakpoints, calls)) :
    framesAsked calls = [] :=
  List.filterMap_eq_nil_iff.mpr
    (setBreakpoints_calls (fun _ => rfl) (fun _ => rfl) (fun _ _ => rfl) h)

theorem ConsoleCommand.mem_execute {command : ConsoleCommand}
    (made : call ∈ (command.execute d notify).calls) : ∃ pattern, call = .setErrorFilter pattern := by
  cases command with
  | setError pattern =>
    simp only [execute, setErrorFilter] at made
    split at made
    · exact ⟨pattern, List.mem_singleton.mp made⟩
    · cases made
  | notifyEnd argument =>
    simp only [execute, setNotify] at made
    split at made <;> cases made
  | _ => cases made

theorem ConsoleCommand.framesAsked_execute (command : ConsoleCommand) (d : Debuggee)
    (notify : Bool) : framesAsked (command.execute d notify).calls = [] := by
  refine List.filterMap_eq_nil_iff.mpr fun call made => ?_
  obtain ⟨pattern, rfl⟩ := mem_execute made
  rfl

-- ---------------------------------------------------------------------------
-- Inquiries
-- ---------------------------------------------------------------------------

theorem Request.inquiry?_eq_some {r : Request} :
    r.inquiry? = some q ↔ r.command = "variables" ∧ q.reply = r.replyTo ∧
      VarRef.decode ((r.int? "variablesReference").getD 0) =
        .ok ⟨q.scope.kind, q.frame, 0⟩ := by
  obtain ⟨scope, frame, reply⟩ := q
  unfold inquiry?
  by_cases command : r.command = "variables"
  · rw [if_pos command]
    split
    · rename_i named
      cases scope <;> simp [command, named, FrameScope.kind]
      constructor <;> rintro ⟨rfl, rfl⟩ <;> exact ⟨rfl, rfl⟩
    · rename_i named
      cases scope <;> simp [command, named, FrameScope.kind]
      constructor <;> rintro ⟨rfl, rfl⟩ <;> exact ⟨rfl, rfl⟩
    · rename_i other others
      cases scope <;> simp_all [FrameScope.kind]
  · simp [command]

theorem Request.int?_withHandle {n : Nat} (h : n ≤ VarRef.maxHandle) (seq : Int)
    (command : String) :
    (withHandle seq command n).int? "variablesReference" = some (n : Int) := by
  have low : Json.minInt64 ≤ (n : Int) := by
    unfold Json.minInt64
    omega
  have high : (n : Int) ≤ Json.maxInt64 := by
    unfold Json.maxInt64
    unfold VarRef.maxHandle at h
    omega
  simp [withHandle, int?, Json.get?, Json.lookup, Json.asInt64?, low, high]

namespace Session

theorem phase_attached {s : Session} : s.phase = .attached ↔
    s.terminated = false ∧ s.state.initialized = true ∧ s.target.isSome := by
  unfold phase
  cases s.terminated <;> cases s.state.initialized <;> cases s.target <;> simp

theorem inquiry?_eq_some {s : Session} : s.inquiry? m = some q ↔
    s.phase = .attached ∧ ∃ directory r, m.event = .request directory r ∧ r.inquiry? = some q := by
  unfold inquiry?
  cases m.event with
  | request directory r =>
    by_cases attached : s.phase = .attached
    · simp only [attached, if_true, true_and, Event.request.injEq]
      constructor
      · intro asks
        exact ⟨directory, r, ⟨rfl, rfl⟩, asks⟩
      · rintro ⟨_, _, ⟨rfl, rfl⟩, asks⟩
        exact asks
    · simp [attached]
  | _ => simp

theorem step_inquiry {s : Session} (h : s.inquiry? m = some q) :
    ∃ r, s.step m = s.answer r
      (.ok (s.state.frameVariables m.debuggee q.reply q.scope q.frame)) ∧ r.replyTo = q.reply := by
  obtain ⟨d, event⟩ := m
  obtain ⟨phase, directory, r, rfl, asks⟩ := inquiry?_eq_some.mp h
  obtain ⟨alive, introduced, attached⟩ := phase_attached.mp phase
  obtain ⟨command, reply, names⟩ := Request.inquiry?_eq_some.mp asks
  refine ⟨r, ?_, reply.symm⟩
  rw [step_request, request_variables alive introduced attached command, reply]
  congr 1
  simp only [SessionState.answerVariables, names, VarRef.isRoot, decide_true, if_true]
  cases q.scope <;> rfl

/-- An attached session answers an inquiry by the watches if they are those of
its frame, as far as the session knows. It answers it by nothing if there is no
such frame, and else parks it. -/
theorem inquiry_cases {s : Session} (h : s.inquiry? m = some q) :
    ((s.state.view q.scope).frame = some q.frame ∧ s.step m =
      ⟨{ s with state := (s.state.watchRows m.debuggee q.scope q.frame).2 }, [],
        [.respond q.reply (Json.object (s.state.watchRows m.debuggee q.scope q.frame).1)]⟩) ∨
    ((s.state.view q.scope).frame ≠ some q.frame ∧ m.debuggee.callStack.length ≤ q.frame ∧
      s.step m = ⟨s, [], [.respond q.reply (Json.object (SessionState.variablesMember []))]⟩) ∨
    ((s.state.view q.scope).frame ≠ some q.frame ∧ q.frame < m.debuggee.callStack.length ∧
      s.step m = s.parks q) := by
  obtain ⟨r, served, reply⟩ := step_inquiry h
  rw [served]
  unfold SessionState.frameVariables
  by_cases here : (s.state.view q.scope).frame = some q.frame
  · left
    simp [here, answer, answerNow, Handled.answer, reply]
  · right
    by_cases beyond : m.debuggee.callStack.length ≤ q.frame
    · left
      simp [here, beyond, answer, answerNow, Handled.answer, reply]
    · right
      refine ⟨here, Nat.lt_of_not_le beyond, ?_⟩
      simp [here, beyond, answer, parks, SessionState.park, answerNow]

end Session

theorem Outgoing.answers_cancellation (scope : FrameScope) (dropped reply : ReplyTo) :
    (SessionState.cancellation scope dropped).answers reply = false := rfl

namespace Session

theorem answers_parks (s : Session) (q : Inquiry) (reply : ReplyTo) :
    (s.parks q).queued.any (Outgoing.answers reply) = false := by
  rw [List.any_eq_false]
  intro msg hm
  obtain ⟨scope, dropped, rfl⟩ := s.state.mem_queued_park q.reply q.scope q.frame hm
  simp [Outgoing.answers_cancellation]

theorem parked?_eq_some {s : Session} : s.parked? m = some q ↔
    s.inquiry? m = some q ∧ (s.state.view q.scope).frame ≠ some q.frame ∧
      q.frame < m.debuggee.callStack.length := by
  rw [parked?, Option.filter_eq_some_iff]
  refine and_congr_right fun asked => ?_
  obtain ⟨here, step⟩ | ⟨away, beyond, step⟩ | ⟨away, there, step⟩ := inquiry_cases asked
  · simp [here, step, Outgoing.respond, Outgoing.answers]
  · simp [away, step, Outgoing.respond, Outgoing.answers, beyond]
  · simp [away, step, there, answers_parks]

theorem step_parked {s : Session} (h : s.parked? m = some q) : s.step m = s.parks q := by
  obtain ⟨asked, away, there⟩ := parked?_eq_some.mp h
  obtain ⟨here, -⟩ | ⟨-, beyond, -⟩ | ⟨-, -, step⟩ := inquiry_cases asked
  · exact absurd here away
  · omega
  · exact step

end Session

-- ---------------------------------------------------------------------------
-- Other requests
-- ---------------------------------------------------------------------------

/-- What comes of a request leaves the frames alone and asks for none. -/
inductive SessionState.Untouched (st : SessionState) : Except Refused Handled → Prop
  | refused : framesAsked refused.calls = [] → Untouched st (.error refused)
  | handled : handled.state.SameFrames st → framesAsked handled.calls = [] →
    Untouched st (.ok handled)

namespace SessionState

theorem rootVariables_untouched (st : SessionState) (d : Debuggee) (scope : ScopeKind)
    (frame : Nat) : st.Untouched (.ok (st.rootVariables d scope frame)) :=
  .handled ⟨rfl, rfl, fun _ => rfl⟩ rfl

theorem answerVariables_untouched {st : SessionState} (command : r.command = "variables")
    (other : r.inquiry? = none) : st.Untouched (st.answerVariables d r) := by
  rw [Request.inquiry?, if_pos command] at other
  unfold answerVariables
  dsimp only
  cases named : VarRef.decode ((r.int? "variablesReference").getD 0) with
  | error failure => exact .refused rfl
  | ok ref =>
    obtain ⟨scope, frame, slot⟩ := ref
    by_cases root : slot = 0
    · subst root
      cases scope with
      | locals => simp [named] at other
      | closure => simp [named] at other
      | global => exact rootVariables_untouched ..
      | self => exact rootVariables_untouched ..
    · simp only [VarRef.isRoot, root, decide_false, Bool.false_eq_true, if_false]
      cases st.values.get? slot with
      | none => exact .refused rfl
      | some v => exact .handled ⟨rfl, rfl, fun _ => rfl⟩ rfl

theorem answerEvaluate_untouched (st : SessionState) (d : Debuggee) (r : Request) :
    st.Untouched (st.answerEvaluate d r) := by
  unfold answerEvaluate
  cases r.str? "expression" with
  | none => exact .refused rfl
  | some expression =>
    dsimp only
    cases consoleCommand? r expression with
    | some command =>
      exact .handled ⟨rfl, rfl, fun _ => rfl⟩ (command.framesAsked_execute ..)
    | none =>
      simp only [evaluateExpression]
      cases d.evaluate expression ((r.int? "frameId").getD 0).toNat with
      | error message => exact .refused rfl
      | ok v => exact .handled ⟨rfl, rfl, fun _ => rfl⟩ rfl

theorem answerExceptionInfo_untouched (st : SessionState) (d : Debuggee) :
    st.Untouched (st.answerExceptionInfo d) := by
  unfold answerExceptionInfo
  split
  · exact .refused rfl
  · exact .handled (.refl st) rfl

end SessionState

namespace Session

theorem answerBreakpoints_untouched (st : SessionState) (d : Debuggee) (r : Request) :
    st.Untouched (answerBreakpoints st d r) := by
  unfold answerBreakpoints
  cases set : setBreakpoints d st.conventions r.arguments with
  | error failure => exact .refused rfl
  | ok result => exact .handled (.refl st) (framesAsked_setBreakpoints set)

theorem ofName_variables {name : String} (h : Work.ofName name = .variables) :
    name = "variables" := by
  unfold Work.ofName at h
  split at h <;> cases h
  rfl

theorem serveAttached_untouched {st : SessionState} (other : r.inquiry? = none) :
    st.Untouched (serveAttached st levels d r (.ofName r.command)) := by
  cases work : Work.ofName r.command with
  | «variables» => exact SessionState.answerVariables_untouched (ofName_variables work) other
  | evaluate => exact st.answerEvaluate_untouched d r
  | setBreakpoints => exact answerBreakpoints_untouched ..
  | exceptionInfo => exact st.answerExceptionInfo_untouched d
  | resume how => cases how <;> exact .handled ⟨rfl, rfl, fun _ => rfl⟩ rfl
  | source => exact .refused rfl
  | unknown => exact .refused rfl
  | _ => exact .handled ⟨rfl, rfl, fun _ => rfl⟩ rfl

theorem serveDetached_untouched (st : SessionState) (w : Work) :
    st.Untouched (serveDetached st w) := by
  unfold serveDetached
  split
  · exact .handled (.refl st) rfl
  · exact .refused rfl

theorem calls_ofRequest (h : Conventions.ofRequest r = .error refused) : refused.calls = [] := by
  unfold Conventions.ofRequest at h
  dsimp only at h
  split at h <;> cases h
  rfl

theorem greet_untouched (s : Session) (r : Request) : s.state.Untouched (s.greet r) := by
  unfold greet greetDetached greetAttached
  cases asked : Conventions.ofRequest r with
  | error refused =>
    have quiet := congrArg framesAsked (calls_ofRequest asked)
    cases s.target <;> exact .refused quiet
  | ok conventions => cases s.target <;> exact .handled ⟨rfl, rfl, fun _ => rfl⟩ rfl

def Untouched (s : Session) (o : Outcome) : Prop :=
  o.session.state.SameFrames s.state ∧ framesAsked o.calls = []

theorem untouched_of_result {s : Session} (h : s.state.Untouched result) (r : Request) :
    s.Untouched (s.answer r result) := by
  cases h with
  | refused quiet => exact ⟨.refl _, quiet⟩
  | handled same quiet => exact ⟨same, quiet⟩

theorem framesAsked_unbind (s : Session) (d : Debuggee) : framesAsked (s.unbind d) = [] := by
  unfold unbind
  split <;> rfl

theorem request_untouched {s : Session} (other : s.inquiry? ⟨d, .request directory r⟩ = none) :
    s.Untouched (s.request d directory r) := by
  unfold request
  split
  · exact ⟨.refl _, rfl⟩
  rename_i alive
  split
  · exact ⟨.refl _, rfl⟩
  split
  · exact untouched_of_result (s.greet_untouched r) r
  · split
    · exact ⟨.refl _, s.framesAsked_unbind d⟩
    · exact ⟨.refl _, rfl⟩
  · rename_i w work
    split
    · rename_i introduced
      refine untouched_of_result ?_ r
      unfold serve
      split
      · rename_i attached
        have phase : s.phase = .attached :=
          phase_attached.mpr ⟨by simpa using alive, introduced, attached⟩
        have plain : r.inquiry? = none := by simpa [inquiry?, phase] using other
        rw [ofName_work work]
        exact serveAttached_untouched plain
      · exact serveDetached_untouched ..
    · exact ⟨.refl _, rfl⟩

-- ---------------------------------------------------------------------------
-- Steps
-- ---------------------------------------------------------------------------

theorem not_hears {s : Session} (h : m.event ≠ .notification n) : ¬s.Hears m n :=
  fun hears => h hears.1

theorem step_hears {s : Session} (h : s.Hears m n) :
    s.step m = ⟨{ s with state := (s.state.report m.debuggee n).1 }, [],
      (s.state.report m.debuggee n).2⟩ := by
  obtain ⟨event, alive, attached⟩ := h
  have listens : ¬(s.terminated || s.target.isNone) := by
    cases target : s.target <;> simp_all
  simp only [step, event, notify, if_neg listens]

theorem step_refreshes {s : Session} (h : s.Hears m (.watchesUpdated scope.watchKind frame)) :
    s.step m = s.refreshes m.debuggee scope frame := by
  rw [step_hears h]
  cases scope <;> rfl

theorem step_request_frames (s : Session) (d : Debuggee) (directory : List DirectoryEntry)
    (r : Request) : let m : Moment := ⟨d, .request directory r⟩
    (∃ q, s.parked? m = some q) ∨ s.parked? m = none ∧ s.Untouched (s.step m) := by
  intro m
  cases asked : s.inquiry? m with
  | none => exact .inr ⟨by simp [parked?, asked], request_untouched asked⟩
  | some q =>
    cases parked : s.parked? m with
    | some p => exact .inl ⟨p, rfl⟩
    | none =>
      refine .inr ⟨rfl, ?_⟩
      obtain ⟨-, step⟩ | ⟨-, -, step⟩ | ⟨away, there, -⟩ := inquiry_cases asked
      · rw [step]
        exact ⟨⟨rfl, rfl, fun _ => rfl⟩, rfl⟩
      · rw [step]
        exact ⟨.refl _, rfl⟩
      · cases parked.symm.trans (parked?_eq_some.mpr ⟨asked, away, there⟩)

/-- A step parks an inquiry, or takes in a report of the watches of a scope or
of the call stack, or leaves the frames alone. -/
theorem step_frames (s : Session) (m : Moment) :
    (∃ q, s.parked? m = some q ∧ s.step m = s.parks q) ∨
      s.parked? m = none ∧
        ((∃ scope frame, s.Hears m (.watchesUpdated scope.watchKind frame) ∧
            s.step m = s.refreshes m.debuggee scope frame) ∨
          (∃ frame, s.Hears m (.watchesUpdated .callStack frame) ∧
            s.step m = ⟨{ s with state := { s.state with
              currentFrame := frame <|> s.state.currentFrame }.refreshStack m.debuggee }, [], []⟩) ∨
          (∀ kind frame, ¬s.Hears m (.watchesUpdated kind frame)) ∧ s.Untouched (s.step m)) := by
  obtain ⟨d, event⟩ := m
  cases event with
  | request directory r =>
    obtain ⟨q, parked⟩ | ⟨answered, untouched⟩ := s.step_request_frames d directory r
    · exact .inl ⟨q, parked, step_parked parked⟩
    · exact .inr ⟨answered, .inr (.inr ⟨fun _ _ => not_hears (by simp), untouched⟩)⟩
  | terminate restart =>
    refine .inr ⟨rfl, .inr (.inr ⟨fun _ _ => not_hears (by simp), ?_⟩)⟩
    simp only [step, terminate]
    split
    · exact ⟨.refl _, rfl⟩
    · exact ⟨.refl _, s.framesAsked_unbind d⟩
  | connectionClosed =>
    refine .inr ⟨rfl, .inr (.inr ⟨fun _ _ => not_hears (by simp), ?_⟩)⟩
    simp only [step, connectionClosed]
    split
    · exact ⟨.refl _, rfl⟩
    · exact ⟨.refl _, s.framesAsked_unbind d⟩
  | notification n =>
    refine .inr ⟨rfl, ?_⟩
    by_cases deaf : s.terminated || s.target.isNone
    · refine .inr (.inr ⟨fun kind frame hears => ?_, ?_⟩)
      · obtain ⟨-, alive, attached⟩ := hears
        simp [alive, Option.isNone_iff_eq_none] at deaf
        simp [deaf] at attached
      · simp only [step, notify, deaf, if_true]
        exact ⟨.refl _, rfl⟩
    · have hears : s.Hears ⟨d, .notification n⟩ n := by
        cases target : s.target <;> simp_all [Hears]
      have step := step_hears hears
      cases n with
      | watchesUpdated kind frame =>
        cases kind with
        | locals => exact .inl ⟨.locals, frame, hears, step⟩
        | closure => exact .inl ⟨.closure, frame, hears, step⟩
        | callStack => exact .inr (.inl ⟨frame, hears, step⟩)
      | _ =>
        rw [step]
        exact .inr (.inr ⟨fun _ _ => not_hears (by simp), ⟨rfl, rfl, fun _ => rfl⟩, rfl⟩)

end Session

end DebugAdapter
