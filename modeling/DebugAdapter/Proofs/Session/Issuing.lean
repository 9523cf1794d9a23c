import DebugAdapter.Proofs.Session.Serving
import DebugAdapter.Proofs.Variables.Issues

/-!
# Handles in the responses of a session

Which numbers a client is shown to expand something, and which values they are
shown for. `step_issues`: every step issues the handles it shows from the
table of the session, unless it finds another call stack; then it starts a new
generation and shows none (`step_cleared`).
-/

namespace DebugAdapter

open ValueTable (issued nonzero numbers)

-- ---------------------------------------------------------------------------
-- Messages
-- ---------------------------------------------------------------------------

def Json.handle? (j : Json) : Option Int :=
  match j.get? "variablesReference" with
  | some (.int n) => some n
  | _ => none

/-- The numbers in a response: the one of its body, and those of the rows it
lists. -/
def Outgoing.handles : Outgoing → List Int
  | .response _ _ _ (some body) =>
    body.handle?.toList ++
      (((body.get? "variables").bind Json.asArr?).getD []).filterMap Json.handle?
  | _ => []

def shownHandles (queued : List Outgoing) : List Int := queued.flatMap Outgoing.handles

@[simp] theorem shownHandles_nil : shownHandles [] = [] := rfl

@[simp] theorem shownHandles_cons (m : Outgoing) (queued : List Outgoing) :
    shownHandles (m :: queued) = m.handles ++ shownHandles queued := rfl

@[simp] theorem shownHandles_append (a b : List Outgoing) :
    shownHandles (a ++ b) = shownHandles a ++ shownHandles b := List.flatMap_append

theorem Outgoing.Blank.handles {m : Outgoing} (blank : m.Blank) : m.handles = [] := by
  unfold Outgoing.handles
  split
  · obtain ⟨number, rows⟩ := blank
    simp [Json.handle?, number, rows]
  · rfl

theorem shownHandles_blank {queued : List Outgoing} (blank : ∀ m ∈ queued, m.Blank) :
    shownHandles queued = [] :=
  List.flatMap_eq_nil_iff.mpr fun m hm => (blank m hm).handles

theorem handle?_toJson (row : Variable) : row.toJson.handle? = some (row.handle : Int) := by
  unfold Variable.toJson Json.handle?
  cases row.type <;> simp [Json.get?_object, Json.lookup_cons]

theorem handles_rows (reply : ReplyTo) (rows : List Variable) :
    (Outgoing.respond reply (Json.object (SessionState.variablesMember rows))).handles =
      numbers rows := by
  have shown : Json.handle? ∘ Variable.toJson = fun row => some (row.handle : Int) :=
    funext handle?_toJson
  have listed : (rows.map Variable.toJson).filterMap Json.handle? = numbers rows := by
    rw [List.filterMap_map, shown, List.filterMap_eq_map']
    rfl
  simp only [Outgoing.respond, Outgoing.handles, SessionState.variablesMember, Json.handle?,
    Json.get?_object]
  simp [Json.lookup_cons, Json.asArr?, listed]

-- ---------------------------------------------------------------------------
-- What rows are about
-- ---------------------------------------------------------------------------

def Debuggee.watchSubjects (d : Debuggee) (scope : FrameScope) : List (Option Value) :=
  (d.watches scope.watchKind).map Watch.value

namespace SessionState

def rootSubjects (d : Debuggee) (scope : ScopeKind) (frame : Nat) : List (Option Value) :=
  match d.scopeValue scope frame with
  | .ok v => ValueTable.subjects v
  | .error _ => []

def scopeSubjects (d : Debuggee) (ref : VarRef) : List (Option Value) :=
  match ref.scope with
  | .locals => d.watchSubjects .locals
  | .closure => d.watchSubjects .closure
  | scope => rootSubjects d scope ref.frame

def variableSubjects (st : SessionState) (d : Debuggee) (r : Request) : List (Option Value) :=
  match VarRef.decode ((r.int? "variablesReference").getD 0) with
  | .error _ => []
  | .ok ref =>
    if ref.isRoot then scopeSubjects d ref
    else ((st.values.get? ref.slot).map ValueTable.subjects).getD []

def evaluateSubjects (d : Debuggee) (r : Request) : List (Option Value) :=
  match r.str? "expression" with
  | none => []
  | some expression =>
    match d.evaluate expression ((r.int? "frameId").getD 0).toNat with
    | .ok v => [some v]
    | .error _ => []

end SessionState

namespace Session

def workSubjects (st : SessionState) (d : Debuggee) (r : Request) : Work → List (Option Value)
  | .variables => st.variableSubjects d r
  | .evaluate => SessionState.evaluateSubjects d r
  | _ => []

/-- What the rows of a step's responses are about, row by row. -/
def subjects (s : Session) (m : Moment) : List (Option Value) :=
  match m.event with
  | .request _ r => workSubjects s.state m.debuggee r (.ofName r.command)
  | .notification (.watchesUpdated .locals _) => m.debuggee.watchSubjects .locals
  | .notification (.watchesUpdated .closure _) => m.debuggee.watchSubjects .closure
  | _ => []

def grants (s : Session) (m : Moment) : List (Int × Value) :=
  issued (shownHandles (s.step m).queued) (s.subjects m)

end Session

-- ---------------------------------------------------------------------------
-- Requests
-- ---------------------------------------------------------------------------

def Handled.Shows (h : Handled) (st : SessionState) (reply : ReplyTo)
    (vs : List (Option Value)) : Prop :=
  st.values.Shows (shownHandles (h.queued ++ Session.answerNow reply h.reply)) vs h.state.values

theorem Handled.shows_of_blank {h : Handled} {reply : ReplyTo}
    (blank : ∀ m ∈ h.queued ++ Session.answerNow reply h.reply, m.Blank)
    (kept : h.state.values = st.values) : h.Shows st reply vs := by
  rw [Shows, kept, shownHandles_blank blank]
  exact st.values.shows_of_zero nofun

theorem Handled.Plain.shows {h : Handled} (plain : h.Plain st) (reply : ReplyTo) :
    h.Shows st reply vs := by
  obtain ⟨reason, state⟩ := plain.state
  exact Handled.shows_of_blank (plain.blank reply) (by rw [state])

theorem Handled.Greets.shows {h : Handled} {reply : ReplyTo}
    (greets : h.Greets st reply) : h.Shows st reply vs := by
  obtain ⟨conventions, state⟩ := greets.state
  exact Handled.shows_of_blank greets.blank (by rw [state])

theorem Handled.shows_rows {rows : List Variable} (reply : ReplyTo) (calls : List Call)
    (h : st.values.Shows (numbers rows) vs st'.values) :
    (Handled.answer st' (SessionState.variablesMember rows) calls).Shows st reply vs := by
  simpa [Handled.Shows, answer, Session.answerNow, handles_rows] using h

namespace SessionState

variable {st : SessionState} {d : Debuggee}

@[simp] theorem values_setPending (scope : FrameScope) (reply : Option ReplyTo) :
    (st.setPending scope reply).values = st.values := by
  cases scope <;> rfl

theorem values_park (reply : ReplyTo) (scope : FrameScope) (frame : Nat) :
    (st.park reply scope frame).state.values = st.values := by
  unfold park
  dsimp only
  split <;> split <;> simp

theorem frameVariables_shows (reply : ReplyTo) (scope : FrameScope) (frame : Nat) :
    (st.frameVariables d reply scope frame).Shows st reply (d.watchSubjects scope) := by
  unfold frameVariables
  split
  · exact Handled.shows_rows reply [] (st.values.issues_watchRows ..).shows
  split
  · exact Handled.shows_rows reply [] (st.values.shows_of_zero (by simp [numbers]))
  · refine Handled.shows_of_blank (fun m hm => ?_) (values_park ..)
    obtain ⟨waiting, -, rfl⟩ | ⟨waiting, -, rfl⟩ : (∃ waiting, _ ∧ cancellation _ waiting = m) ∨
        ∃ waiting, _ ∧ cancellation _ waiting = m := by
      simpa [park, Session.answerNow] using hm
    all_goals exact Outgoing.blank_respondError ..

theorem rootVariables_shows (reply : ReplyTo) (scope : ScopeKind) (frame : Nat) :
    (st.rootVariables d scope frame).Shows st reply (rootSubjects d scope frame) := by
  unfold rootVariables rootSubjects
  cases d.scopeValue scope frame with
  | ok v => exact Handled.shows_rows reply _ (st.values.issues_expand ..).shows
  | error message =>
    exact Handled.shows_rows reply _ (st.values.shows_of_zero (by simp [numbers, Variable.leaf]))

theorem scopeVariables_shows (reply : ReplyTo) (ref : VarRef) :
    (st.scopeVariables d reply ref).Shows st reply (scopeSubjects d ref) := by
  obtain ⟨scope, frame, slot⟩ := ref
  cases scope with
  | locals => exact frameVariables_shows ..
  | closure => exact frameVariables_shows ..
  | global => exact rootVariables_shows ..
  | self => exact rootVariables_shows ..

theorem answerVariables_shows (h : st.answerVariables d r = .ok handled) :
    handled.Shows st r.replyTo (st.variableSubjects d r) := by
  unfold answerVariables at h
  unfold variableSubjects
  dsimp only at h
  cases hd : VarRef.decode ((r.int? "variablesReference").getD 0) with
  | error failure => simp only [hd] at h; cases h
  | ok ref =>
    simp only [hd] at h ⊢
    split at h
    · rename_i root
      cases h
      rw [if_pos root]
      exact scopeVariables_shows ..
    · rename_i leaf
      rw [if_neg leaf]
      cases hv : st.values.get? ref.slot with
      | none => simp only [hv] at h; cases h
      | some v =>
        simp only [hv] at h
        cases h
        exact Handled.shows_rows r.replyTo [] (st.values.issues_expand ..).shows

theorem runConsole_shows (command : ConsoleCommand) (reply : ReplyTo) :
    (st.runConsole d command).Shows st reply vs := by
  have printed : shownHandles (st.runConsole d command).queued = [] := by
    refine shownHandles_blank fun m hm => ?_
    obtain ⟨line, -, rfl⟩ := List.mem_map.mp hm
    trivial
  refine st.values.shows_of_zero ?_
  rw [shownHandles_append, printed]
  simp [runConsole, Session.answerNow, Outgoing.respond, Outgoing.handles, Json.handle?,
    Json.get?_object, Json.lookup_cons]

theorem handles_evaluated (reply : ReplyTo) (row : Variable) :
    (Outgoing.respond reply (Json.object ([("result", .str row.value)] ++
      Json.optional "type" (row.type.map .str) ++
        [("variablesReference", .int row.handle)]))).handles = [(row.handle : Int)] := by
  cases row.type <;>
    simp [Outgoing.respond, Outgoing.handles, Json.handle?, Json.get?_object, Json.lookup_cons,
      Json.optional]

theorem answerEvaluate_shows (h : st.answerEvaluate d r = .ok handled) :
    handled.Shows st r.replyTo (evaluateSubjects d r) := by
  unfold answerEvaluate at h
  unfold evaluateSubjects
  cases he : r.str? "expression" with
  | none => simp only [he] at h; cases h
  | some expression =>
    simp only [he] at h ⊢
    split at h
    · cases h
      exact runConsole_shows ..
    · unfold evaluateExpression at h
      cases hv : d.evaluate expression ((r.int? "frameId").getD 0).toNat with
      | error message => simp only [hv] at h; cases h
      | ok v =>
        simp only [hv] at h ⊢
        cases h
        have row := (ValueTable.Issues.done (t := (st.values.row .global
          (min ((r.int? "frameId").getD 0).toNat VarRef.maxFrame) expression v).2)).row
        simpa only [Handled.Shows, Handled.answer, Session.answerNow, List.nil_append,
          shownHandles_cons, handles_evaluated, shownHandles_nil, List.append_nil] using row.shows

end SessionState

namespace Session

theorem Accepts.shows {s : Session} (h : s.Accepts d r handled) :
    handled.Shows s.state r.replyTo (workSubjects s.state d r (.ofName r.command)) := by
  obtain greets | ⟨-, plain | ⟨isWork, answered⟩ | ⟨isWork, answered⟩⟩ := h.work
  · exact greets.shows
  · exact plain.shows _
  · rw [isWork]
    exact SessionState.answerVariables_shows answered
  · rw [isWork]
    exact SessionState.answerEvaluate_shows answered

end Session

-- ---------------------------------------------------------------------------
-- Reports
-- ---------------------------------------------------------------------------

namespace SessionState

theorem sameLocations_iff (a b : List CallFrame) :
    sameLocations a b = true ↔ a.map CallFrame.location = b.map CallFrame.location := by
  induction a generalizing b with
  | nil => cases b <;> simp [sameLocations]
  | cons x a ih =>
    cases b with
    | nil => simp [sameLocations]
    | cons y b => simp [sameLocations, ih]

@[simp] theorem values_setView (st : SessionState) (scope : FrameScope) (v : ScopeView) :
    (st.setView scope v).values = st.values := by
  cases scope <;> rfl

@[simp] theorem values_settle (st : SessionState) : st.settle.values = st.values := by
  unfold settle
  split <;> rfl

theorem resolve_shows (st : SessionState) (d : Debuggee) (scope : FrameScope) (frame : Nat) :
    st.values.Shows (shownHandles (st.resolve d scope frame).2) (d.watchSubjects scope)
      (st.resolve d scope frame).1.values := by
  unfold resolve
  cases st.pending scope with
  | none => exact st.values.shows_of_zero (by simp)
  | some reply =>
    simp only [watchRows, shownHandles_cons, handles_rows, shownHandles_nil, List.append_nil,
      values_setPending]
    exact (st.values.issues_watchRows ..).shows

theorem refreshScope_shows (st : SessionState) (d : Debuggee) (scope : FrameScope) :
    st.values.Shows (shownHandles (st.refreshScope d scope).2) (d.watchSubjects scope)
      (st.refreshScope d scope).1.values := by
  unfold refreshScope
  dsimp only
  split
  · exact (values_setView ..).symm ▸ st.values.shows_of_zero (by simp)
  split
  · have h := (st.setView scope { st.view scope with frame := st.currentFrame }).resolve_shows d
      scope
    simpa using h _
  · exact (values_setView ..).symm ▸ st.values.shows_of_zero (by simp)

end SessionState

namespace Session

/-- A report of the call stack, to a session that has not ended, finds another
number of frames or some frame at another location than was recorded. -/
def FindsOtherStack (s : Session) (m : Moment) : Prop :=
  s.terminated = false ∧ (∃ frame, m.event = .notification (.watchesUpdated .callStack frame)) ∧
    m.debuggee.callStack.map CallFrame.location ≠ s.state.callStack.map CallFrame.location

theorem step_cleared {s : Session} (attached : s.target.isSome) (h : s.FindsOtherStack m) :
    (s.step m).session.state.values = s.state.values.clear ∧
      shownHandles (s.step m).queued = [] := by
  obtain ⟨d, event⟩ := m
  obtain ⟨alive, ⟨frame, rfl⟩, differ⟩ := h
  have differ : SessionState.sameLocations d.callStack s.state.callStack = false := by
    rw [Bool.eq_false_iff, ne_eq, SessionState.sameLocations_iff]
    exact differ
  have there : s.target.isNone = false := by simpa using attached
  simp [step, notify, alive, there, SessionState.report, SessionState.refreshWatches,
    SessionState.refreshStack, differ]

theorem report_shows (s : Session) (alive : s.terminated = false)
    (h : ¬s.FindsOtherStack ⟨d, .notification n⟩) :
    s.state.values.Shows (shownHandles (s.state.report d n).2) (s.subjects ⟨d, .notification n⟩)
      (s.state.report d n).1.values := by
  obtain ⟨scope, frame, rfl, eq⟩ | ⟨frame, rfl, eq⟩ | ⟨⟨reason, exception, eq⟩, events⟩ :=
    s.state.report_cases d n
  · have subjects : s.subjects ⟨d, .notification (.watchesUpdated scope.watchKind frame)⟩ =
        d.watchSubjects scope := by cases scope <;> rfl
    rw [subjects, eq]
    exact SessionState.refreshScope_shows
      { s.state with currentFrame := frame <|> s.state.currentFrame } d scope
  · have same : SessionState.sameLocations d.callStack s.state.callStack = true := by
      rw [SessionState.sameLocations_iff]
      exact Decidable.not_not.mp fun differ => h ⟨alive, ⟨frame, rfl⟩, differ⟩
    rw [eq]
    simp only [SessionState.refreshStack, if_pos same]
    exact s.state.values.shows_of_zero nofun
  · rw [eq, shownHandles_blank fun m hm => (events m hm).blank]
    exact s.state.values.shows_of_zero nofun

theorem step_shows (s : Session) (h : ¬s.FindsOtherStack m) :
    s.state.values.Shows (shownHandles (s.step m).queued) (s.subjects m)
      (s.step m).session.state.values := by
  obtain ⟨kept, blank⟩ | ⟨directory, r, handled, event, -, accepted, answered⟩ |
    ⟨n, event, alive, state, queued⟩ := s.step_cases m
  · rw [kept, shownHandles_blank blank]
    exact s.state.values.shows_of_zero nofun
  · have subjects : s.subjects m = workSubjects s.state m.debuggee r (.ofName r.command) := by
      rw [Session.subjects, event]
    rw [subjects, answered]
    exact accepted.shows
  · have moment : (⟨m.debuggee, .notification n⟩ : Moment) = m := by rw [← event]
    have shows := s.report_shows (d := m.debuggee) (n := n) alive (by rwa [moment])
    rw [moment] at shows
    rw [state, queued]
    exact shows

end Session

end DebugAdapter
