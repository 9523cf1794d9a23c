import DebugAdapter.Proofs.Session.Introduction
import DebugAdapter.Proofs.Session.Refusals
import DebugAdapter.Proofs.StackTrace.Paging

/-!
# Frames, scopes and variables

A client takes the identity of a frame from a stack trace and asks for its scopes, and it
takes a handle from these and asks for variables. Identities below the length of the stack
are depths, so frames of no activation have no scopes; the handle of a scope has the slot
that no stored value has, so it stays good while values come and go
(`scopes_fit_frames`).
-/

namespace DebugAdapter

-- ---------------------------------------------------------------------------
-- Scopes of a frame
-- ---------------------------------------------------------------------------

/-- Scopes are listed as the four of a frame, under handles that name them. -/
structure ListsScopes (frame : Nat) (scopes : List Json) (handles : List Int) : Prop where
  names : scopes.map (·.get? "name") =
    ["Local", "Closure", "Self", "Global"].map fun name => some (.str name)
  numbers : scopes.map (·.get? "variablesReference") = handles.map fun n => some (.int n)
  distinct : handles.Nodup
  named : handles.map VarRef.decode =
    [.locals, .closure, .self, .global].map fun kind => .ok ⟨kind, frame, 0⟩

namespace SessionState

def scopeHandles (frame : Nat) : List Int :=
  shownScopes.map fun s => ((VarRef.mk s.1 frame 0).encode : Int)

/-- A frame has scopes if its identity is a depth that a handle has room for. -/
def HasScopes (d : Debuggee) (frame : Int) : Prop :=
  0 ≤ frame ∧ frame < d.callStack.length ∧ frame ≤ VarRef.maxFrame

instance (d : Debuggee) (frame : Int) : Decidable (HasScopes d frame) :=
  inferInstanceAs (Decidable (_ ∧ _))

theorem frameScopes_of_not {d : Debuggee} {frame : Int} (bare : ¬HasScopes d frame) :
    frameScopes d frame = [] := by
  refine if_pos ?_
  simp only [HasScopes] at bare
  omega

theorem frameScopes_eq {d : Debuggee} {frame : Int} (has : HasScopes d frame) :
    frameScopes d frame =
      shownScopes.map fun s => scopeJson s.1 s.2 ⟨s.1, frame.toNat, 0⟩ := by
  obtain ⟨low, real, fits⟩ := has
  have root (kind : ScopeKind) : VarRef.root? kind frame.toNat = some ⟨kind, frame.toNat, 0⟩ :=
    if_pos ⟨Int.toNat_le.mpr fits, Nat.zero_le _⟩
  rw [frameScopes, if_neg (by omega)]
  simp only [root, Option.map_some]
  rfl

theorem frameScopes_ne_nil {d : Debuggee} {frame : Int} :
    frameScopes d frame ≠ [] ↔ HasScopes d frame := by
  constructor
  · exact fun some => Decidable.not_not.mp fun bare => some (frameScopes_of_not bare)
  · intro has
    rw [frameScopes_eq has]
    exact nofun

theorem decode_scopeHandles {frame : Nat} (fits : frame ≤ VarRef.maxFrame) :
    (scopeHandles frame).map VarRef.decode =
      [.locals, .closure, .self, .global].map fun kind => .ok ⟨kind, frame, 0⟩ := by
  have read (kind : ScopeKind) := VarRef.decode_encode (r := ⟨kind, frame, 0⟩) ⟨fits, Nat.zero_le _⟩
  simp [scopeHandles, shownScopes, read]

theorem listsScopes {d : Debuggee} {frame : Int} (has : HasScopes d frame) :
    ListsScopes frame.toNat (frameScopes d frame) (scopeHandles frame.toNat) := by
  have named := decode_scopeHandles (Int.toNat_le.mpr has.2.2)
  rw [frameScopes_eq has]
  refine ⟨?_, ?_, ?_, named⟩
  · simp [shownScopes, scopeJson, Json.get?_object, Json.lookup_cons, ScopeKind.name]
  · simp [shownScopes, scopeHandles, scopeJson, Json.get?_object, Json.lookup_cons]
  · -- equal handles would be read as one scope
    have apart : ((scopeHandles frame.toNat).map VarRef.decode).Nodup := by
      rw [named]
      simp
    exact List.Pairwise.of_map VarRef.decode (fun _ _ other same => other (congrArg _ same)) apart

end SessionState

-- ---------------------------------------------------------------------------
-- Failures
-- ---------------------------------------------------------------------------

def Outgoing.failure? : Outgoing → Option Int
  | .response _ false _ (some body) =>
    match (body.get? "error").bind (·.get? "id") with
    | some (.int id) => some id
    | _ => none
  | _ => none

theorem Outgoing.failure?_respondError (reply : ReplyTo) (id : Int) (text : String) :
    (respondError reply id text).failure? = some id := by
  simp [respondError, failure?, Json.get?_object, Json.lookup_cons]

theorem SessionState.Cancels.failure? {st : SessionState} {msg : Outgoing}
    (cancels : st.Cancels msg) : msg.failure? = some ErrorId.requestCancelled := by
  obtain ⟨scope, waiting, -, rfl⟩ := cancels
  exact Outgoing.failure?_respondError ..

theorem SessionState.succeeds_report (st : SessionState) (d : Debuggee) (n : Notification)
    {reply : ReplyTo} : ∀ msg ∈ (st.report d n).2, msg.fails reply = false := by
  have resolved (st : SessionState) (scope : FrameScope) (frame : Nat) :
      ∀ msg ∈ (st.resolve d scope frame).2, msg.fails reply = false := by
    unfold resolve
    split
    · exact List.forall_mem_nil _
    · exact List.forall_mem_singleton.mpr rfl
  obtain ⟨scope, frame, -, report⟩ | ⟨frame, -, report⟩ | ⟨-, events⟩ := st.report_cases d n
  · rw [report]
    unfold refreshScope
    dsimp only
    split
    · exact List.forall_mem_nil _
    split
    · exact resolved _ _ _
    · exact List.forall_mem_nil _
  · rw [report]
    exact List.forall_mem_nil _
  · intro msg queued
    obtain ⟨name, body, rfl⟩ := events msg queued
    rfl

namespace Session

variable {s : Session} {d : Debuggee} {directory : List DirectoryEntry} {r : Request}

/-- A failed response cancels a request that has waited, or the request of the step has
the same number and is refused. -/
theorem cancels_or_refuses {reply : ReplyTo} {msg : Outgoing} (queued : msg ∈ (s.step m).queued)
    (failed : msg.fails reply = true) :
    s.state.Cancels msg ∨ ∃ directory r, m.event = .request directory r ∧ r.replyTo = reply := by
  obtain ⟨d, event⟩ := m
  cases event with
  | request directory r =>
    obtain ⟨refused, outcome⟩ | ⟨-, body, outcome⟩ | ⟨-, outcome⟩ | ⟨-, handled, accepted, outcome⟩ :=
      s.request_cases d directory r
    all_goals rw [step_request, outcome] at queued
    · obtain rfl := List.mem_singleton.mp queued
      exact .inr ⟨directory, r, rfl, by simpa [Outgoing.respondError, Outgoing.fails] using failed⟩
    · obtain rfl := List.mem_singleton.mp queued
      cases failed
    · simp only [leave, terminatedEvent, List.mem_cons, List.not_mem_nil, or_false] at queued
      obtain rfl | rfl | rfl := queued <;> cases failed
    · exact .inl (accepted.succeeds msg queued failed)
  | notification n =>
    simp only [step, notify] at queued
    split at queued
    · cases queued
    · rw [s.state.succeeds_report d n msg queued] at failed
      cases failed
  | terminate restart =>
    simp only [step, terminate] at queued
    split at queued
    · cases queued
    · simp only [terminatedEvent, List.mem_cons, List.not_mem_nil, or_false] at queued
      obtain rfl | rfl := queued <;> cases failed
  | connectionClosed =>
    simp only [step, connectionClosed] at queued
    split at queued <;> (obtain rfl := List.mem_singleton.mp queued; cases failed)

theorem cancelled_of_fails {reply : ReplyTo} (moments : List Moment)
    (own : ∀ m ∈ moments, ∀ directory r, m.event = .request directory r → r.replyTo ≠ reply) :
    ∀ msg ∈ (s.run moments).queued, msg.fails reply = true →
      msg.failure? = some ErrorId.requestCancelled := by
  induction moments generalizing s with
  | nil => exact List.forall_mem_nil _
  | cons m moments ih =>
    obtain ⟨first, others⟩ := List.forall_mem_cons.mp own
    refine List.forall_mem_append.mpr ⟨fun msg queued failed => ?_, ih others⟩
    obtain cancels | ⟨directory, r, asked, same⟩ := cancels_or_refuses queued failed
    · exact cancels.failure?
    · exact absurd same (first directory r asked)

-- ---------------------------------------------------------------------------
-- Requests
-- ---------------------------------------------------------------------------

def Gives (s : Session) (d : Debuggee) (r : Request) (members : List (String × Json)) : Prop :=
  ∀ directory, (s.step ⟨d, .request directory r⟩).queued = [.respond r.replyTo (Json.object members)]

/-- A request is answered at once or waits. In no case is it told that its handle is invalid,
not later either as long as no other request has its number. -/
structure Serves (s : Session) (d : Debuggee) (directory : List DirectoryEntry) (r : Request) :
    Prop where
  taken : (∃ body, (s.step ⟨d, .request directory r⟩).queued = [.respond r.replyTo body]) ∨
    ∃ scope, (s.step ⟨d, .request directory r⟩).session.state.pending scope = some r.replyTo
  valid : ∀ rest, (∀ m ∈ rest, ∀ directory other, m.event = .request directory other →
      other.replyTo ≠ r.replyTo) →
    ∀ msg ∈ (s.run (⟨d, .request directory r⟩ :: rest)).queued, msg.fails r.replyTo = true →
      msg.failure? ≠ some 1201

def windowOf (s : Session) (d : Debuggee) (r : Request) : List StackFrame :=
  stackTrace d s.state.conventions ((r.int? "startFrame").getD 0).toNat
    (((r.int? "levels").map Int.toNat).getD s.defaultLevels)

theorem request_attached (attached : s.phase = .attached)
    (named : Command.ofName r.command = .work w) (other : r.command ≠ directoryCommand) :
    s.request d directory r = s.answer r (serveAttached s.state s.defaultLevels d r w) := by
  obtain ⟨alive, introduced, target⟩ := phase_attached.mp attached
  simp [request, alive, other, named, introduced, serve, target]

theorem gives_stackTrace (attached : s.phase = .attached) (command : r.command = "stackTrace") :
    s.Gives d r [("stackFrames", .arr ((s.windowOf d r).map StackFrame.toJson)),
      ("totalFrames", .int (totalFrames d))] := by
  intro directory
  rw [step_request, request_attached attached (by rw [command]; rfl) (by rw [command]; decide)]
  simp only [windowOf, serveAttached, SessionState.answerStackTrace]
  cases r.int? "levels" <;> rfl

theorem gives_scopes (attached : s.phase = .attached) (command : r.command = "scopes") :
    s.Gives d r
      [("scopes", .arr (SessionState.frameScopes d ((r.int? "frameId").getD 0)))] := by
  intro directory
  rw [step_request, request_attached attached (by rw [command]; rfl) (by rw [command]; decide)]
  rfl

theorem step_scopeVariables (attached : s.phase = .attached) (command : r.command = "variables")
    (names : VarRef.decode ((r.int? "variablesReference").getD 0) = .ok ⟨kind, frame, 0⟩)
    (d : Debuggee) (directory : List DirectoryEntry) :
    s.step ⟨d, .request directory r⟩ =
      s.answer r (.ok (s.state.scopeVariables d r.replyTo ⟨kind, frame, 0⟩)) := by
  obtain ⟨alive, introduced, target⟩ := phase_attached.mp attached
  rw [step_request, request_variables alive introduced target command]
  simp [SessionState.answerVariables, names, VarRef.isRoot]

theorem serves_scope (attached : s.phase = .attached) (command : r.command = "variables")
    (names : VarRef.decode ((r.int? "variablesReference").getD 0) = .ok ⟨kind, frame, 0⟩) :
    s.Serves d directory r := by
  have inquires (scope : FrameScope) (kind : scope.kind = kind) :
      (∃ body, (s.step ⟨d, .request directory r⟩).queued = [.respond r.replyTo body]) ∨
        ∃ scope, (s.step ⟨d, .request directory r⟩).session.state.pending scope =
          some r.replyTo := by
    have asked : s.inquiry? ⟨d, .request directory r⟩ = some ⟨scope, frame, r.replyTo⟩ :=
      inquiry?_eq_some.mpr ⟨attached, directory, r, rfl,
        Request.inquiry?_eq_some.mpr ⟨command, rfl, by rw [names, kind]⟩⟩
    obtain ⟨-, step⟩ | ⟨-, -, step⟩ | ⟨-, -, step⟩ := inquiry_cases asked
    · exact .inl ⟨_, by rw [step]⟩
    · exact .inl ⟨_, by rw [step]⟩
    · exact .inr ⟨scope, by rw [step]; exact SessionState.pending_park ..⟩
  have step := step_scopeVariables attached command names d directory
  constructor
  · cases kind with
    | locals => exact inquires .locals rfl
    | closure => exact inquires .closure rfl
    | global => exact .inl ⟨_, by rw [step]; rfl⟩
    | self => exact .inl ⟨_, by rw [step]; rfl⟩
  · intro rest own
    refine List.forall_mem_append.mpr ⟨fun msg queued failed => ?_, fun msg queued failed => ?_⟩
    · rw [step] at queued
      have succeeds : s.state.Succeeds r.replyTo (s.answer r (.ok _)).queued :=
        (s.state.succeeds_scopeVariables d r.replyTo ⟨kind, frame, 0⟩).append
          (s.state.succeeds_answerNow r.replyTo _)
      rw [(succeeds msg queued failed).failure?]
      decide
    · rw [cancelled_of_fails rest own msg queued failed]
      decide

-- ---------------------------------------------------------------------------
-- Frames, scopes and variables
-- ---------------------------------------------------------------------------

theorem attached_run {moments : List Moment} (attached : s.phase = .attached)
    (alive : (s.run moments).session.terminated = false) :
    (s.run moments).session.phase = .attached := by
  obtain ⟨-, introduced, target⟩ := phase_attached.mp attached
  exact phase_attached.mpr ⟨alive, initialized_run introduced, by rwa [run_target]⟩

/-- In an attached session the frames of a stack trace that have scopes are those of
activations at a depth that a handle has room for. As long as the stack is the same, a
request for the scopes of any other identity is answered by none. The scopes of a frame are
four, with handles of their own that name them; as long as the session goes on, no request
for variables with one of these is told that its handle is invalid. -/
theorem scopes_fit_frames (id : SessionId) (port : Nat) (target : Target) (defaultLevels : Nat)
    (before : List Moment) :
    let s := ((fresh id port (some target) defaultLevels).run before).session
    s.phase = .attached →
    (∀ (d : Debuggee) (t : Request), t.command = "stackTrace" →
      s.Gives d t [("stackFrames", .arr ((s.windowOf d t).map StackFrame.toJson)),
        ("totalFrames", .int (totalFrames d))] ∧
      ∀ f ∈ s.windowOf d t, ∀ directory between (e : Debuggee) (q : Request),
        let now := (s.run (⟨d, .request directory t⟩ :: between)).session
        now.terminated = false → e.callStack = d.callStack →
        q.command = "scopes" → q.int? "frameId" = some (f.id : Int) →
        ∃ scopes, now.Gives e q [("scopes", .arr scopes)] ∧
          (scopes ≠ [] ↔ f ∈ realFrames d s.state.conventions ∧ f.id ≤ 254)) ∧
    ∀ (d : Debuggee) (q : Request), q.command = "scopes" →
      let frame : Int := (q.int? "frameId").getD 0
      ∃ scopes, s.Gives d q [("scopes", .arr scopes)] ∧
        (scopes ≠ [] ↔ 0 ≤ frame ∧ frame < d.callStack.length ∧ frame ≤ 254) ∧
        (scopes ≠ [] → ∃ handles, ListsScopes frame.toNat scopes handles ∧
          ∀ directory after, let later := (s.run (⟨d, .request directory q⟩ :: after)).session
            later.terminated = false → ∀ e (v : Request), ∀ n ∈ handles,
              v.command = "variables" → v.int? "variablesReference" = some n →
              later.Serves e directory v) := by
  intro s attached
  refine ⟨fun d t command => ⟨gives_stackTrace attached command, ?_⟩, fun d q command => ?_⟩
  · intro f shown directory between e q now alive same asks frame
    have here := gives_scopes (d := e) (attached_run attached alive) asks
    rw [frame, Option.getD_some] at here
    refine ⟨_, here, ?_⟩
    rw [SessionState.frameScopes_ne_nil, mem_realFrames_iff d _ _ _ shown,
      SessionState.HasScopes, same, VarRef.maxFrame]
    omega
  · intro frame
    refine ⟨_, gives_scopes attached command, SessionState.frameScopes_ne_nil, fun some => ?_⟩
    have has := SessionState.frameScopes_ne_nil.mp some
    have lists := SessionState.listsScopes has
    refine ⟨_, lists, ?_⟩
    intro directory after later alive e v n shown asks handle
    have read : VarRef.decode n ∈ ([.locals, .closure, .self, .global] : List ScopeKind).map
        fun kind => .ok ⟨kind, frame.toNat, 0⟩ := by
      rw [← lists.named]
      exact List.mem_map_of_mem shown
    obtain ⟨kind, -, names⟩ := List.mem_map.mp read
    have given : VarRef.decode ((v.int? "variablesReference").getD 0) =
        .ok ⟨kind, frame.toNat, 0⟩ := by
      rw [handle, Option.getD_some, names]
    exact serves_scope (attached_run attached alive) asks given

/-- Of three frames on a stack of one only the first has scopes. The handle of its locals
is served after the stack has changed, too. -/
theorem scopes_of_only_frame :
    let d := Debuggee.holding (.tuple []) [⟨none, none, 0, 0, 0⟩]
    let e := Debuggee.holding (.tuple []) [⟨none, some ⟨0, 1, 1, 1, 1, false⟩, 0, 0, 0⟩]
    let s := ((fresh 1 4711 (some ⟨0, 7, "main"⟩) 20).run
      [⟨d, .request [] (.withHandle 1 "initialize" 0)⟩]).session
    let t : Request := ⟨2, "request", "stackTrace", .null⟩
    let asks (id : Int) : Request := ⟨3, "request", "scopes", .obj [("frameId", .int id)]⟩
    let now := (s.run [⟨d, .request [] t⟩]).session
    let later := (s.run [⟨d, .request [] (asks 0)⟩,
      ⟨e, .notification (.watchesUpdated .callStack none)⟩]).session
    s.phase = .attached ∧ (s.windowOf d t).map (·.id) = [0, 1, 2] ∧
      now.Gives d (asks 2) [("scopes", .arr [])] ∧
      later.Serves e [] (.withHandle 4 "variables" 1075838976) := by
  intro d e s t asks now later
  have attached : s.phase = .attached := by decide +kernel
  obtain ⟨traces, lists⟩ := scopes_fit_frames 1 4711 ⟨0, 7, "main"⟩ 20
    [⟨d, .request [] (.withHandle 1 "initialize" 0)⟩] attached
  refine ⟨attached, by decide +kernel, ?_, ?_⟩
  · obtain ⟨-, bare⟩ := traces d t rfl
    have native : StackFrame.label 2 "(native)" ∈ s.windowOf d t := by decide +kernel
    obtain ⟨scopes, gives, has⟩ := bare _ native [] [] d (asks 2) (by decide +kernel) rfl rfl
      (by decide +kernel)
    have none : scopes = [] := by
      refine Decidable.byContradiction fun some => ?_
      exact absurd (has.mp some).1 (by decide +kernel)
    rw [← none]
    exact gives
  · obtain ⟨scopes, -, has, handled⟩ := lists d (asks 0) rfl
    obtain ⟨handles, shown, serves⟩ := handled (has.mpr (by decide +kernel))
    have locals : .ok ⟨.locals, 0, 0⟩ ∈ handles.map VarRef.decode := by
      rw [shown.named]
      exact List.mem_cons_self
    obtain ⟨n, listed, names⟩ := List.mem_map.mp locals
    obtain ⟨-, rfl⟩ := VarRef.decode_eq_ok.mp names
    exact serves [] [⟨e, .notification (.watchesUpdated .callStack none)⟩] (by decide +kernel) e
      (.withHandle 4 "variables" 1075838976) _ listed rfl (by decide +kernel)

end Session

end DebugAdapter
