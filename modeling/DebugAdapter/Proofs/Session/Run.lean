import DebugAdapter.Session.Basic

/-!
# Runs of a session

Requests, notifications and ends in any order. The debuggee may answer
differently each time, so each event comes with what the debuggee answers when
it happens. `request_passes` says which way a request takes, and `request_cases`
what it can lead to; what a run keeps is proved from these, step by step.
-/

namespace DebugAdapter

inductive Event where
  | request (directory : List DirectoryEntry) (r : Request)
  | notification (n : Notification)
  | terminate (restart : Bool)
  | connectionClosed

def Event.afterEnd : Event → List Outgoing
  | .request _ r => [.respondError r.replyTo 1105 "debug session has been terminated"]
  | .connectionClosed => [.close]
  | .notification _ | .terminate _ => []

/-- An event, and the debuggee at that time. -/
structure Moment where
  debuggee : Debuggee
  event : Event

namespace Session

def step (s : Session) (m : Moment) : Outcome :=
  match m.event with
  | .request directory r => s.request m.debuggee directory r
  | .notification n => s.notify m.debuggee n
  | .terminate restart => s.terminate m.debuggee restart
  | .connectionClosed => s.connectionClosed m.debuggee

theorem step_request (s : Session) (d : Debuggee) (directory : List DirectoryEntry)
    (r : Request) : s.step ⟨d, .request directory r⟩ = s.request d directory r := rfl

def run (s : Session) : List Moment → Outcome
  | [] => s.rest
  | m :: rest =>
    let first := s.step m
    let others := first.session.run rest
    ⟨others.session, first.calls ++ others.calls, first.queued ++ others.queued⟩

@[simp] theorem run_nil (s : Session) : s.run [] = s.rest := rfl

@[simp] theorem run_cons_session (s : Session) (m : Moment) (rest : List Moment) :
    (s.run (m :: rest)).session = ((s.step m).session.run rest).session := rfl

@[simp] theorem run_cons_queued (s : Session) (m : Moment) (rest : List Moment) :
    (s.run (m :: rest)).queued = (s.step m).queued ++ ((s.step m).session.run rest).queued := rfl

theorem run_append_session (s : Session) (a b : List Moment) :
    (s.run (a ++ b)).session = ((s.run a).session.run b).session := by
  induction a generalizing s with
  | nil => rfl
  | cons m a ih => exact ih (s.step m).session

theorem run_concat_session (s : Session) (moments : List Moment) (m : Moment) :
    (s.run (moments ++ [m])).session = ((s.run moments).session.step m).session :=
  run_append_session ..

-- ---------------------------------------------------------------------------
-- What a request can lead to
-- ---------------------------------------------------------------------------

/-- A request that is accepted, and what comes of it. -/
inductive Accepts (s : Session) (d : Debuggee) (r : Request) : Handled → Prop
  | greet : s.greet r = .ok h → Accepts s d r h
  | serve : s.state.initialized = true → s.serve d r (.ofName r.command) = .ok h → Accepts s d r h

theorem ofName_work {name : String} (h : Command.ofName name = .work w) : w = .ofName name := by
  unfold Command.ofName at h
  split at h <;> cases h
  rfl

theorem ofName_handshake {name : String} :
    Command.ofName name = .handshake ↔ name = "initialize" := by
  constructor
  · intro h
    unfold Command.ofName at h
    split at h <;> first | rfl | cases h
  · rintro rfl
    rfl

/-- The ways a request may take. -/
inductive Passes (s : Session) (d : Debuggee) (directory : List DirectoryEntry) (r : Request) :
    Outcome → Prop
  | ended : s.terminated = true → Passes s d directory r
      (s.refuse r (.atOnce ErrorId.sessionTerminated "debug session has been terminated"))
  | listing : s.terminated = false → r.command = directoryCommand → Passes s d directory r
      ⟨s, [], [.respond r.replyTo
        (Json.object [("sessions", .arr (directory.map DirectoryEntry.toJson))])]⟩
  | greeting : s.terminated = false → r.command = "initialize" →
      Passes s d directory r (s.answer r (s.greet r))
  | early : s.terminated = false → s.state.initialized = false → r.command ≠ "initialize" →
      r.command ≠ directoryCommand → Passes s d directory r (s.refuse r (notInitialized r.command))
  | leaving : s.terminated = false → s.state.initialized = true →
      r.command ≠ "initialize" → Command.ofName r.command = .leave →
      Passes s d directory r (s.leave d r)
  | work : s.terminated = false → s.state.initialized = true →
      r.command ≠ "initialize" → r.command ≠ directoryCommand →
      Command.ofName r.command ≠ .leave →
      Passes s d directory r (s.answer r (s.serve d r (.ofName r.command)))

theorem request_passes (s : Session) (d : Debuggee) (directory : List DirectoryEntry)
    (r : Request) : s.Passes d directory r (s.request d directory r) := by
  unfold request
  split
  · rename_i dead
    exact .ended dead
  rename_i alive
  replace alive : s.terminated = false := by simpa using alive
  split
  · rename_i elsewhere
    exact .listing alive elsewhere
  rename_i here
  split
  · rename_i handshake
    exact .greeting alive (ofName_handshake.mp handshake)
  · rename_i leave
    have notGreeting : r.command ≠ "initialize" := mt ofName_handshake.mpr (by rw [leave]; nofun)
    split
    · rename_i introduced
      exact .leaving alive introduced notGreeting leave
    · rename_i stranger
      exact .early alive (by simpa using stranger) notGreeting here
  · rename_i w work
    have notGreeting : r.command ≠ "initialize" := mt ofName_handshake.mpr (by rw [work]; nofun)
    split
    · rename_i introduced
      obtain rfl := ofName_work work
      exact .work alive introduced notGreeting here (by rw [work]; exact nofun)
    · rename_i stranger
      exact .early alive (by simpa using stranger) notGreeting here

theorem answer_cases (s : Session) (d : Debuggee) (r : Request) (result : Except Refused Handled)
    (ha : ∀ h, result = .ok h → Accepts s d r h) :
    (∃ refused, s.answer r result = s.refuse r refused) ∨
      ∃ h, Accepts s d r h ∧ s.answer r result = s.answer r (.ok h) := by
  cases result with
  | error refused => exact .inl ⟨refused, rfl⟩
  | ok h => exact .inr ⟨h, ha h rfl, rfl⟩

theorem request_cases (s : Session) (d : Debuggee) (directory : List DirectoryEntry)
    (r : Request) :
    (∃ refused, s.request d directory r = s.refuse r refused) ∨
      (s.terminated = false ∧ ∃ body, s.request d directory r =
        ⟨s, [], [.respond r.replyTo (Json.object [("sessions", body)])]⟩) ∨
      (s.terminated = false ∧ s.request d directory r = s.leave d r) ∨
      (s.terminated = false ∧
        ∃ h, Accepts s d r h ∧ s.request d directory r = s.answer r (.ok h)) := by
  have passes := s.request_passes d directory r
  generalize s.request d directory r = o at passes ⊢
  cases passes with
  | ended => exact .inl ⟨_, rfl⟩
  | listing alive => exact .inr (.inl ⟨alive, _, rfl⟩)
  | greeting alive =>
    obtain refused | accepted := answer_cases s d r (s.greet r) fun _ => .greet
    · exact .inl refused
    · exact .inr (.inr (.inr ⟨alive, accepted⟩))
  | early => exact .inl ⟨_, rfl⟩
  | leaving alive => exact .inr (.inr (.inl ⟨alive, rfl⟩))
  | work alive introduced =>
    obtain refused | accepted := answer_cases s d r _ fun _ => .serve introduced
    · exact .inl refused
    · exact .inr (.inr (.inr ⟨alive, accepted⟩))

-- ---------------------------------------------------------------------------
-- What a step keeps
-- ---------------------------------------------------------------------------

theorem step_ended {s : Session} (dead : s.terminated = true) (m : Moment) :
    s.step m = ⟨s, [], m.event.afterEnd⟩ := by
  obtain ⟨d, event⟩ := m
  cases event with
  | request directory r =>
    simp only [step, request, dead, if_true]
    rfl
  | notification n =>
    simp only [step, notify, dead, Bool.true_or, if_true]
    rfl
  | terminate restart =>
    simp only [step, terminate, dead, if_true]
    rfl
  | connectionClosed =>
    simp only [step, connectionClosed, dead, if_true]
    rfl

theorem step_keeps (s : Session) (m : Moment) :
    (s.step m).session.target = s.target ∧
      ((s.step m).session.terminated = false → s.terminated = false) := by
  obtain ⟨d, event⟩ := m
  cases event with
  | request directory r =>
    obtain ⟨refused, h⟩ | ⟨alive, body, h⟩ | ⟨alive, h⟩ | ⟨alive, handled, -, h⟩ :=
      s.request_cases d directory r
    all_goals rw [step_request, h]
    · exact ⟨rfl, fun h => h⟩
    · exact ⟨rfl, fun _ => alive⟩
    · exact ⟨rfl, fun _ => alive⟩
    · exact ⟨rfl, fun _ => alive⟩
  | notification n =>
    simp only [step, notify]
    split <;> exact ⟨rfl, fun h => h⟩
  | terminate restart =>
    simp only [step, terminate]
    split
    · exact ⟨rfl, fun h => h⟩
    · exact ⟨rfl, nofun⟩
  | connectionClosed =>
    simp only [step, connectionClosed]
    split
    · exact ⟨rfl, fun h => h⟩
    · exact ⟨rfl, nofun⟩

@[simp] theorem step_target (s : Session) (m : Moment) : (s.step m).session.target = s.target :=
  (s.step_keeps m).1

theorem alive_of_step {s : Session} (h : (s.step m).session.terminated = false) :
    s.terminated = false := (s.step_keeps m).2 h

@[simp] theorem run_target (s : Session) (moments : List Moment) :
    (s.run moments).session.target = s.target := by
  induction moments generalizing s with
  | nil => rfl
  | cons m moments ih => rw [run_cons_session, ih, step_target]

theorem alive_of_run {s : Session} (h : (s.run moments).session.terminated = false) :
    s.terminated = false := by
  induction moments generalizing s with
  | nil => exact h
  | cons m moments ih => exact alive_of_step (ih h)

end Session

-- ---------------------------------------------------------------------------
-- Small runs
-- ---------------------------------------------------------------------------

def Debuggee.holding (v : Value) (callStack : List CallFrame) : Debuggee where
  client := none
  errorFilter := ""
  callStack := callStack
  coroutineName := none
  watches _ := []
  scopeValue _ _ := .ok v
  evaluate _ _ := .ok v
  compileCondition _ := .ok ()
  findSource _ := none
  sourceInfo _ := none
  confirmedLines _ _ := []

def Request.withHandle (seq : Int) (command : String) (handle : Int) : Request :=
  ⟨seq, "request", command, .obj [("variablesReference", .int handle)]⟩

end DebugAdapter
