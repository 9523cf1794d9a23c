import DebugAdapter.Proofs.Server.Operations
import DebugAdapter.Proofs.Server.Steps
import DebugAdapter.Proofs.Session.Run

/-!
# Runs of a server

Operations on the registry, connections, what clients send and what debuggees
report, in any order. An operation leads to a change of the registry, and one
that fails to a change that leaves it as it was (`outcome`); all that clients
and debuggees do comes down to steps of sessions (`Serves`).
-/

namespace DebugAdapter

-- ---------------------------------------------------------------------------
-- Outcomes of operations
-- ---------------------------------------------------------------------------

def RegistryChange.ofResult (r : Registry) : Except RegistryFailure RegistryChange → RegistryChange
  | .ok change => change
  | .error e => ⟨r, e.hooks, []⟩

namespace Registry

def outcome (r : Registry) : RegistryOperation → RegistryChange
  | .attach net t => .ofResult r ((r.attach net t).map Prod.fst)
  | .replace old key id name => .ofResult r ((r.replace old key id name).map Prod.fst)
  | .detach id => .ofResult r (r.detach id)
  | .start net port => .ofResult r ((r.start net port).map Prod.fst)
  | .dispose => r.dispose
  | .listenerFailed port => r.listenerFailed port
  | .enterSession port session => ⟨(r.enterSession port session).getD r, [], []⟩

theorem registry_outcome (r : Registry) (op : RegistryOperation) :
    (r.outcome op).registry = r.after op := by
  cases op with
  | attach net t =>
    simp only [outcome, after, attempt]
    cases r.attach net t <;> rfl
  | replace old key id name =>
    simp only [outcome, after, attempt]
    cases r.replace old key id name <;> rfl
  | detach id =>
    simp only [outcome, after, attempt]
    cases r.detach id <;> rfl
  | start net port =>
    simp only [outcome, after, attempt]
    cases r.start net port <;> rfl
  | _ => rfl

end Registry

-- ---------------------------------------------------------------------------
-- Events
-- ---------------------------------------------------------------------------

/-- What may happen to a server; listeners are opened on the network as it is then. -/
inductive ServerEvent where
  | attach (bind : List Nat → Nat → Except String Nat) (t : Target)
  | replace (old : TargetId) (key : InstanceKey) (id : TargetId) (name : Option String)
  | detach (id : TargetId)
  | start (bind : List Nat → Nat → Except String Nat)
  | dispose
  | listenerFailed (port : Nat)
  | connect (port : Nat) (peer : String)
  | receive (id : SessionId) (bytes : Text.Bytes) (ended : Bool)
  | notify (key : InstanceKey) (n : Notification)
  /-- A debuggee answers differently from now on. -/
  | refresh (key : InstanceKey) (answers : Debuggee)

namespace ServerEvent

def Safe : ServerEvent → Prop
  | .attach bind _ | .start bind => OpensUnused bind
  | _ => True

def operation? (s : Server) : ServerEvent → Option RegistryOperation
  | .attach bind t => some (.attach (s.network bind) t)
  | .replace old key id name => some (.replace old key id name)
  | .detach id => some (.detach id)
  | .start bind => some (.start (s.network bind) s.settings.port)
  | .dispose => some .dispose
  | .listenerFailed port => some (.listenerFailed port)
  | _ => none

theorem operation?_ne {s : Server} {e : ServerEvent} (is : e.operation? s = some op)
    (port : Nat) (id : SessionId) : op ≠ .enterSession port id := by
  cases e <;> cases is <;> simp

theorem Safe.operation {s : Server} {e : ServerEvent} (safe : e.Safe)
    (is : e.operation? s = some op) : op.Safe := by
  cases e <;> cases is <;> exact safe

end ServerEvent

namespace Activity

theorem append_assoc (a b c : Activity) : a ++ b ++ c = a ++ (b ++ c) := by
  show mk _ _ _ = mk _ _ _
  congr 1 <;> exact List.append_assoc ..

@[simp] theorem none_append (a : Activity) : none ++ a = a := rfl

@[simp] theorem append_none (a : Activity) : a ++ none = a := by
  show mk _ _ _ = mk _ _ _
  congr 1 <;> exact List.append_nil _

end Activity

namespace Server

def step (s : Server) : ServerEvent → Server × Activity
  | .attach bind t => let (s, activity, _) := s.attach (s.network bind) t; (s, activity)
  | .replace old key id name => let (s, activity, _) := s.replace old key id name; (s, activity)
  | .detach id => let (s, activity, _) := s.detach id; (s, activity)
  | .start bind => let (s, activity, _) := s.start (s.network bind); (s, activity)
  | .dispose => s.dispose
  | .listenerFailed port => s.listenerFailed port
  | .connect port peer => let (s, activity, _) := s.connect port peer; (s, activity)
  | .receive id bytes ended => s.receive id bytes ended
  | .notify key n => let (s, activity, _) := s.notify key n; (s, activity)
  | .refresh key answers => ({ s with hub := s.hub.refresh key answers }, .none)

def run (s : Server) : List ServerEvent → Server × Activity
  | [] => (s, .none)
  | e :: rest =>
    let (s, first) := s.step e
    let (s, others) := s.run rest
    (s, first ++ others)

theorem run_cons (s : Server) (e : ServerEvent) (rest : List ServerEvent) :
    s.run (e :: rest) =
      (((s.step e).1.run rest).1, (s.step e).2 ++ ((s.step e).1.run rest).2) := rfl

theorem run_append (s : Server) (a b : List ServerEvent) :
    s.run (a ++ b) =
      (((s.run a).1.run b).1, (s.run a).2 ++ ((s.run a).1.run b).2) := by
  induction a generalizing s with
  | nil => rfl
  | cons e a ih => simp only [List.cons_append, run_cons, ih, Activity.append_assoc]

-- ---------------------------------------------------------------------------
-- What a step comes down to
-- ---------------------------------------------------------------------------

theorem apply_unchanged (s : Server) (hooks : List (InstanceKey × Call)) :
    s.apply ⟨s.registry, hooks, []⟩ = (s, ⟨hooks, [], []⟩) := by
  simp only [apply, Hub.terminateAll, settle, deliverAll, Effects.none]
  exact congrArg (Prod.mk s) (Activity.append_none _)

theorem applyResult_eq {α : Type} (s : Server)
    (result : Except RegistryFailure (RegistryChange × α)) :
    ((s.applyResult result).1, (s.applyResult result).2.1) =
      s.apply (.ofResult s.registry (result.map Prod.fst)) := by
  cases result with
  | ok change => rfl
  | error e => exact (s.apply_unchanged e.hooks).symm

theorem step_operation {s : Server} {e : ServerEvent} (is : e.operation? s = some op) :
    s.step e = s.apply (s.registry.outcome op) := by
  cases e <;> cases is <;> try rfl
  · exact s.applyResult_eq _
  · exact s.applyResult_eq _
  · refine (s.applyResult_eq _).trans (congrArg s.apply ?_)
    simp only [Registry.outcome]
    cases s.registry.detach _ <;> rfl
  · exact s.applyResult_eq _

/-- What clients and debuggees bring about: bytes come in, and sessions take steps. -/
inductive Serves : Server → Server → Activity → Prop
  | traces (lines : List String) : Serves s s (.ofTrace lines)
  | reads {s : Server} {id : SessionId} {c : Connection} (received : Text.Bytes) (ended : Bool) :
    s.connection? id = some c → Serves s (s.setConnection id { c with received, ended }) .none
  | acts {s : Server} {result : Hub × Effects} (id : SessionId) (event : Event) :
    result = (s.hub.act id fun session d => session.step ⟨d, event⟩) →
    Serves s (s.settle result).1 (s.settle result).2
  | trans : Serves s m a → Serves m t b → Serves s t (a ++ b)

theorem Serves.rest (s : Server) : Serves s s .none := .traces []

theorem serves_traceOf (s : Server) (id : SessionId) (direction : Direction)
    (payload : Text.Bytes) : Serves s s (s.traceOf id direction payload) := by
  unfold traceOf
  split
  · exact .traces _
  · exact .rest s

theorem serves_handlePayload (s : Server) (id : SessionId) (payload : Text.Bytes) :
    Serves s (s.handlePayload id payload).1 (s.handlePayload id payload).2 := by
  unfold handlePayload
  split
  · exact s.serves_traceOf ..
  · rename_i r _
    exact (s.serves_traceOf ..).trans (.acts id (.request s.directory r) rfl)

theorem serves_readFrames (s : Server) (id : SessionId) (fuel : Nat) :
    Serves s (s.readFrames id fuel).1 (s.readFrames id fuel).2 := by
  induction fuel generalizing s with
  | zero => exact .rest s
  | succ fuel ih =>
    unfold readFrames
    split
    · exact .rest s
    rename_i c there
    split
    · exact .rest s
    split
    · exact .rest s
    · rename_i payload rest _
      have first := (Serves.reads rest c.ended there).trans (serves_handlePayload _ id payload)
      exact first.trans (ih _)
    · exact .acts id .connectionClosed rfl

theorem serves_receive (s : Server) (id : SessionId) (bytes : Text.Bytes) (ended : Bool) :
    Serves s (s.receive id bytes ended).1 (s.receive id bytes ended).2 := by
  unfold receive
  split
  · exact .rest s
  · rename_i c there
    exact (Serves.reads _ _ there).trans (serves_readFrames ..)

theorem serves_notify (s : Server) (key : InstanceKey) (n : Notification) :
    Serves s (s.notify key n).1 (s.notify key n).2.1 := by
  unfold notify
  split
  · exact .rest s
  · rename_i id _
    exact .acts id (.notification n) rfl

inductive Proceeds (s : Server) : ServerEvent → Prop
  | changes : e.operation? s = some op → s.step e = s.apply (s.registry.outcome op) → Proceeds s e
  | connects (port : Nat) (peer : String) : Proceeds s (.connect port peer)
  | refreshes (key : InstanceKey) (answers : Debuggee) : Proceeds s (.refresh key answers)
  | serves : e.operation? s = none → Serves s (s.step e).1 (s.step e).2 → Proceeds s e

theorem step_proceeds (s : Server) (e : ServerEvent) : s.Proceeds e := by
  cases is : e.operation? s with
  | some op => exact .changes is (step_operation is)
  | none =>
    cases e with
    | connect port peer => exact .connects port peer
    | refresh key answers => exact .refreshes key answers
    | receive id bytes ended => exact .serves is (s.serves_receive ..)
    | notify key n => exact .serves is (s.serves_notify ..)
    | _ => cases is

-- ---------------------------------------------------------------------------
-- The registry
-- ---------------------------------------------------------------------------

theorem Serves.registry (serves : Serves s t a) : t.registry = s.registry := by
  induction serves with
  | traces => rfl
  | reads => rfl
  | acts => exact (settle_keeps ..).1
  | trans _ _ first second => exact second.trans first

theorem registry_connect (s : Server) (port : Nat) (peer : String) :
    (s.connect port peer).1.registry =
      s.registry.after (.enterSession port s.connections.length) := by
  simp only [connect, Registry.after, Registry.attempt]
  split
  · rename_i absent
    rw [absent, Option.getD_none]
  · rename_i entered
    rw [entered, Option.getD_some]

def Regular (s : Server) : Prop := ∃ begun ended, s.registry.Regular begun ended

theorem regular_create {chosen : Settings} {traced : Tracing}
    (created : create chosen traced debuggees = .ok s) : s.Regular :=
  ⟨_, _, registry_create created ▸ Registry.regular_empty⟩

theorem Regular.sound {s : Server} : s.Regular → s.registry.Sound
  | ⟨_, _, regular⟩ => regular.sound

theorem Regular.step {s : Server} (regular : s.Regular) {e : ServerEvent} (safe : e.Safe) :
    (s.step e).1.Regular := by
  obtain ⟨begun, ended, regular⟩ := regular
  obtain ⟨is, step⟩ | ⟨port, peer⟩ | ⟨key, answers⟩ | ⟨-, serves⟩ := s.step_proceeds e
  · rw [step, Regular, registry_apply, Registry.registry_outcome]
    exact ⟨_, _, Registry.after_regular regular (safe.operation is)⟩
  · have safe : (RegistryOperation.enterSession port s.connections.length).Safe := trivial
    exact ⟨_, _, (s.registry_connect port peer).symm ▸ Registry.after_regular regular safe⟩
  · exact ⟨_, _, regular⟩
  · exact ⟨_, _, serves.registry.symm ▸ regular⟩

end Server

def idleServer : Server := ⟨.standard, .v4 127 0 0 1, .off, .empty, .start fun _ => .silent, []⟩

theorem create_idleServer :
    Server.create .standard .off (fun _ => .silent) = .ok idleServer := rfl

end DebugAdapter
