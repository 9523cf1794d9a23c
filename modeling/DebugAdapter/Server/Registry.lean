import DebugAdapter.Failure
import DebugAdapter.Script.Target

/-!
# The registry of listeners

Which port serves which target. Every attached target has a listener of its
own; the master listener is on the port that clients know, and stays open
without a target. Targets that are attached before the start wait in a queue.
An operation that fails leaves the registry as it was. What an operation does
besides, to debuggees and to sessions, is listed in the order it happens.
-/

namespace DebugAdapter

/-- The system's side of opening listeners at one moment. -/
structure Network where
  address : IpAddress
  /-- The port of a new listener, given the ports in use and the port that is
  asked for, zero for any port; or why there is none. -/
  bind : List Nat → Nat → Except String Nat

structure Listener where
  port : Nat
  target : Option Target
  /-- Sessions opened since the target was bound. -/
  sessions : List SessionId
  deriving Repr, DecidableEq

structure Registry where
  started : Bool
  disposed : Bool
  /-- By ascending port. -/
  listeners : List Listener
  /-- Targets that wait for the start. -/
  pending : List Target
  master : Option Nat
  deriving Repr, DecidableEq

structure RegistryChange where
  registry : Registry
  /-- Debuggees that are told that a debugger is there, or is gone. -/
  hooks : List (InstanceKey × Call)
  /-- Sessions to terminate, and whether their clients shall restart. -/
  endings : List (SessionId × Bool)
  deriving Repr, DecidableEq

/-- Why an operation fails, and what debuggees were told before it did. -/
structure RegistryFailure where
  failure : Failure
  hooks : List (InstanceKey × Call)
  deriving Repr, DecidableEq

def RegistryFailure.atOnce (f : Failure) : RegistryFailure := ⟨f, []⟩

def Target.attachHook (t : Target) : InstanceKey × Call := (t.key, .attachDebugger)

def Target.detachHook (t : Target) : InstanceKey × Call := (t.key, .detachDebugger)

namespace Registry

def empty : Registry := ⟨false, false, [], [], none⟩

-- ---------------------------------------------------------------------------
-- Questions
-- ---------------------------------------------------------------------------

def ports (r : Registry) : List Nat := r.listeners.map Listener.port

def listener? (r : Registry) (port : Nat) : Option Listener :=
  r.listeners.find? fun l => l.port = port

def portOf? (r : Registry) (id : TargetId) : Option Nat :=
  (r.listeners.find? fun l => l.target.map Target.id = some id).map Listener.port

def isAttached (r : Registry) (id : TargetId) : Bool :=
  r.pending.any (fun t => t.id = id) || (r.portOf? id).isSome

/-- The master listener's port, if it serves no target. -/
def freeMaster? (r : Registry) : Option Nat :=
  r.master.filter fun port => ((r.listener? port).any fun l => l.target.isNone)

def targets (r : Registry) : List (Target × Option Nat) :=
  (r.listeners.filterMap fun l => l.target.map fun t => (t, some l.port)) ++
    r.pending.map fun t => (t, none)

-- ---------------------------------------------------------------------------
-- Listeners
-- ---------------------------------------------------------------------------

/-- Adds a listener in the order of ports; it takes the place of one with its port. -/
def insertListener (l : Listener) : List Listener → List Listener
  | [] => [l]
  | m :: rest =>
    if l.port < m.port then l :: m :: rest
    else if l.port = m.port then l :: rest
    else m :: insertListener l rest

def startListener (r : Registry) (net : Network) (port : Nat) (target : Option Target) :
    Except Failure (Registry × Nat) :=
  match net.bind r.ports port with
  | .error cause => .error (.bind (net.address.withPort port) cause)
  | .ok bound =>
    .ok ({ r with listeners := insertListener ⟨bound, target, []⟩ r.listeners }, bound)

def stopListener (r : Registry) (port : Nat) : RegistryChange :=
  match r.listener? port with
  | none => ⟨r, [], []⟩
  | some l =>
    { registry := { r with
        listeners := r.listeners.filter fun m => m.port ≠ port
        master := if r.master = some port then none else r.master }
      hooks := l.target.toList.map Target.detachHook
      endings := l.sessions.map fun s => (s, false) }

/-- Changes the target of a listener. Its clients are told to restart; their
next connection finds the new target. -/
def rebind (r : Registry) (port : Nat) (target : Option Target) : RegistryChange :=
  match r.listener? port with
  | none => ⟨r, [], []⟩
  | some l =>
    { registry := { r with listeners := r.listeners.map fun m =>
        if m.port = port then ⟨m.port, target, []⟩ else m }
      hooks := l.target.toList.map Target.detachHook ++ target.toList.map Target.attachHook
      endings := l.sessions.map fun s => (s, true) }

-- ---------------------------------------------------------------------------
-- Operations
-- ---------------------------------------------------------------------------

def ensureAlive (r : Registry) : Except RegistryFailure Unit :=
  if r.disposed then .error (.atOnce .disposed) else .ok ()

/-- Offers a target; its port, none before the start. -/
def attach (r : Registry) (net : Network) (t : Target) :
    Except RegistryFailure (RegistryChange × Option Nat) := do
  r.ensureAlive
  if r.isAttached t.id then throw (.atOnce (.alreadyAttached t.id t.name))
  if !r.started then
    return (⟨{ r with pending := r.pending ++ [t] }, [t.attachHook], []⟩, none)
  match r.freeMaster? with
  | some port => return (r.rebind port (some t), some port)
  | none =>
    match r.startListener net 0 (some t) with
    | .ok (r, port) => return (⟨r, [t.attachHook], []⟩, some port)
    | .error failure => throw ⟨failure, [t.attachHook, t.detachHook]⟩

/-- Puts a debuggee in the place of a target. The name stays unless another
one is given. -/
def replace (r : Registry) (old : TargetId) (key : InstanceKey) (id : TargetId)
    (name : Option String) : Except RegistryFailure (RegistryChange × Option Nat) := do
  r.ensureAlive
  if id ≠ old && r.isAttached id then throw (.atOnce (.alreadyAttached id (name.getD "")))
  match r.pending.findIdx? fun t => t.id = old, r.pending.find? fun t => t.id = old with
  | some place, some previous =>
    let t : Target := ⟨key, id, name.getD previous.name⟩
    return (⟨{ r with pending := r.pending.set place t }, [previous.detachHook, t.attachHook], []⟩,
      none)
  | _, _ =>
    match r.portOf? old with
    | none => throw (.atOnce (.notAttached old))
    | some port =>
      let shown := Target.shownName ((r.listener? port).bind Listener.target)
      return (r.rebind port (some ⟨key, id, name.getD shown⟩), some port)

/-- Withdraws a target. Its listener closes, unless it is the master. -/
def detach (r : Registry) (id : TargetId) : Except RegistryFailure RegistryChange := do
  r.ensureAlive
  match r.pending.find? fun t => t.id = id with
  | some t => return ⟨{ r with pending := r.pending.eraseP fun t => t.id = id }, [t.detachHook], []⟩
  | none =>
    match r.portOf? id with
    | none => throw (.atOnce (.notAttached id))
    | some port => return if r.master = some port then r.rebind port none else r.stopListener port

/-- Opens a listener of its own for each of some targets; one that gets none is lost. -/
def startEach (net : Network) (r : Registry) : List Target → RegistryChange
  | [] => ⟨r, [], []⟩
  | t :: rest =>
    match r.startListener net 0 (some t) with
    | .ok (r, _) => startEach net r rest
    | .error _ =>
      let change := startEach net r rest
      { change with hooks := t.detachHook :: change.hooks }

/-- Opens the master listener, for the target that has waited longest, and
listeners for the others. -/
def start (r : Registry) (net : Network) (port : Nat) :
    Except RegistryFailure (RegistryChange × Nat) := do
  r.ensureAlive
  if r.started then throw (.atOnce .alreadyStarted)
  match r.startListener net port r.pending.head? with
  | .error failure => throw (.atOnce failure)
  | .ok (opened, master) =>
    let running := { opened with started := true, pending := [], master := some master }
    return (startEach net running r.pending.tail, master)

def stopEach (r : Registry) : List Nat → RegistryChange
  | [] => ⟨r, [], []⟩
  | port :: rest =>
    let first := r.stopListener port
    let others := stopEach first.registry rest
    ⟨others.registry, first.hooks ++ others.hooks, first.endings ++ others.endings⟩

def dispose (r : Registry) : RegistryChange :=
  if r.disposed then ⟨r, [], []⟩
  else
    let stopped := stopEach { r with disposed := true } r.ports
    ⟨{ stopped.registry with pending := [] },
      stopped.hooks ++ r.pending.map Target.detachHook, stopped.endings⟩

def listenerFailed (r : Registry) (port : Nat) : RegistryChange := r.stopListener port

/-- Enters a session that is opened on a port; none if nothing listens there. -/
def enterSession (r : Registry) (port : Nat) (session : SessionId) : Option Registry :=
  if (r.listener? port).isSome then
    some { r with listeners := r.listeners.map fun m =>
      if m.port = port then { m with sessions := m.sessions ++ [session] } else m }
  else none

def targetAt (r : Registry) (port : Nat) : Option Target :=
  (r.listener? port).bind Listener.target

end Registry

end DebugAdapter
