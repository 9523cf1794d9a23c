import DebugAdapter.Config.Settings
import DebugAdapter.Protocol.Stream
import DebugAdapter.Server.Connection
import DebugAdapter.Server.Registry
import DebugAdapter.Session.Hub

/-!
# The debug server

Listeners, connections and sessions together. A connection gets a session for
the target that its port serves at that moment; connection and session have
one number. An operation on the registry first changes the registry, then
terminates the sessions that it leaves without their target. What the clients
get is listed in the order it is written.
-/

namespace DebugAdapter

open Text (Bytes)

inductive Tracing where
  | off
  | connections
  | messages
  deriving Repr, DecidableEq

/-- The tracing that settings ask for, given that the trace file, if there is
one, can be written. -/
def Tracing.ofSettings (s : Settings) : Tracing :=
  if s.traceFile.isNone then .off else if s.traceMessages then .messages else .connections

structure Server where
  settings : Settings
  address : IpAddress
  tracing : Tracing
  registry : Registry
  hub : Hub
  /-- By number; sessions have the same numbers. -/
  connections : List Connection

inductive Delivery where
  | message (envelope : Json)
  | closed
  deriving Repr

structure Activity where
  /-- Calls to debuggees. -/
  calls : List (InstanceKey × Call)
  /-- What clients get, by connection. -/
  sent : List (SessionId × Delivery)
  trace : List String

namespace Activity

def none : Activity := ⟨[], [], []⟩

def append (a b : Activity) : Activity :=
  ⟨a.calls ++ b.calls, a.sent ++ b.sent, a.trace ++ b.trace⟩

instance : Append Activity := ⟨append⟩

def ofTrace (lines : List String) : Activity := ⟨[], [], lines⟩

end Activity

namespace Server

/-- A server that has not been started; `tracing` is what can be traced. -/
def create (settings : Settings) (tracing : Tracing) (debuggees : InstanceKey → Debuggee) :
    Except SettingsError Server := do
  settings.validate
  let address ← settings.address
  return ⟨settings, address, tracing, .empty, .start debuggees, []⟩

def network (s : Server) (bind : List Nat → Nat → Except String Nat) : Network :=
  ⟨s.address, bind⟩

def connection? (s : Server) (id : SessionId) : Option Connection := s.connections[id]?

def setConnection (s : Server) (id : SessionId) (c : Connection) : Server :=
  { s with connections := s.connections.set id c }

def directory (s : Server) : List DirectoryEntry :=
  s.registry.listeners.map fun l => ⟨l.port, Target.shownName l.target⟩

def portOf (s : Server) (id : SessionId) : Nat := ((s.hub.session? id).map Session.port).getD 0

/-- A line of the trace about a message, if messages are traced. -/
def traceOf (s : Server) (id : SessionId) (direction : Direction) (payload : Bytes) : Activity :=
  if s.tracing = .messages then .ofTrace [traceLine (s.portOf id) direction payload] else .none

-- ---------------------------------------------------------------------------
-- Writing
-- ---------------------------------------------------------------------------

def deliver (s : Server) (id : SessionId) (item : Outgoing) : Server × Activity :=
  match s.connection? id with
  | none => (s, .none)
  | some c =>
    let (c', message) := c.write item
    let s := s.setConnection id c'
    match message with
    | some m => (s, ⟨[], [(id, .message m)], []⟩ ++ s.traceOf id .outgoing (Framing.payloadOf m))
    | none => (s, if c'.closed && !c.closed then ⟨[], [(id, .closed)], []⟩ else .none)

def deliverAll (s : Server) : List (SessionId × Outgoing) → Server × Activity
  | [] => (s, .none)
  | (id, item) :: rest =>
    let (s, first) := s.deliver id item
    let (s, others) := s.deliverAll rest
    (s, first ++ others)

def settle (s : Server) (result : Hub × Effects) : Server × Activity :=
  let (hub, effects) := result
  let (s, activity) := { s with hub }.deliverAll effects.queued
  (s, ⟨effects.calls, [], []⟩ ++ activity)

-- ---------------------------------------------------------------------------
-- Registry operations
-- ---------------------------------------------------------------------------

/-- Takes over a change of the registry: debuggees are told, then the sessions
without their target are terminated. -/
def apply (s : Server) (change : RegistryChange) : Server × Activity :=
  let (s, activity) := { s with registry := change.registry }.settle
    (s.hub.terminateAll change.endings)
  (s, ⟨change.hooks, [], []⟩ ++ activity)

def applyResult (s : Server) (result : Except RegistryFailure (RegistryChange × α)) :
    Server × Activity × Except Failure α :=
  match result with
  | .ok (change, a) => let (s, activity) := s.apply change; (s, activity, .ok a)
  | .error e => (s, ⟨e.hooks, [], []⟩, .error e.failure)

def attach (s : Server) (net : Network) (t : Target) :
    Server × Activity × Except Failure (Option Nat) :=
  s.applyResult (s.registry.attach net t)

def replace (s : Server) (old : TargetId) (key : InstanceKey) (id : TargetId)
    (name : Option String) : Server × Activity × Except Failure (Option Nat) :=
  s.applyResult (s.registry.replace old key id name)

def detach (s : Server) (id : TargetId) : Server × Activity × Except Failure Unit :=
  s.applyResult ((s.registry.detach id).map fun change => (change, ()))

def start (s : Server) (net : Network) : Server × Activity × Except Failure Nat :=
  s.applyResult (s.registry.start net s.settings.port)

def dispose (s : Server) : Server × Activity := s.apply s.registry.dispose

def listenerFailed (s : Server) (port : Nat) : Server × Activity :=
  s.apply (s.registry.listenerFailed port)

-- ---------------------------------------------------------------------------
-- Connections
-- ---------------------------------------------------------------------------

/-- A client connects to a port; the number of its connection, none if nothing
listens there. `peer` is the client's address. -/
def connect (s : Server) (port : Nat) (peer : String) : Server × Activity × Option SessionId :=
  let id := s.connections.length
  match s.registry.enterSession port id with
  | none => (s, .none, none)
  | some registry =>
    let hub := s.hub.openSession port (s.registry.targetAt port) s.settings.defaultLevels
    let s := { s with registry, hub, connections := s.connections ++ [.fresh] }
    let line := "[" ++ Decimal.digitsText port ++ "] client connected: " ++ peer
    (s, if s.tracing = .off then .none else .ofTrace [line], some id)

def handlePayload (s : Server) (id : SessionId) (payload : Bytes) : Server × Activity :=
  let trace := s.traceOf id .incoming payload
  match Request.ofPayload? payload with
  | none => (s, trace)
  | some r =>
    let (s, activity) := s.settle (s.hub.request id s.directory r)
    (s, trace ++ activity)

/-- Handles the whole frames that have come in, until the stream is closed.
Each step takes a frame off, so as many steps as there are bytes suffice. -/
def readFrames (s : Server) (id : SessionId) : Nat → Server × Activity
  | 0 => (s, .none)
  | fuel + 1 =>
    match s.connection? id with
    | none => (s, .none)
    | some c =>
      if c.closed then (s, .none)
      else match c.next with
        | .incomplete => (s, .none)
        | .frame payload rest =>
          let s := s.setConnection id { c with received := rest }
          let (s, first) := s.handlePayload id payload
          let (s, others) := s.readFrames id fuel
          (s, first ++ others)
        | _ => s.settle (s.hub.connectionClosed id)

def receive (s : Server) (id : SessionId) (bytes : Bytes) (ended : Bool) : Server × Activity :=
  match s.connection? id with
  | none => (s, .none)
  | some c =>
    let c := c.receive bytes ended
    (s.setConnection id c).readFrames id (c.received.length + 1)

def notify (s : Server) (key : InstanceKey) (n : Notification) : Server × Activity × Bool :=
  match (s.hub.debuggees key).client with
  | none => (s, .none, false)
  | some id => let (s, activity) := s.settle (s.hub.notify id n); (s, activity, true)

end Server

end DebugAdapter
