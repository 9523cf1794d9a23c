import DebugAdapter.CommandLine.Launch
import Std.Async.Signal
import Std.Async.TCP
import Std.Sync.Mutex

/-!
# The program

Launches a server and serves clients until the program is interrupted. All
that is decided is decided by the server; here bytes are moved.
-/

namespace DebugAdapter.Program

open Std.Async
open Std.Async.TCP (Socket.Server Socket.Client)
open Std.Net (SocketAddress)

structure Resources where
  log : IO.Ref IO.FS.Stream
  trace : IO.Ref (Option IO.FS.Handle)
  listener : IO.Ref (Option Socket.Server)

/-- A server that runs, with the sockets of its clients by connection. -/
structure Running where
  server : Std.Mutex (Server × Array Socket.Client)
  resources : Resources

-- ---------------------------------------------------------------------------
-- The system
-- ---------------------------------------------------------------------------

def cause : IO.Error → String
  | .noFileOrDirectory .. => "No such file or directory (os error 2)"
  | .permissionDenied .. => "Permission denied (os error 13)"
  | .inappropriateType .. => "Is a directory (os error 21)"
  | .resourceBusy .. => "Address already in use (os error 98)"
  | .unsupportedOperation .. => "Cannot assign requested address (os error 99)"
  | e => toString e

def attempt (action : IO α) : IO (Except String α) :=
  try return .ok (← action) catch e => return .error (cause e)

def socketAddress (address : IpAddress) (port : Nat) : SocketAddress :=
  match address with
  | .v4 a b c d => .v4 ⟨.ofParts a.toUInt8 b.toUInt8 c.toUInt8 d.toUInt8, port.toUInt16⟩
  | .v6 groups =>
    let group (i : Nat) : UInt16 := (groups.getD i 0).toUInt16
    .v6 ⟨.ofParts (group 0) (group 1) (group 2) (group 3) (group 4) (group 5) (group 6) (group 7),
      port.toUInt16⟩

def portOf : SocketAddress → Nat
  | .v4 a => a.port.toNat
  | .v6 a => a.port.toNat

def writeLog (r : Resources) (record : LogRecord) : IO Unit := do
  let now := Std.Time.PlainDateTime.ofWallTime (.ofTimestamp (← Std.Time.Timestamp.now) .zero)
  let log ← r.log.get
  log.putStrLn (record.line (now.format "uuuu-MM-dd'T'HH:mm:ss'Z'"))
  log.flush

def usualSettings : IO (Option String) := do
  let some home ← IO.getEnv "HOME" | return none
  match ← attempt (IO.FS.readFile (home ++ "/.config/scriptdap/config.toml")) with
  | .ok text => return some text
  | .error _ => return none

def system (r : Resources) : System IO where
  openLog path := attempt do
    r.log.set (.ofHandle (← IO.FS.Handle.mk path .append))
  settingsIn path := attempt (IO.FS.readFile path)
  usualSettings := usualSettings
  openTrace path := attempt do
    r.trace.set (some (← IO.FS.Handle.mk path .append))
  listen address port := attempt do
    let listener ← Socket.Server.mk
    listener.bind (socketAddress address port)
    listener.listen 128
    r.listener.set (some listener)
    return portOf (← listener.getSockName)
  log := writeLog r

-- ---------------------------------------------------------------------------
-- Connections
-- ---------------------------------------------------------------------------

/-- Carries out what a step of the server leads to. A client that is gone gets nothing. -/
def perform (r : Resources) (clients : Array Socket.Client) (activity : Activity) : IO Unit := do
  if let some trace ← r.trace.get then
    for line in activity.trace do
      trace.putStrLn line
    trace.flush
  for (id, delivery) in activity.sent do
    if let some client := clients[id]? then
      discard <| attempt <| match delivery with
        | .message m => (client.send ⟨(Framing.frame m).toArray⟩).block
        | .closed => client.shutdown.block

/-- Takes a step of the server; no other step comes between it and what it leads to. -/
def step (running : Running) (f : Server → Server × Activity) : IO Unit :=
  running.server.atomically do
    let (server, clients) ← get
    let (server, activity) := f server
    set (server, clients)
    perform running.resources clients activity

def enter (running : Running) (port : Nat) (client : Socket.Client) : IO (Option SessionId) := do
  let peer ← client.getPeerName
  running.server.atomically do
    let (server, clients) ← get
    match server.connect port (toString peer) with
    | (_, _, none) => return none
    | (server, activity, some id) =>
      set (server, clients.push client)
      perform running.resources (clients.push client) activity
      return some id

partial def readAll (running : Running) (id : SessionId) (client : Socket.Client) : Async Unit := do
  match ← try client.recv? 65536 catch _ => pure none with
  | some bytes =>
    step running fun s => s.receive id bytes.toList false
    readAll running id client
  | none => step running fun s => s.receive id [] true

/-- Accepts clients, each of them served on its own. -/
partial def acceptAll (running : Running) (port : Nat) (listener : Socket.Server) : Async Unit := do
  match ← try some <$> listener.accept catch _ => pure none with
  | some client =>
    if let some id ← enter running port client then
      background (readAll running id client)
    acceptAll running port listener
  | none => step running fun s => s.listenerFailed port

-- ---------------------------------------------------------------------------
-- The run
-- ---------------------------------------------------------------------------

def serve (r : Resources) (server : Server) : Async Unit := do
  let running : Running := ⟨← Std.Mutex.new (server, #[]), r⟩
  if let (some listener, some port) := (← r.listener.get, server.registry.master) then
    background (acceptAll running port listener)
  let interrupt ← Signal.Waiter.mk .sigint false
  discard <| await (← interrupt.wait)
  let stop : IO Unit := running.server.atomically do
    let (server, clients) ← get
    perform r clients (← (Launch.stop (system r) server : IO Activity))
  stop

def run (options : Options) : IO ExitCode := do
  let r : Resources := ⟨← IO.mkRef (← IO.getStderr), ← IO.mkRef none, ← IO.mkRef none⟩
  match ← (Launch.run (system r) options).run with
  | .ok server =>
    (serve r server).block
    return .success
  | .error e =>
    IO.eprint e.report
    return .failure

end DebugAdapter.Program

open DebugAdapter in
def main (arguments : List String) : IO UInt32 := do
  let file ← IO.getEnv "SDAP_CONFIG"
  match (Options.ofArguments arguments).bind (Options.withEnvironment · file) with
  | .ok options => return (← Program.run options).number.toUInt32
  | .error e =>
    let code := ExitCode.ofOptionsError e
    let out ← if code = .success then IO.getStdout else IO.getStderr
    for line in e.report do
      out.putStrLn line
    return code.number.toUInt32
