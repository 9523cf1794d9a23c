import DebugAdapter.CommandLine.Options
import DebugAdapter.Server.Basic
import DebugAdapter.Server.Log

/-!
# Launching a server

The way from the options of a command line to a server that listens, and from
there to its end. The log file comes first, so that all that follows can be
logged, then the settings, then the trace file, then the listener; the first
thing that goes wrong ends the launch. What the system does is asked for
through a record of operations, which fail with the system's own text.
-/

namespace DebugAdapter

inductive LaunchError where
  | logFile (path cause : String)
  | settings (error : SettingsError)
  | start (failure : Failure)
  deriving Repr, DecidableEq

namespace LaunchError

def message : LaunchError → String
  | .logFile path _ => "open log file " ++ path
  | .settings error => error.failure.message
  | .start _ => "start debug server"

/-- What lies behind it, each the cause of the one before. -/
def causes : LaunchError → List String
  | .logFile _ cause => [cause]
  | .settings _ => []
  | .start failure =>
    failure.message :: match failure with
      | .bind _ cause => [cause]
      | _ => []

def line (e : LaunchError) : String := ": ".intercalate (e.message :: e.causes)

/-- The lines about causes. They are numbered if there are several. -/
def causeLines : List String → List String
  | [] => []
  | [cause] => ["", "Caused by:", "    " ++ cause]
  | causes => ["", "Caused by:"] ++
    causes.mapIdx fun i cause => "    " ++ Decimal.digitsText i ++ ": " ++ cause

def report (e : LaunchError) : String :=
  String.join ((("Error: " ++ e.message) :: causeLines e.causes).map (· ++ "\n"))

end LaunchError

/-- Where a program ends: it did what it was asked to, its options were wrong,
or it could not be launched. -/
inductive ExitCode where
  | success
  | failure
  | usage
  deriving Repr, DecidableEq

namespace ExitCode

def number : ExitCode → Nat
  | .success => 0
  | .failure => 1
  | .usage => 2

/-- Asking for help is no mistake. -/
def ofOptionsError : OptionsError → ExitCode
  | .helpWanted | .versionWanted => .success
  | _ => .usage

end ExitCode

/-- What a launch asks of the system. Whatever fails gives its cause. -/
structure System (m : Type → Type) where
  openLog : String → m (Except String Unit)
  settingsIn : String → m (Except String String)
  /-- The settings that are read if no file is asked for; there may be none. -/
  usualSettings : m (Option String)
  openTrace : String → m (Except String Unit)
  /-- Opens a listener on a port of an address, on any port if it is zero. -/
  listen : IpAddress → Nat → m (Except String Nat)
  log : LogRecord → m Unit

namespace Launch

variable {m : Type → Type} [Monad m]

def openLog (sys : System m) (o : Options) : ExceptT LaunchError m Unit := do
  let some path := o.logFile | return
  match ← sys.openLog path with
  | .ok () => return
  | .error cause => throw (.logFile path cause)

def settings (sys : System m) (o : Options) : ExceptT LaunchError m Settings := do
  let read ← match o.config with
    | some path => do pure (Settings.ofFile path (← sys.settingsIn path))
    | none => do pure (Settings.ofDefaultFile (← sys.usualSettings))
  match read with
  | .ok s => return o.apply s
  | .error e => throw (.settings e)

/-- Opens the trace file, if there is one. Without it nothing is traced, which
is no reason to stop. -/
def openTrace (sys : System m) (s : Settings) : m Tracing := do
  let tracing ← match s.traceFile with
    | none => pure .off
    | some path => do
      match ← sys.openTrace path with
      | .ok () => pure (Tracing.ofSettings s)
      | .error cause => do
        sys.log (.traceUnavailable path cause)
        pure .off
  if s.traceMessages && tracing = .off then sys.log .traceNeedsFile
  return tracing

/-- A server with these settings that has not been started. No script is behind it. -/
def create (sys : System m) (s : Settings) : ExceptT LaunchError m Server := do
  -- the settings are checked before the trace file is touched
  match Server.create s .off fun _ => .silent with
  | .error e => throw (.settings e)
  | .ok server => do
    let tracing ← (openTrace sys s : m Tracing)
    return { server with tracing }

def start (sys : System m) (server : Server) : ExceptT LaunchError m Server := do
  let bound ← sys.listen server.address server.settings.port
  match server.start (server.network fun _ _ => bound) with
  | (server, _, .ok port) =>
    let endpoint := server.address.withPort port
    sys.log (.listening endpoint (server.registry.targetAt port))
    sys.log (.started server.settings.host port)
    return server
  | (_, _, .error failure) =>
    sys.log .disposed
    throw (.start failure)

def run (sys : System m) (o : Options) : ExceptT LaunchError m Server := do
  openLog sys o
  start sys (← create sys (← settings sys o))

def stop (sys : System m) (server : Server) : m Activity := do
  sys.log .shuttingDown
  for port in server.registry.ports do
    sys.log (.stopped port)
  sys.log .disposed
  return server.dispose.2

end Launch

end DebugAdapter
