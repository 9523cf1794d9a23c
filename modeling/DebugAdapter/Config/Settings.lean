import DebugAdapter.Config.Document
import DebugAdapter.Failure
import DebugAdapter.Net.IpAddress

/-!
# Settings

How a server runs: where it listens, how long a reload may pause, how many
frames are sent unasked, and what is traced. Settings that are not given have
standard values; settings that no server can run with are refused.
-/

namespace DebugAdapter

structure Settings where
  /-- The interface of every listener. -/
  host : String
  /-- The port of the master listener, zero for any. -/
  port : Nat
  /-- Milliseconds without a load after which a reload is over. -/
  reloadDebounce : Nat
  defaultLevels : Nat
  traceFile : Option String
  /-- Trace messages, not only connections. -/
  traceMessages : Bool
  deriving Repr, DecidableEq

inductive SettingsError where
  | unreadable (path cause : String)
  | malformed
  | badHost (host : String)
  | noStackLevels
  deriving Repr, DecidableEq

namespace SettingsError

def reason : SettingsError → String
  | .unreadable path cause => "read " ++ path ++ ": " ++ cause
  | .malformed => "malformed document"
  | .badHost host => "host \x60" ++ host ++ "\x60: invalid IP address syntax"
  | .noStackLevels => "default_stack_levels must be positive"

def failure (e : SettingsError) : Failure := .config e.reason

end SettingsError

namespace Settings

def standard : Settings where
  host := "127.0.0.1"
  port := 41912
  reloadDebounce := 500
  defaultLevels := 10
  traceFile := none
  traceMessages := false

-- ---------------------------------------------------------------------------
-- Checks
-- ---------------------------------------------------------------------------

def address (s : Settings) : Except SettingsError IpAddress :=
  match IpAddress.parse? s.host with
  | some a => .ok a
  | none => .error (.badHost s.host)

def validate (s : Settings) : Except SettingsError Unit := do
  discard s.address
  if s.defaultLevels = 0 then throw .noStackLevels

-- ---------------------------------------------------------------------------
-- Documents
-- ---------------------------------------------------------------------------

/-- A natural number up to a greatest one. -/
def natValue? (most : Nat) : SettingValue → Option Nat
  | .integer n => if 0 ≤ n ∧ n ≤ most then some n.toNat else none
  | _ => none

def textValue? : SettingValue → Option String
  | .text s => some s
  | _ => none

def boolValue? : SettingValue → Option Bool
  | .boolean b => some b
  | _ => none

def maxPort : Nat := 65535
def maxCount : Nat := 0xffffffffffffffff

/-- Changes one setting; none if there is no such setting or no such value of it. -/
def set? (s : Settings) (name : String) (value : SettingValue) : Option Settings :=
  match name with
  | "host" => (textValue? value).map fun host => { s with host }
  | "port" => (natValue? maxPort value).map fun port => { s with port }
  | "reload_debounce_ms" => (natValue? maxCount value).map fun n => { s with reloadDebounce := n }
  | "default_stack_levels" => (natValue? maxCount value).map fun n => { s with defaultLevels := n }
  | "trace_file" => (textValue? value).map fun file => { s with traceFile := some file }
  | "trace_dap" => (boolValue? value).map fun b => { s with traceMessages := b }
  | _ => none

/-- The settings that entries give, the others standard. -/
def ofEntries? (entries : List (String × SettingValue)) : Option Settings :=
  entries.foldlM (fun s e => s.set? e.1 e.2) standard

def ofDocument (text : String) : Except SettingsError Settings := do
  let some s := (SettingsDocument.parse? text).bind ofEntries? | throw .malformed
  s.validate
  return s

def ofFile (path : String) (content : Except String String) : Except SettingsError Settings :=
  match content with
  | .ok text => ofDocument text
  | .error cause => .error (.unreadable path cause)

/-- The settings in the file that is read if none is asked for; it may be missing. -/
def ofDefaultFile (content : Option String) : Except SettingsError Settings :=
  match content with
  | some text => ofDocument text
  | none => .ok standard

end Settings

end DebugAdapter
