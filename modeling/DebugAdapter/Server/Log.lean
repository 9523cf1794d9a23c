import DebugAdapter.Net.Endpoint
import DebugAdapter.Script.Target

/-!
# The log

What a server tells its operator. Records are made here and written elsewhere.
-/

namespace DebugAdapter

inductive LogLevel where
  | warn
  | info
  deriving Repr, DecidableEq

def LogLevel.text : LogLevel → String
  | .warn => "WARN"
  | .info => "INFO"

structure LogRecord where
  level : LogLevel
  text : String
  deriving Repr, DecidableEq

namespace LogRecord

def source : String := "dap"

def line (r : LogRecord) (time : String) : String :=
  "[" ++ time ++ " " ++ r.level.text ++ "  " ++ source ++ "] " ++ r.text

def quoted (name : String) : String := "\x60" ++ name ++ "\x60"

def traceUnavailable (path cause : String) : LogRecord :=
  ⟨.warn, "tracer: open trace file " ++ path ++ ": " ++ cause⟩

def traceNeedsFile : LogRecord := ⟨.warn, "trace_dap requires a trace file; tracing disabled"⟩

def listening (endpoint : Endpoint) (target : Option Target) : LogRecord :=
  ⟨.info, "listening on " ++ endpoint.text ++ " for " ++ quoted (Target.shownName target)⟩

def started (host : String) (port : Nat) : LogRecord :=
  ⟨.info,
    "sdap listening on " ++ host ++ ":" ++ Decimal.digitsText port ++ ", no script attached"⟩

def shuttingDown : LogRecord := ⟨.info, "shutting down"⟩

def stopped (port : Nat) : LogRecord :=
  ⟨.info, "listener " ++ Decimal.digitsText port ++ " stopped"⟩

def disposed : LogRecord := ⟨.info, "debug server disposed"⟩

end LogRecord

end DebugAdapter
