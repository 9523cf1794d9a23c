import DebugAdapter.Session.State

/-!
# Commands

The commands of requests, by name. Every text is a command; those that have no
meaning are refused by name.
-/

namespace DebugAdapter

inductive Resume where
  | run
  | stepOver
  | stepIn
  | stepOut
  deriving Repr, DecidableEq

namespace Resume

/-- Why execution will stop the next time, if nothing else happens. -/
def stopReason : Resume → StopReason
  | .run => .breakpoint
  | _ => .step

def action : Resume → Action
  | .run => .run
  | .stepOver => .stepOver
  | .stepIn => .stepIn
  | .stepOut => .stepOut

def reply : Resume → Reply
  | .run => .body (Json.object [("allThreadsContinued", .bool true)])
  | _ => .empty

end Resume

/-- What a client can ask for once it has introduced itself. -/
inductive Work where
  /-- Steps of a client's start that need no work. -/
  | acknowledge
  | setBreakpoints
  /-- Kinds of breakpoints that do not exist here. -/
  | setNoBreakpoints
  | resume (how : Resume)
  | pause
  | stackTrace
  | scopes
  | variables
  | evaluate
  | exceptionInfo
  | source
  | threads
  | unknown (name : String)
  deriving Repr, DecidableEq

inductive Command where
  /-- The client introduces itself. -/
  | handshake
  /-- The client ends the session. -/
  | leave
  | work (what : Work)
  deriving Repr, DecidableEq

namespace Work

def ofName : String → Work
  | "attach" | "launch" | "configurationDone" => .acknowledge
  | "setBreakpoints" => .setBreakpoints
  | "setExceptionBreakpoints" | "setFunctionBreakpoints" => .setNoBreakpoints
  | "continue" => .resume .run
  | "next" => .resume .stepOver
  | "stepIn" => .resume .stepIn
  | "stepOut" => .resume .stepOut
  | "pause" => .pause
  | "stackTrace" => .stackTrace
  | "scopes" => .scopes
  | "variables" => .variables
  | "evaluate" => .evaluate
  | "exceptionInfo" => .exceptionInfo
  | "source" => .source
  | "threads" => .threads
  | name => .unknown name

end Work

namespace Command

def ofName : String → Command
  | "initialize" => .handshake
  | "disconnect" | "terminate" => .leave
  | name => .work (.ofName name)

end Command

/-- The command that asks for the directory of sessions; it is served in every
phase but the last. -/
def directoryCommand : String := "_sessions"

-- ---------------------------------------------------------------------------
-- Introduction of a client
-- ---------------------------------------------------------------------------

def productText : String := "scriptdap 0.1.0"

def capabilities : Json := Json.object [
  ("supportsConfigurationDoneRequest", .bool true),
  ("supportsFunctionBreakpoints", .bool false),
  ("supportsConditionalBreakpoints", .bool true),
  ("supportsEvaluateForHovers", .bool true),
  ("supportsExceptionInfoRequest", .bool true),
  ("supportsTerminateRequest", .bool true),
  ("exceptionBreakpointFilters", .arr [])]

def Conventions.ofRequest (r : Request) : Except Refused Conventions :=
  let lines := (r.bool? "linesStartAt1").getD true
  match r.str? "pathFormat" with
  | none | some "path" => .ok ⟨lines, false⟩
  | some "uri" => .ok ⟨lines, true⟩
  | some other => .error <| .atOnce ErrorId.badPathFormat
      ("initialize: bad value '" ++ other ++ "' for pathFormat")

end DebugAdapter
