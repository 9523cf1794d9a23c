import DebugAdapter.Pattern.Rejection
import DebugAdapter.Script.Debuggee

/-!
# Console commands

Input of the debug console that starts with an exclamation mark is a command
to the debugger and not an expression. Commands show help, read and set the
pattern of the errors to trap, and turn the notice of an execution's end on
and off.
-/

namespace DebugAdapter

inductive ConsoleCommand where
  | help
  | getError
  | setError (pattern : String)
  | notifyEnd (argument : Option String)
  | unknown (command : String)
  deriving Repr, DecidableEq

namespace ConsoleCommand

/-- The characters up to the first blank, and those after it without blanks
at their ends. -/
def splitWord (cs : List Char) : List Char × List Char :=
  (cs.takeWhile (!Text.isBlank ·), Text.trimChars (cs.dropWhile (!Text.isBlank ·)))

def ofChars (cs : List Char) : ConsoleCommand :=
  let (word, argument) := splitWord cs
  match String.ofList word, argument with
  | "help", [] => .help
  | "geterror", _ => .getError
  | "seterror", argument => .setError (String.ofList argument)
  | "execendnotify", [] => .notifyEnd none
  | "execendnotify", argument => .notifyEnd (some (String.ofList argument))
  | _, _ => .unknown (String.ofList cs)

/-- The command in some input, none if the input is an expression. -/
def parse? (input : String) : Option ConsoleCommand :=
  match Text.dropBlanks input.toList with
  | '!' :: rest => some (ofChars (Text.trimChars rest))
  | _ => none

def helpLines : List String := [
  "Available commands : ",
  "    !help - gets this help",
  "    !seterror <regex> - sets the regex which tells which errors to trap",
  "    !geterror - gets the current value of the regex which tells which errors to trap",
  "    !execendnotify [on|off] - sets the notification of end of execution on or off " ++
    "(default = off)",
  "    ... or type an expression to evaluate it on the fly."]

def errorFilterLine (pattern : String) : String := "Current error regex : " ++ pattern

/-- What a command does: the lines it prints, the calls it makes, and whether
the end of an execution is announced from then on. -/
structure Effect where
  lines : List String
  calls : List Call
  notifyEnd : Bool

def setErrorFilter (pattern : String) (notify : Bool) : Effect :=
  match Pattern.rejection? pattern with
  | none => ⟨[errorFilterLine pattern], [.setErrorFilter pattern], notify⟩
  | some report => ⟨["Error setting regex: " ++ report], [], notify⟩

def notifyLine (notify : Bool) : String :=
  "Notifications of execution end are : " ++ if notify then "enabled" else "disabled"

def setNotify (argument : Option String) (notify : Bool) : Effect :=
  match argument with
  | some "on" => ⟨[notifyLine true], [], true⟩
  | some "off" => ⟨[notifyLine false], [], false⟩
  | some _ => ⟨["Error : expected 'on' or 'off'", notifyLine notify], [], notify⟩
  | none => ⟨[notifyLine notify], [], notify⟩

def execute (d : Debuggee) (notify : Bool) : ConsoleCommand → Effect
  | .help => ⟨helpLines, [], notify⟩
  | .getError => ⟨[errorFilterLine d.errorFilter], [], notify⟩
  | .setError pattern => setErrorFilter pattern notify
  | .notifyEnd argument => setNotify argument notify
  | .unknown command => ⟨("Syntax error : " ++ command) :: helpLines, [], notify⟩

end ConsoleCommand

end DebugAdapter
