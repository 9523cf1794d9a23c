import DebugAdapter.Config.Settings

/-!
# Options of the command line

Options with a value take it after an equals sign or from the next argument,
which then must not look like an option. A value is checked when the next
option comes, or at the end; an argument that means nothing is refused before
that. Every option may be given once.
-/

namespace DebugAdapter

structure Options where
  config : Option String
  host : Option String
  port : Option Nat
  logFile : Option String
  traceFile : Option String
  traceMessages : Bool
  deriving Repr, DecidableEq

inductive OptionsError where
  | unknownArgument
  | badValue
  | missingValue
  | repeated
  | unexpectedValue
  /-- The help is asked for. -/
  | helpWanted
  /-- The version is asked for. -/
  | versionWanted
  deriving Repr, DecidableEq

namespace OptionsError

def usage : String := "Usage: sdap [OPTIONS]"

def help : List String :=
  [ "Options:",
    "  --config <PATH>      settings file, else SDAP_CONFIG or ~/.config/scriptdap/config.toml",
    "  --host <ADDRESS>     address of the interface to listen on",
    "  --port <PORT>        port of the master listener",
    "  --log-file <PATH>    file for the log, instead of the error stream",
    "  --trace-file <PATH>  file for traces",
    "  --trace-dap          trace messages, not only connections",
    "  -h, --help           show this help",
    "  -V, --version        show the version" ]

def report : OptionsError → List String
  | .unknownArgument => ["error: unexpected argument", "", usage]
  | .badValue => ["error: invalid value for an option", "", usage]
  | .missingValue => ["error: an option lacks its value", "", usage]
  | .repeated => ["error: an option is given twice", "", usage]
  | .unexpectedValue => ["error: an option takes no value", "", usage]
  | .helpWanted => usage :: "" :: help
  | .versionWanted => ["sdap 0.1.0"]

end OptionsError

inductive ValueOption where
  | config
  | host
  | port
  | logFile
  | traceFile
  deriving Repr, DecidableEq

namespace ValueOption

def ofName? : String → Option ValueOption
  | "config" => some .config
  | "host" => some .host
  | "port" => some .port
  | "log-file" => some .logFile
  | "trace-file" => some .traceFile
  | _ => none

end ValueOption

namespace Options

def none : Options := ⟨.none, .none, .none, .none, .none, false⟩

def has (o : Options) : ValueOption → Bool
  | .config => o.config.isSome
  | .host => o.host.isSome
  | .port => o.port.isSome
  | .logFile => o.logFile.isSome
  | .traceFile => o.traceFile.isSome

def digits? (cs : List Char) : Option Nat :=
  if !cs.isEmpty && cs.all Char.isDigit then
    some (cs.foldl (fun n c => n * 10 + (c.toNat - '0'.toNat)) 0)
  else .none

/-- A port number, perhaps with a sign. -/
def port? (text : String) : Option Nat :=
  let n := match text.toList with
    | '+' :: rest => digits? rest
    | '-' :: rest => (digits? rest).filter (· = 0)
    | cs => digits? cs
  n.filter (· ≤ Settings.maxPort)

/-- A path; the empty text is none. -/
def path (text : String) : Except OptionsError String :=
  if text = "" then .error .missingValue else .ok text

def store (o : Options) (option : ValueOption) (text : String) : Except OptionsError Options := do
  if o.has option then throw .repeated
  match option with
  | .config => return { o with config := some (← path text) }
  | .host => return { o with host := some text }
  | .port =>
    match port? text with
    | some port => return { o with port := some port }
    | .none => throw .badValue
  | .logFile => return { o with logFile := some (← path text) }
  | .traceFile => return { o with traceFile := some (← path text) }

end Options

namespace OptionsReader

/-- Options that have been read, and the last option with a value, which has
not been checked yet; its value may be still to come. -/
structure State where
  options : Options
  pending : Option (ValueOption × Option String)
  /-- Nothing but values may come. -/
  escaped : Bool
  deriving Repr

def settle (s : State) : Except OptionsError Options :=
  match s.pending with
  | none => .ok s.options
  | some (_, none) => .error .missingValue
  | some (option, some text) => s.options.store option text

def splitEquals (cs : List Char) : String × Option String :=
  let name := String.ofList (cs.takeWhile (· ≠ '='))
  match cs.dropWhile (· ≠ '=') with
  | [] => (name, none)
  | _ :: value => (name, some (String.ofList value))

def longOption (s : State) (name : String) (value : Option String) : Except OptionsError State :=
  match ValueOption.ofName? name, value with
  | some option, some text => do
    return ⟨← (← settle s).store option text, none, false⟩
  | some option, none => do
    return ⟨← settle s, some (option, none), false⟩
  | none, value =>
    if name = "trace-dap" || name = "help" || name = "version" then do
      if value.isSome then throw .unexpectedValue
      let options ← settle s
      if name = "help" then throw .helpWanted
      if name = "version" then throw .versionWanted
      if options.traceMessages then throw .repeated
      return ⟨{ options with traceMessages := true }, none, false⟩
    else .error .unknownArgument

def shortOption (s : State) (letter : Char) : Except OptionsError State := do
  if letter ≠ 'h' && letter ≠ 'V' then throw .unknownArgument
  discard (settle s)
  throw (if letter = 'h' then .helpWanted else .versionWanted)

/-- A value for the last option, if it waits for one. -/
def plainValue (s : State) (text : String) : Except OptionsError State :=
  match s.pending with
  | some (option, none) => .ok { s with pending := some (option, some text) }
  | _ => .error .unknownArgument

def argument (s : State) (text : String) : Except OptionsError State :=
  if s.escaped then .error .unknownArgument
  else match text.toList with
    | ['-', '-'] => .ok { s with escaped := true }
    | '-' :: '-' :: rest => let (name, value) := splitEquals rest; longOption s name value
    | '-' :: letter :: _ => shortOption s letter
    | _ => plainValue s text

end OptionsReader

namespace Options

def ofArguments (arguments : List String) : Except OptionsError Options := do
  OptionsReader.settle (← arguments.foldlM OptionsReader.argument ⟨.none, .none, false⟩)

/-- The options with the settings file that the environment names, unless they
name one themselves. -/
def withEnvironment (o : Options) (file : Option String) : Except OptionsError Options :=
  match o.config, file with
  | .none, some text => do return { o with config := some (← path text) }
  | _, _ => .ok o

/-- Settings with the options in place of what they say. -/
def apply (o : Options) (s : Settings) : Settings :=
  { s with
    host := o.host.getD s.host
    port := o.port.getD s.port
    traceFile := o.traceFile <|> s.traceFile
    traceMessages := s.traceMessages || o.traceMessages }

end Options

end DebugAdapter
