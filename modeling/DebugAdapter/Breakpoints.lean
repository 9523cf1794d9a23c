import DebugAdapter.Conventions
import DebugAdapter.Failure
import DebugAdapter.Json.Basic
import DebugAdapter.Text.Blank

/-!
# Breakpoints

Setting all breakpoints of one source. A request names the source and the
lines; every line gets one answer, in order. Lines that cannot be installed
are answered with a reason, and the rest replaces what was installed before.
-/

namespace DebugAdapter

structure LineRequest where
  line : Int
  condition : Option String
  deriving Repr, DecidableEq

structure BreakpointArguments where
  path : Option String
  breakpoints : Option (List LineRequest)
  /-- The older form: lines without conditions. -/
  lines : Option (List Int)
  deriving Repr, DecidableEq

-- ---------------------------------------------------------------------------
-- Arguments
-- ---------------------------------------------------------------------------

namespace BreakpointArguments

def optionalField (read : Json → Option α) : Option Json → Option (Option α)
  | none => some none
  | some .null => some none
  | some j => (read j).map some

/-- The fields of a record: members by name, or the items of an array, of
which at least `least` and at most as many as there are fields. -/
def recordFields (names : List String) (least : Nat) : Json → Option (List (Option Json))
  | .obj members => some (names.map fun n => Json.lookup n members)
  | .arr items =>
    if least ≤ items.length && items.length ≤ names.length then
      some (items.map some ++ List.replicate (names.length - items.length) none)
    else none
  | _ => none

def ofLine? (j : Json) : Option LineRequest := do
  match ← recordFields ["line", "condition"] 2 j with
  | [some line, condition] =>
    return ⟨← line.asInt64?, ← optionalField Json.asStr? condition⟩
  | _ => none

def ofSource? (j : Json) : Option (Option String) := do
  match ← recordFields ["path"] 1 j with
  | [path] => optionalField Json.asStr? path
  | _ => none

def listOf? (read : Json → Option α) (j : Json) : Option (List α) := do
  (← j.asArr?).mapM read

def ofJson? (j : Json) : Option BreakpointArguments := do
  match ← recordFields ["source", "breakpoints", "lines"] 1 j with
  | [source, breakpoints, lines] =>
    let path ← optionalField ofSource? source
    return ⟨path.join, ← optionalField (listOf? ofLine?) breakpoints,
      ← optionalField (listOf? Json.asInt64?) lines⟩
  | _ => none

/-- The requested breakpoints: the full form goes before the older one. -/
def requested (a : BreakpointArguments) : List LineRequest :=
  match a.breakpoints, a.lines with
  | some bps, _ => bps
  | none, some lines => lines.map fun line => ⟨line, none⟩
  | none, none => []

end BreakpointArguments

-- ---------------------------------------------------------------------------
-- Setting
-- ---------------------------------------------------------------------------

structure Breakpoint where
  verified : Bool
  line : Int
  message : Option String
  deriving Repr, DecidableEq

namespace Breakpoint

def unverified (line : Int) (message : String) : Breakpoint := ⟨false, line, some message⟩

def toJson (b : Breakpoint) : Json :=
  Json.object ([("verified", .bool b.verified), ("line", .int b.line)] ++
    Json.optional "message" (b.message.map .str))

end Breakpoint

def malformedSource : Failure :=
  .protocol ErrorId.malformedSource "setBreakpoints: property 'source' is empty or malformed"

def maxDebuggerLine : Int := 4294967295

/-- The debugger line of a client line, none if there is no such line. -/
def Conventions.debuggerLine? (c : Conventions) (line : Int) : Option Nat :=
  match c.lineFromClient line with
  | some l => if 1 ≤ l ∧ l ≤ maxDebuggerLine then some l.toNat else none
  | none => none

def LineRequest.condition? (r : LineRequest) : Option String := r.condition.bind Text.trimmed?

def LineRequest.accept (c : Conventions) (d : Debuggee) (r : LineRequest) :
    Except String BreakpointLine :=
  match c.debuggerLine? r.line with
  | none => .error ("invalid line " ++ Value.intText r.line)
  | some line =>
    match r.condition? with
    | none => .ok (line, none)
    | some text =>
      match d.compile text with
      | .ok condition => .ok (line, some condition)
      | .error message => .error message

def LineRequest.compiled (c : Conventions) (r : LineRequest) : List Call :=
  match c.debuggerLine? r.line, r.condition? with
  | some _, some text => [.compileCondition text]
  | _, _ => []

/-- Adds a line to lines in ascending order; a line that is there stays. -/
def insertLine (l : BreakpointLine) : List BreakpointLine → List BreakpointLine
  | [] => [l]
  | m :: rest =>
    if l.1 < m.1 then l :: m :: rest
    else if l.1 = m.1 then m :: rest
    else m :: insertLine l rest

/-- The lines to install, in ascending order; the first request for a line wins. -/
def installed (outcomes : List (Except String BreakpointLine)) : List BreakpointLine :=
  outcomes.foldl
    (fun lines o => match o with
      | .ok l => insertLine l lines
      | .error _ => lines) []

def LineRequest.answer (r : LineRequest) (confirmed : List Nat) :
    Except String BreakpointLine → Breakpoint
  | .error message => .unverified r.line message
  | .ok l =>
    if confirmed.contains l.1 then ⟨true, r.line, none⟩
    else .unverified r.line "no code at this line"

def breakpointPath (c : Conventions) (path : Option String) : Except Failure String :=
  match path with
  | none => .error malformedSource
  | some p =>
    if (Text.trimmed? p).isNone then .error malformedSource
    else match c.pathFromClient p with
      | none => .error malformedSource
      | some p => .ok p

/-- Replaces the breakpoints of a source: the calls it takes, and one answer
for each requested breakpoint. -/
def setBreakpoints (d : Debuggee) (c : Conventions) (arguments : Json) :
    Except Failure (List Breakpoint × List Call) := do
  let some args := BreakpointArguments.ofJson? arguments | .error malformedSource
  let path ← breakpointPath c args.path
  let requests := args.requested
  match d.findSource path with
  | none =>
    return (requests.map fun r => .unverified r.line ("source '" ++ path ++ "' is not loaded"),
      [.findSource path])
  | some source =>
    let outcomes := requests.map (·.accept c d)
    let lines := installed outcomes
    let confirmed := d.confirmedLines source lines
    return (requests.zipWith (fun r o => r.answer confirmed o) outcomes,
      .findSource path :: requests.flatMap (·.compiled c) ++ [.resetBreakpoints source lines])

end DebugAdapter
