import DebugAdapter.Conventions
import DebugAdapter.Json.Basic
import DebugAdapter.Script.Debuggee

/-!
# Stack traces

A window of the call stack as a client sees it. Real frames are identified by
their depth. After them come frames that stand for no activation: a mark if
deeper frames are left out, the coroutine, and the native boundary; their
identities lie past the stack, so they never denote a real frame.
-/

namespace DebugAdapter

/-- The file of a stack frame as a client sees it. -/
structure FrameSource where
  name : String
  path : String
  /-- The frame is the innermost one. -/
  emphasized : Bool
  deriving Repr, DecidableEq

inductive FrameHint where
  | normal
  | label
  | subtle
  deriving Repr, DecidableEq

structure StackFrame where
  id : Nat
  name : String
  source : Option FrameSource
  line : Int
  column : Int
  endLine : Option Int
  endColumn : Option Int
  hint : FrameHint
  deriving Repr, DecidableEq

namespace StackFrame

def label (id : Nat) (name : String) : StackFrame := ⟨id, name, none, 0, 0, none, none, .label⟩

/-- The frame of an activation at some depth. -/
def ofCall (d : Debuggee) (c : Conventions) (depth : Nat) (frame : CallFrame) : StackFrame :=
  let name := frame.name.getD "<unknown>"
  match frame.location with
  | none => { label depth name with hint := .subtle }
  | some l =>
    if l.isHost then
      { label depth name with line := c.lineToClient l.fromLine, column := l.fromColumn }
    else
      let source := ((d.sourceInfo l.source).bind SourceInfo.file).map fun file =>
        ⟨(Paths.fileName? file).getD file, c.pathToClient file, depth == 0⟩
      { id := depth, name, source
        line := c.lineToClient l.fromLine
        column := l.fromColumn
        endLine := some (c.lineToClient l.toLine)
        endColumn := some l.toColumn
        hint := if source.isSome then .normal else .subtle }

end StackFrame

/-- The frames of no activation that a window leaves room for. -/
def pseudoFrames : Nat := 3

/-- How many real frames a window may hold; zero levels stand for all. -/
def frameBudget (length levels : Nat) : Nat :=
  if levels = 0 then length else max (levels - pseudoFrames) 1

/-- The depths of a window: its first, and the first past it. -/
def window (length start levels : Nat) : Nat × Nat :=
  let stop := min length (start + frameBudget length levels)
  (min start stop, stop)

/-- The frames of no activation after a window that ends at `stop`. -/
def tailFrames (d : Debuggee) (length stop : Nat) : List StackFrame :=
  let coroutine := match d.coroutineName with
    | some name => "(" ++ name ++ ")"
    | none => "(main coroutine)"
  let names := (if stop < length then ["(...)"] else []) ++ [coroutine, "(native)"]
  names.zipIdx.map fun n => .label (length + n.2) n.1

def stackTrace (d : Debuggee) (c : Conventions) (start levels : Nat) : List StackFrame :=
  let stack := d.callStack
  let (start, stop) := window stack.length start levels
  let real := (stack.drop start).take (stop - start)
  (real.zipIdx start).map (fun f => StackFrame.ofCall d c f.2 f.1) ++
    tailFrames d stack.length stop

def totalFrames (d : Debuggee) : Nat := d.callStack.length + 2

-- ---------------------------------------------------------------------------
-- Wire form
-- ---------------------------------------------------------------------------

def FrameHint.text : FrameHint → String
  | .normal => "normal"
  | .label => "label"
  | .subtle => "subtle"

def FrameSource.toJson (s : FrameSource) : Json :=
  Json.object [("name", .str s.name), ("path", .str s.path), ("sourceReference", .int 0),
    ("presentationHint", .str (if s.emphasized then "emphasize" else "normal"))]

def StackFrame.toJson (f : StackFrame) : Json :=
  Json.object ([("id", .int f.id), ("name", .str f.name)] ++
    Json.optional "source" (f.source.map FrameSource.toJson) ++
    [("line", .int f.line), ("column", .int f.column)] ++
    Json.optional "endLine" (f.endLine.map .int) ++
    Json.optional "endColumn" (f.endColumn.map .int) ++
    [("presentationHint", .str f.hint.text)])

end DebugAdapter
