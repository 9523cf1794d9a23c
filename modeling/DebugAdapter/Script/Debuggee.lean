import DebugAdapter.Script.Value

/-!
# Debuggees

One interpreter instance as the adapter sees it. What a debuggee answers at a
moment is plain data; what the adapter does to it is a list of calls, in
order. Two of the calls change what it answers: the registered client and the
error filter are those that were set last.
-/

namespace DebugAdapter

abbrev TargetId := Nat

abbrev SessionId := Nat

abbrev SourceId := Nat

inductive ScopeKind where
  | global
  | self
  | locals
  | closure
  deriving Repr, DecidableEq, Inhabited

namespace ScopeKind

def name : ScopeKind → String
  | .global => "Global"
  | .self => "Self"
  | .locals => "Local"
  | .closure => "Closure"

def number : ScopeKind → Nat
  | .global => 0
  | .self => 1
  | .locals => 2
  | .closure => 3

def ofNumber? : Nat → Option ScopeKind
  | 0 => some .global
  | 1 => some .self
  | 2 => some .locals
  | 3 => some .closure
  | _ => none

theorem ofNumber?_number (s : ScopeKind) : ofNumber? s.number = some s := by cases s <;> rfl

end ScopeKind

structure Location where
  source : SourceId
  fromLine : Nat
  fromColumn : Nat
  toLine : Nat
  toColumn : Nat
  /-- In host code rather than in a script. -/
  isHost : Bool
  deriving Repr, DecidableEq

structure CallFrame where
  name : Option String
  location : Option Location
  address : Nat
  basePtr : Nat
  retAddress : Nat
  deriving Repr, DecidableEq

/-- Two frames denote the same activation record. -/
def CallFrame.sameActivation (a b : CallFrame) : Bool :=
  a.address = b.address && a.basePtr = b.basePtr && a.retAddress = b.retAddress

structure Watch where
  name : String
  value : Option Value
  deriving Repr

structure SourceInfo where
  name : String
  /-- The file a chunk was loaded from, none for chunks in memory. -/
  file : Option String
  /-- The host put `file` in place of the chunk's declared name. -/
  isOverride : Bool
  deriving Repr, DecidableEq

inductive Action where
  | run
  | stepIn
  | stepOver
  | stepOut
  /-- Materialize the local and closure watches of a frame. -/
  | viewFrame (frame : Nat)
  deriving Repr, DecidableEq

inductive WatchKind where
  | callStack
  | locals
  | closure
  deriving Repr, DecidableEq

structure RuntimeException where
  message : String
  callStack : List CallFrame
  deriving Repr, DecidableEq

inductive Notification where
  /-- Execution paused. -/
  | stopped
  /-- A runtime error was trapped; a stop follows. -/
  | exception (exception : RuntimeException)
  /-- Watches of a kind are fresh; `frame` is the materialized frame. -/
  | watchesUpdated (kind : WatchKind) (frame : Option Nat)
  | sourceChanged (source : SourceId)
  | executionEnded
  deriving Repr, DecidableEq

structure Condition where
  expression : String
  /-- What the interpreter knows it by. -/
  token : Nat
  deriving Repr, DecidableEq

/-- A condition reads as its text. -/
instance : Coe Condition String := ⟨Condition.expression⟩

abbrev BreakpointLine := Nat × Option Condition

/-- What the adapter does to a debuggee or asks it to work out. -/
inductive Call where
  | attachDebugger
  | detachDebugger
  | setClient (client : Option SessionId)
  | scopeValue (scope : ScopeKind) (frame : Nat)
  | evaluate (expression : String) (frame : Nat)
  | compileCondition (expression : String)
  | findSource (path : String)
  | resetBreakpoints (source : SourceId) (lines : List BreakpointLine)
  | queueAction (action : Action)
  | requestPause
  | setErrorFilter (pattern : String)
  deriving Repr, DecidableEq

/-- A call that changes the debuggee, as opposed to one that asks something. -/
def Call.mutates : Call → Bool
  | .scopeValue .. | .evaluate .. | .compileCondition _ | .findSource _ => false
  | _ => true

/-- An interpreter instance at one moment: everything it would answer now.
Failures carry the message of the interpreter. -/
structure Debuggee where
  client : Option SessionId
  errorFilter : String
  /-- Innermost frame first. -/
  callStack : List CallFrame
  /-- None on the main coroutine. -/
  coroutineName : Option String
  /-- Watches of the materialized frame, whichever that is. -/
  watches : WatchKind → List Watch
  /-- Root value of the global or self scope of a frame. -/
  scopeValue : ScopeKind → Nat → Except String Value
  evaluate : String → Nat → Except String Value
  /-- Accepts a condition, or tells why not. -/
  compileCondition : String → Except String Unit
  /-- What a condition that is accepted compiles to. -/
  compiled : String → Condition := fun text => ⟨text, 0⟩
  findSource : String → Option SourceId
  sourceInfo : SourceId → Option SourceInfo
  /-- The lines at which breakpoints of a source take effect. -/
  confirmedLines : SourceId → List BreakpointLine → List Nat

/-- What a condition compiles to, or why it does not. -/
def Debuggee.compile (d : Debuggee) (text : String) : Except String Condition :=
  (d.compileCondition text).map fun _ => d.compiled text

def Debuggee.after (d : Debuggee) : Call → Debuggee
  | .setClient client => { d with client }
  | .setErrorFilter pattern => { d with errorFilter := pattern }
  | _ => d

end DebugAdapter
