import DebugAdapter.Conventions
import DebugAdapter.Protocol.Message
import DebugAdapter.Variables.Table

/-!
# What a session remembers

Why execution stopped last, the exception that was trapped, the values that
were handed out, and which frames the debuggee has materialized. Locals and
closures exist for the materialized frame only, so a request for those of
another frame waits until the debuggee reports them.
-/

namespace DebugAdapter

inductive StopReason where
  | step
  | breakpoint
  | exception
  | pause
  deriving Repr, DecidableEq

namespace StopReason

def name : StopReason → String
  | .step => "step"
  | .breakpoint => "breakpoint"
  | .exception => "exception"
  | .pause => "pause"

def description : StopReason → String
  | .step => "Paused after stepping"
  | .breakpoint => "Paused on breakpoint"
  | .exception => "Paused on exception"
  | .pause => "Paused by debugger"

end StopReason

-- ---------------------------------------------------------------------------
-- Scopes of the materialized frame
-- ---------------------------------------------------------------------------

/-- The scopes that a debuggee materializes for one frame at a time. -/
inductive FrameScope where
  | locals
  | closure
  deriving Repr, DecidableEq

namespace FrameScope

def kind : FrameScope → ScopeKind
  | .locals => .locals
  | .closure => .closure

def watchKind : FrameScope → WatchKind
  | .locals => .locals
  | .closure => .closure

def other : FrameScope → FrameScope
  | .locals => .closure
  | .closure => .locals

@[simp] theorem other_other (s : FrameScope) : s.other.other = s := by cases s <;> rfl

@[simp] theorem other_ne (s : FrameScope) : s.other ≠ s := by cases s <;> simp [other]

end FrameScope

/-- What a session knows of a scope. -/
structure ScopeView where
  /-- The frame that was materialized when the scope was last reported. -/
  frame : Option Nat
  /-- A request for the variables of a frame that is not materialized yet. -/
  pending : Option ReplyTo
  deriving Repr, DecidableEq

-- ---------------------------------------------------------------------------
-- Session state
-- ---------------------------------------------------------------------------

structure SessionState where
  initialized : Bool
  conventions : Conventions
  values : ValueTable
  /-- The call stack at its last report. -/
  callStack : List CallFrame
  /-- The frame that was materialized last, as far as it was told. -/
  currentFrame : Option Nat
  /-- The frame that the waiting requests are about. -/
  pendingFrame : Option Nat
  locals : ScopeView
  closure : ScopeView
  stopReason : StopReason
  exception : Option RuntimeException
  /-- Announce the end of an execution. -/
  notifyEnd : Bool

namespace SessionState

def fresh : SessionState where
  initialized := false
  conventions := .standard
  values := .empty
  callStack := []
  currentFrame := none
  pendingFrame := none
  locals := ⟨none, none⟩
  closure := ⟨none, none⟩
  stopReason := .step
  exception := none
  notifyEnd := false

def view (st : SessionState) : FrameScope → ScopeView
  | .locals => st.locals
  | .closure => st.closure

def setView (st : SessionState) (scope : FrameScope) (v : ScopeView) : SessionState :=
  match scope with
  | .locals => { st with locals := v }
  | .closure => { st with closure := v }

@[simp] theorem view_setView (st : SessionState) (scope : FrameScope) (v : ScopeView) :
    (st.setView scope v).view scope = v := by cases scope <;> rfl

@[simp] theorem view_other_setView (st : SessionState) (scope : FrameScope) (v : ScopeView) :
    (st.setView scope v).view scope.other = st.view scope.other := by cases scope <;> rfl

def pending (st : SessionState) (scope : FrameScope) : Option ReplyTo := (st.view scope).pending

def setPending (st : SessionState) (scope : FrameScope) (reply : Option ReplyTo) : SessionState :=
  st.setView scope { st.view scope with pending := reply }

end SessionState

-- ---------------------------------------------------------------------------
-- Handling of a request
-- ---------------------------------------------------------------------------

inductive Reply where
  | body (body : Json)
  | empty
  /-- The answer has been queued already, or waits for a report. -/
  | deferred
  deriving Repr

structure Handled where
  state : SessionState
  calls : List Call
  /-- What is sent before the answer. -/
  queued : List Outgoing
  reply : Reply

/-- What comes of a request that fails: the state stays as it was. -/
structure Refused where
  failure : Failure
  /-- What the debuggee was asked before. -/
  calls : List Call
  deriving Repr, DecidableEq

namespace Handled

def answer (state : SessionState) (members : List (String × Json))
    (calls : List Call) : Handled := ⟨state, calls, [], .body (Json.object members)⟩

end Handled

namespace Refused

def atOnce (id : Int) (message : String) : Refused := ⟨.protocol id message, []⟩

end Refused

end DebugAdapter
