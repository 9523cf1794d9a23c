import DebugAdapter.Script.Debuggee

/-!
# Targets

A debuggee that is on offer to clients, with the name it is shown under. Two
instances may claim one identity, one after the other, so the instance is kept
apart from what it says it is.
-/

namespace DebugAdapter

/-- Which interpreter instance a target is, whatever its identity. -/
abbrev InstanceKey := Nat

structure Target where
  key : InstanceKey
  id : TargetId
  name : String
  deriving Repr, DecidableEq

namespace Target

def detachedName : String := "(Detached)"

def shownName (t : Option Target) : String := (t.map Target.name).getD detachedName

end Target

end DebugAdapter
