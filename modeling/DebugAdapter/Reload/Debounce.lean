/-!
# The debounce timer

A window that starts again with every sign of activity, and expires once
nothing has come for its whole length. What comes exactly at the end of the
window comes before the end.
-/

namespace DebugAdapter

namespace Debounce

inductive Signal where
  | reset
  | cancel
  /-- Stop for good; a closed channel says the same. -/
  | shutdown
  deriving Repr, DecidableEq

/-- The end of the window after a signal, none if no window is open. -/
def deadlineAfter (window now : Nat) : Signal → Option Nat
  | .reset => some (now + window)
  | .cancel => none
  | .shutdown => none

/-- Has the window ended before something that comes now? -/
def hasEnded (deadline : Option Nat) (now : Nat) : Bool :=
  match deadline with
  | some stop => stop < now
  | none => false

/-- The times at which a window expires, given the end of the open window and
the signals that follow, with their times in ascending order. -/
def expiries (window : Nat) (deadline : Option Nat) : List (Nat × Signal) → List Nat
  | [] => deadline.toList
  | (now, signal) :: rest =>
    let before := if hasEnded deadline now then deadline.toList else []
    before ++
      match signal with
      | .shutdown => []
      | signal => expiries window (deadlineAfter window now signal) rest

end Debounce

end DebugAdapter
