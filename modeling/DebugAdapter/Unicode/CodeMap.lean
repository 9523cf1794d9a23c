import DebugAdapter.Unicode.CodeSet

/-!
# Maps of code points

What code points stand for. Tables are written as text: `fb01:66,69` for a
code point, `2170-2172:69` for a range whose targets ascend in the last place,
and `2b0-2b2/2=68` for a range, here with a step, whose targets are equal.
-/

namespace DebugAdapter.Unicode

/-- Code points by ascending steps, and what the first of them stands for.
`ascending` if the last place of the target goes along with the code point. -/
structure CodeMapEntry where
  low : Nat
  high : Nat
  step : Nat
  target : List Nat
  ascending : Bool
  deriving Repr, DecidableEq

abbrev CodeMap := List CodeMapEntry

namespace CodeMapEntry

def ofChars (cs : List Char) : CodeMapEntry :=
  let ascending := cs.contains ':'
  let (source, target) := CodeSet.splitOnce (if ascending then ':' else '=') cs
  let (low, high, step) := CodeSet.entryBounds source
  let places := (String.ofList (target.getD [])).splitOn ","
  ⟨low, high, step, places.map fun p => CodeSet.hexNumber p.toList, ascending⟩

/-- The target so far from the first one. -/
def targetAt (e : CodeMapEntry) (distance : Nat) : List Nat :=
  if e.ascending then e.target.dropLast ++ e.target.getLast?.toList.map (· + distance)
  else e.target

def covers (e : CodeMapEntry) (n : Nat) : Bool :=
  e.low ≤ n && n ≤ e.high && (n - e.low) % e.step = 0

def find? (e : CodeMapEntry) (n : Nat) : Option (List Nat) :=
  if e.covers n then some (e.targetAt (n - e.low)) else none

def source? (e : CodeMapEntry) (target : List Nat) : Option Nat :=
  let distance := target.getLastD 0 - e.target.getLastD 0
  let n := e.low + distance
  if e.find? n = some target then some n else none

end CodeMapEntry

namespace CodeMap

def ofLines (lines : List String) : CodeMap :=
  (CodeSet.entries lines).map CodeMapEntry.ofChars

def find? (m : CodeMap) (n : Nat) : Option (List Nat) := m.findSome? (·.find? n)

def source? (m : CodeMap) (target : List Nat) : Option Nat := m.findSome? (·.source? target)

end CodeMap

end DebugAdapter.Unicode
