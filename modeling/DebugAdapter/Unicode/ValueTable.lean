import DebugAdapter.Unicode.CodeSet

/-!
# Properties with several values

Each value has its names, in lower case and without blanks, and the table of
its code points.
-/

namespace DebugAdapter.Unicode

abbrev ValueTable := List (String × List String)

namespace ValueTable

def index? (t : ValueTable) (name : String) : Option Nat :=
  t.findIdx? fun e => (e.1.splitOn " ").contains name

def value? (t : ValueTable) (name : String) : Option CodeSet :=
  ((t.index? name).bind fun i => t[i]?).map fun e => .ofLines e.2

def codes (t : ValueTable) : CodeSet := .ofLines (t.flatMap Prod.snd)

end ValueTable

end DebugAdapter.Unicode
