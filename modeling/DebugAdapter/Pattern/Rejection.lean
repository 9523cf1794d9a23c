import DebugAdapter.Pattern.Check
import DebugAdapter.Pattern.Program

/-!
# Patterns that are refused

A pattern is refused if it has a fault, or if one of its programs is too large.
-/

namespace DebugAdapter.Pattern

def sizeReport : String :=
  "Compiled regex exceeds size limit of " ++ Decimal.digitsText Extent.limit ++ " bytes."

/-- Why a pattern does not compile, as a report; none if it does. -/
def rejection? (pattern : String) : Option String :=
  match check pattern with
  | .ok form => if form.isTooLarge then some sizeReport else none
  | .error f => some (f.report pattern)

end DebugAdapter.Pattern
