/-!
# Blank characters

The characters with the `White_Space` property, and the trimming that uses
them. Console input, request arguments and breakpoint conditions are all
trimmed by this rule.
-/

namespace DebugAdapter.Text

/-- A character with the `White_Space` property. -/
def isBlank (c : Char) : Bool :=
  let n := c.toNat
  (0x9 ≤ n && n ≤ 0xd) || n = 0x20 || n = 0x85 || n = 0xa0 || n = 0x1680 ||
    (0x2000 ≤ n && n ≤ 0x200a) || n = 0x2028 || n = 0x2029 || n = 0x202f || n = 0x205f ||
    n = 0x3000

def dropBlanks (cs : List Char) : List Char := cs.dropWhile isBlank

/-- The characters without the blanks at both ends. -/
def trimChars (cs : List Char) : List Char :=
  (dropBlanks (dropBlanks cs).reverse).reverse

def trim (s : String) : String := String.ofList (trimChars s.toList)

def trimmed? (s : String) : Option String :=
  match trimChars s.toList with
  | [] => none
  | cs => some (String.ofList cs)

end DebugAdapter.Text
