import DebugAdapter.Number.Decimal
import DebugAdapter.Text.Printable

/-!
# Quoted text

Text between double quotes, on one line and with every character visible:
a backslash and a quote are escaped, four controls have letters of their own,
and any other character that cannot be seen by itself is written by its code
point.
-/

namespace DebugAdapter.Text

/-- The escape that is written by a letter, if the character has one. -/
def letterEscape? : Char → Option Char
  | '\x00' => some '0'
  | '\t' => some 't'
  | '\r' => some 'r'
  | '\n' => some 'n'
  | '\\' => some '\\'
  | '"' => some '"'
  | _ => none

/-- A character as it stands between quotes. -/
def escapeChar (c : Char) : List Char :=
  match letterEscape? c with
  | some letter => ['\\', letter]
  | none =>
    if isExtender c || !isPrintable c then
      ['\\', 'u', '\x7b'] ++ Nat.toDigits 16 c.toNat ++ ['\x7d']
    else [c]

def quoteChars (cs : List Char) : List Char := '"' :: cs.flatMap escapeChar ++ ['"']

def quote (s : String) : String := String.ofList (quoteChars s.toList)

end DebugAdapter.Text
