import DebugAdapter.Number.Shortest

/-!
# Decimal text

Decimals as texts: positional, with as many zeros as it takes, or with an
exponent. `Hexadecimal` words are here too, since they are the only other
base the adapter writes.
-/

namespace DebugAdapter

namespace Decimal

def digitsText (n : Nat) : String := String.ofList (Nat.toDigits 10 n)

def zeros (n : Nat) : List Char := List.replicate n '0'

/-- The integer part and the fraction of a decimal, as digits. -/
def parts (d : Decimal) : List Char × List Char :=
  let cs := Nat.toDigits 10 d.digits
  if 0 ≤ d.exponent then (cs ++ zeros d.exponent.toNat, [])
  else
    let places := (-d.exponent).toNat
    if places < cs.length then (cs.take (cs.length - places), cs.drop (cs.length - places))
    else (['0'], zeros (places - cs.length) ++ cs)

/-- A decimal in positional notation: a point only before a fraction. -/
def positional (d : Decimal) : String :=
  match d.parts with
  | (whole, []) => String.ofList whole
  | (whole, fraction) => String.ofList (whole ++ '.' :: fraction)

end Decimal

/-- A word as eight upper-case hexadecimal digits, more if it takes more. -/
def hexWord (n : Nat) : String :=
  let cs := (Nat.toDigits 16 n).map Char.toUpper
  String.ofList (Decimal.zeros (8 - cs.length) ++ cs)

def hexText (n : Nat) : String := String.ofList (Nat.toDigits 16 n)

end DebugAdapter
