import DebugAdapter.Number.Binary64

/-!
# Reading decimal texts

The number nearest to a decimal text: digits, perhaps with a point, an
exponent and a sign, or the name of a number that has no digits.
-/

namespace DebugAdapter.Binary64

def digitsValue (cs : List Char) : Nat :=
  cs.foldl (fun n c => n * 10 + (c.toNat - '0'.toNat)) 0

def signedValue : List Char → Int
  | '-' :: cs => -(digitsValue cs : Int)
  | '+' :: cs => digitsValue cs
  | cs => digitsValue cs

def splitSign : List Char → Bool × List Char
  | '-' :: cs => (true, cs)
  | '+' :: cs => (false, cs)
  | cs => (false, cs)

def ofText (text : String) : Binary64 :=
  let (negative, cs) := splitSign text.toList
  match String.ofList (cs.map Char.toLower) with
  | "nan" => .nan
  | "inf" | "infinity" => .infinite negative
  | _ =>
    let whole := cs.takeWhile Char.isDigit
    let rest := cs.dropWhile Char.isDigit
    let fraction := if rest.head? = some '.' then rest.tail.takeWhile Char.isDigit else []
    let exponent := signedValue (rest.dropWhile fun c => c = '.' || c.isDigit).tail
    ofDecimal negative (digitsValue (whole ++ fraction)) (exponent - fraction.length)

end DebugAdapter.Binary64
