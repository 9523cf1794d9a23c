import DebugAdapter.Json.Basic
import DebugAdapter.Number.Decimal

/-!
# Writing JSON

One form per value: no blanks, members in the order they have. In a string
only the quote, the backslash and the controls are escaped. A floating-point
number is written with the fewest digits that read back, a tie going to the
even digit; always with a point, unless it has an exponent.
-/

namespace DebugAdapter.Json

def hexPair (n : Nat) : List Char := [Nat.digitChar (n / 16), Nat.digitChar (n % 16)]

def escape (c : Char) : List Char :=
  if c = '"' then ['\\', '"']
  else if c = '\\' then ['\\', '\\']
  else if c = '\n' then ['\\', 'n']
  else if c = '\r' then ['\\', 'r']
  else if c = '\t' then ['\\', 't']
  else if c = '\x08' then ['\\', 'b']
  else if c = '\x0c' then ['\\', 'f']
  else if c.toNat < 0x20 then ['\\', 'u', '0', '0'] ++ hexPair c.toNat
  else [c]

def strChars (s : String) : List Char := '"' :: s.toList.flatMap escape ++ ['"']

def intChars : Int → List Char
  | .ofNat n => Nat.toDigits 10 n
  | .negSucc n => '-' :: Nat.toDigits 10 (n + 1)

def scientific (digits : List Char) : List Char :=
  match digits with
  | [] => []
  | [d] => [d]
  | d :: rest => d :: '.' :: rest

def exponentChars (e : Int) : List Char := if 0 ≤ e then '+' :: intChars e else intChars e

/-- A decimal: positional between `1e-5` and `1e16`, otherwise with an exponent. -/
def decimalChars (d : Decimal) : List Char :=
  let digits := Nat.toDigits 10 d.digits
  let point := (digits.length : Int) + d.exponent
  if -5 < point && point ≤ 16 then
    match d.parts with
    | (whole, []) => whole ++ ['.', '0']
    | (whole, fraction) => whole ++ '.' :: fraction
  else scientific digits ++ 'e' :: exponentChars (point - 1)

def floatChars : Binary64 → List Char
  | .finite s m e => (if s then ['-'] else []) ++ decimalChars (Decimal.shortest m e .even)
  | _ => ['n', 'u', 'l', 'l']

mutual

def chars : Json → List Char
  | .null => ['n', 'u', 'l', 'l']
  | .bool true => ['t', 'r', 'u', 'e']
  | .bool false => ['f', 'a', 'l', 's', 'e']
  | .int n => intChars n
  | .float x => floatChars x
  | .str s => strChars s
  | .arr [] => ['[', ']']
  | .arr (x :: xs) => '[' :: chars x ++ tailChars xs
  | .obj [] => ['\x7b', '\x7d']
  | .obj ((k, v) :: ms) => '\x7b' :: strChars k ++ ':' :: chars v ++ memberChars ms

def tailChars : List Json → List Char
  | [] => [']']
  | x :: xs => ',' :: chars x ++ tailChars xs

def memberChars : List (String × Json) → List Char
  | [] => ['\x7d']
  | (k, v) :: ms => ',' :: strChars k ++ ':' :: chars v ++ memberChars ms

end

def print (j : Json) : String := String.ofList (chars j)

end DebugAdapter.Json
