import DebugAdapter.Json.Number
import DebugAdapter.Text.Utf8

/-!
# Reading JSON

`parse?` reads one value and nothing after it. Arrays and objects nest less
than 128 deep; a string holds no control characters and no surrogate without
its partner. Where an object has two members of one name, the last one counts.
-/

namespace DebugAdapter.Json

/-- Containers nest less deep than this. -/
def depthLimit : Nat := 128

def isSpace (c : Char) : Bool := c = ' ' || c = '\n' || c = '\t' || c = '\r'

def skipSpace (cs : List Char) : List Char := cs.dropWhile isSpace

-- ---------------------------------------------------------------------------
-- Strings
-- ---------------------------------------------------------------------------

def hexDigit? (c : Char) : Option Nat :=
  if '0' ≤ c && c ≤ '9' then some (c.toNat - '0'.toNat)
  else if 'a' ≤ c && c ≤ 'f' then some (c.toNat - 'a'.toNat + 10)
  else if 'A' ≤ c && c ≤ 'F' then some (c.toNat - 'A'.toNat + 10)
  else none

/-- The unit of 16 bits that four hexadecimal digits name. -/
def unit? (a b c d : Char) : Option Nat := do
  return (((← hexDigit? a) * 16 + (← hexDigit? b)) * 16 + (← hexDigit? c)) * 16 + (← hexDigit? d)

def isHighSurrogate (n : Nat) : Bool := 0xd800 ≤ n && n ≤ 0xdbff

def isLowSurrogate (n : Nat) : Bool := 0xdc00 ≤ n && n ≤ 0xdfff

def letter? : Char → Option Char
  | '"' => some '"'
  | '\\' => some '\\'
  | '/' => some '/'
  | 'b' => some '\x08'
  | 'f' => some '\x0c'
  | 'n' => some '\n'
  | 'r' => some '\r'
  | 't' => some '\t'
  | _ => none

def consChar (c : Char) (r : Option (List Char × List Char)) : Option (List Char × List Char) :=
  r.map fun p => (c :: p.1, p.2)

def stringBody : List Char → Option (List Char × List Char)
  | [] => none
  | '"' :: rest => some ([], rest)
  | '\\' :: 'u' :: a :: b :: c :: d :: '\\' :: 'u' :: a' :: b' :: c' :: d' :: rest =>
    match unit? a b c d with
    | none => none
    | some n =>
      if isHighSurrogate n then
        match unit? a' b' c' d' with
        | none => none
        | some m =>
          if isLowSurrogate m then
            consChar (Char.ofNat (0x10000 + (n - 0xd800) * 0x400 + (m - 0xdc00))) (stringBody rest)
          else none
      else if isLowSurrogate n then none
      else consChar (Char.ofNat n) (stringBody ('\\' :: 'u' :: a' :: b' :: c' :: d' :: rest))
  | '\\' :: 'u' :: a :: b :: c :: d :: rest =>
    match unit? a b c d with
    | none => none
    | some n =>
      if isHighSurrogate n || isLowSurrogate n then none
      else consChar (Char.ofNat n) (stringBody rest)
  | '\\' :: c :: rest =>
    match letter? c with
    | some l => consChar l (stringBody rest)
    | none => none
  | c :: rest => if c.toNat < 0x20 || c = '\\' then none else consChar c (stringBody rest)
termination_by cs => cs.length

-- ---------------------------------------------------------------------------
-- Numbers
-- ---------------------------------------------------------------------------

def takeDigits (cs : List Char) : List Char × List Char :=
  (cs.takeWhile Char.isDigit, cs.dropWhile Char.isDigit)

/-- The digits before the point: `0`, or digits that start with another one. -/
def whole? (cs : List Char) : Option (List Char × List Char) :=
  match takeDigits cs with
  | ([], _) => none
  | ('0' :: _ :: _, _) => none
  | (digits, rest) => some (digits, rest)

def fraction? : List Char → Option (Option (List Char) × List Char)
  | '.' :: cs =>
    match takeDigits cs with
    | ([], _) => none
    | (digits, rest) => some (some digits, rest)
  | cs => some (none, cs)

def exponentDigits? (negative : Bool) (cs : List Char) :
    Option (Option (Bool × List Char) × List Char) :=
  match takeDigits cs with
  | ([], _) => none
  | (digits, rest) => some (some (negative, digits), rest)

def exponentPart? : List Char → Option (Option (Bool × List Char) × List Char)
  | 'e' :: '+' :: cs | 'E' :: '+' :: cs => exponentDigits? false cs
  | 'e' :: '-' :: cs | 'E' :: '-' :: cs => exponentDigits? true cs
  | 'e' :: cs | 'E' :: cs => exponentDigits? false cs
  | cs => some (none, cs)

def unsigned? (negative : Bool) (cs : List Char) : Option (Json × List Char) := do
  let (whole, cs) ← whole? cs
  let (fraction, cs) ← fraction? cs
  let (exponent, cs) ← exponentPart? cs
  let value ← NumberText.value? ⟨negative, whole, fraction, exponent⟩
  return (value, cs)

-- ---------------------------------------------------------------------------
-- Values
-- ---------------------------------------------------------------------------

mutual

/-- A value at the head of the characters, and the rest. -/
def value? : (fuel depth : Nat) → List Char → Option (Json × List Char)
  | 0, _, _ => none
  | fuel + 1, depth, cs =>
    match cs with
    | 'n' :: 'u' :: 'l' :: 'l' :: rest => some (.null, rest)
    | 't' :: 'r' :: 'u' :: 'e' :: rest => some (.bool true, rest)
    | 'f' :: 'a' :: 'l' :: 's' :: 'e' :: rest => some (.bool false, rest)
    | '"' :: rest => (stringBody rest).map fun p => (.str (String.ofList p.1), p.2)
    | '-' :: rest => unsigned? true rest
    | '[' :: rest =>
      if depth ≤ 1 then none
      else match skipSpace rest with
        | ']' :: rest => some (.arr [], rest)
        | rest => (items? fuel (depth - 1) rest).map fun p => (.arr p.1, p.2)
    | '\x7b' :: rest =>
      if depth ≤ 1 then none
      else match skipSpace rest with
        | '\x7d' :: rest => some (.obj [], rest)
        | rest => (members? fuel (depth - 1) rest).map fun p => (object p.1, p.2)
    | cs => unsigned? false cs

def items? : (fuel depth : Nat) → List Char → Option (List Json × List Char)
  | 0, _, _ => none
  | fuel + 1, depth, cs =>
    match value? fuel depth cs with
    | none => none
    | some (item, rest) =>
      match skipSpace rest with
      | ',' :: rest => (items? fuel depth (skipSpace rest)).map fun p => (item :: p.1, p.2)
      | ']' :: rest => some ([item], rest)
      | _ => none

/-- The members up to the closing brace, in the order they are written. -/
def members? : (fuel depth : Nat) → List Char → Option (List (String × Json) × List Char)
  | 0, _, _ => none
  | fuel + 1, depth, cs =>
    match cs with
    | '"' :: rest =>
      match stringBody rest with
      | none => none
      | some (name, rest) =>
        match skipSpace rest with
        | ':' :: rest =>
          match value? fuel depth (skipSpace rest) with
          | none => none
          | some (value, rest) =>
            let member := (String.ofList name, value)
            match skipSpace rest with
            | ',' :: rest =>
              (members? fuel depth (skipSpace rest)).map fun p => (member :: p.1, p.2)
            | '\x7d' :: rest => some ([member], rest)
            | _ => none
        | _ => none
    | _ => none

end

def parseChars? (cs : List Char) : Option Json :=
  match value? (2 * cs.length + 2) depthLimit (skipSpace cs) with
  | some (value, rest) => if (skipSpace rest).isEmpty then some value else none
  | none => none

def parse? (s : String) : Option Json := parseChars? s.toList

/-- The value that a payload is: well-formed text, and one value. -/
def ofBytes? (bytes : Text.Bytes) : Option Json := (Text.decode? bytes).bind parse?

end DebugAdapter.Json
