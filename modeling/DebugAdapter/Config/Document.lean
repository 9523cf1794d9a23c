import DebugAdapter.Number.Decimal

/-!
# Settings documents

A settings document is a TOML document of keys with texts, integers and truth
values. No setting is a table, an array, a fraction or a date, so a document
with one of these is no settings document, whatever else it holds. A key may
be given once.
-/

namespace DebugAdapter

inductive SettingValue where
  | text (value : String)
  | integer (value : Int)
  | boolean (value : Bool)
  deriving Repr, DecidableEq

namespace SettingsDocument

/-- A value at the head of some characters, and what comes after it. -/
abbrev Read (α : Type) := List Char → Option (α × List Char)

-- ---------------------------------------------------------------------------
-- Blanks and line ends
-- ---------------------------------------------------------------------------

def isSpace (c : Char) : Bool := c = ' ' || c = '\t'

def skipSpaces (cs : List Char) : List Char := cs.dropWhile isSpace

/-- A character that may stand in a comment. -/
def isPrintable (c : Char) : Bool :=
  c = '\t' || (0x20 ≤ c.toNat && c.toNat ≤ 0x7e) || 0x80 ≤ c.toNat

/-- What comes after the end of a line; the end of the document is one. -/
def lineEnd? : List Char → Option (List Char)
  | [] => some []
  | '\n' :: rest => some rest
  | '\r' :: '\n' :: rest => some rest
  | _ => none

/-- Goes past spaces, a comment and the end of the line. -/
def restOfLine? (cs : List Char) : Option (List Char) :=
  match skipSpaces cs with
  | '#' :: rest => lineEnd? (rest.dropWhile isPrintable)
  | rest => lineEnd? rest

-- ---------------------------------------------------------------------------
-- Texts
-- ---------------------------------------------------------------------------

def hexDigit? (c : Char) : Option Nat :=
  if c.isDigit then some (c.toNat - '0'.toNat)
  else if 'a' ≤ c ∧ c ≤ 'f' then some (c.toNat - 'a'.toNat + 10)
  else if 'A' ≤ c ∧ c ≤ 'F' then some (c.toNat - 'A'.toNat + 10)
  else none

def codePoint? (count : Nat) : Read Char := fun cs => do
  let digits ← (cs.take count).mapM hexDigit?
  let n := digits.foldl (fun n d => n * 16 + d) 0
  if digits.length = count ∧ n.isValidChar then some (Char.ofNat n, cs.drop count) else none

def escape? : Read Char
  | 'b' :: rest => some ('\x08', rest)
  | 't' :: rest => some ('\t', rest)
  | 'n' :: rest => some ('\n', rest)
  | 'f' :: rest => some ('\x0c', rest)
  | 'r' :: rest => some ('\r', rest)
  | '"' :: rest => some ('"', rest)
  | '\\' :: rest => some ('\\', rest)
  | 'u' :: rest => codePoint? 4 rest
  | 'U' :: rest => codePoint? 8 rest
  | _ => none

def basicRest? : Nat → Read (List Char)
  | 0, _ => none
  | fuel + 1, cs =>
    match cs with
    | '"' :: rest => some ([], rest)
    | '\\' :: rest => do
      let (c, rest) ← escape? rest
      let (more, rest) ← basicRest? fuel rest
      return (c :: more, rest)
    | c :: rest =>
      if isPrintable c then (basicRest? fuel rest).map fun p => (c :: p.1, p.2) else none
    | [] => none

def literalRest? : Read (List Char)
  | [] => none
  | '\'' :: rest => some ([], rest)
  | c :: rest => if isPrintable c then (literalRest? rest).map fun p => (c :: p.1, p.2) else none

/-- The line end at the start of a text over several lines does not count. -/
def dropFirstLineEnd : List Char → List Char
  | '\n' :: rest => rest
  | '\r' :: '\n' :: rest => rest
  | cs => cs

def skipLines : List Char → List Char
  | '\n' :: rest => skipLines rest
  | '\r' :: '\n' :: rest => skipLines rest
  | c :: rest => if isSpace c then skipLines rest else c :: rest
  | [] => []

/-- What comes after a line end that a backslash takes back, with the blanks
and line ends after it. -/
def continuation? (cs : List Char) : Option (List Char) :=
  match skipSpaces cs with
  | '\n' :: rest => some (skipLines rest)
  | '\r' :: '\n' :: rest => some (skipLines rest)
  | _ => none

/-- The rest of a text over several lines. It ends at three quotes; one or two
quotes before those belong to it. -/
def multilineRest? (quote : Char) (escapes : Bool) : Nat → Read (List Char)
  | 0, _ => none
  | fuel + 1, cs =>
    match cs with
    | [] => none
    | '\r' :: '\n' :: rest =>
      (multilineRest? quote escapes fuel rest).map fun p => ('\n' :: p.1, p.2)
    | c :: rest =>
      if c = quote then
        let count := (cs.takeWhile (· = quote)).length
        if 3 ≤ count then
          let inside := min (count - 3) 2
          some (List.replicate inside quote, cs.drop (inside + 3))
        else (multilineRest? quote escapes fuel rest).map fun p => (c :: p.1, p.2)
      else if escapes && c = '\\' then
        match continuation? rest with
        | some rest => multilineRest? quote escapes fuel rest
        | none => do
          let (c, rest) ← escape? rest
          let (more, rest) ← multilineRest? quote escapes fuel rest
          return (c :: more, rest)
      else if isPrintable c || c = '\n' then
        (multilineRest? quote escapes fuel rest).map fun p => (c :: p.1, p.2)
      else none

def text? : Read String := fun cs =>
  let chars := match cs with
    | '"' :: '"' :: '"' :: rest => multilineRest? '"' true cs.length (dropFirstLineEnd rest)
    | '\'' :: '\'' :: '\'' :: rest => multilineRest? '\'' false cs.length (dropFirstLineEnd rest)
    | '"' :: rest => basicRest? cs.length rest
    | '\'' :: rest => literalRest? rest
    | _ => none
  chars.map fun p => (String.ofList p.1, p.2)

-- ---------------------------------------------------------------------------
-- Integers
-- ---------------------------------------------------------------------------

def digit? (radix : Nat) (c : Char) : Option Nat := (hexDigit? c).filter (· < radix)

/-- Digits with single underscores between them, onto a number. -/
def digits (radix : Nat) (n : Nat) : List Char → Nat × List Char
  | '_' :: c :: rest =>
    match digit? radix c with
    | some d => digits radix (n * radix + d) rest
    | none => (n, '_' :: c :: rest)
  | c :: rest =>
    match digit? radix c with
    | some d => digits radix (n * radix + d) rest
    | none => (n, c :: rest)
  | [] => (n, [])

def number? (radix : Nat) : Read Nat
  | [] => none
  | c :: rest => (digit? radix c).map fun d => digits radix d rest

/-- A decimal number without leading zeros. -/
def decimal? : Read Nat
  | '0' :: rest => some (0, rest)
  | cs => number? 10 cs

def integer? : Read Int
  | '0' :: 'x' :: rest => (number? 16 rest).map fun p => (p.1, p.2)
  | '0' :: 'o' :: rest => (number? 8 rest).map fun p => (p.1, p.2)
  | '0' :: 'b' :: rest => (number? 2 rest).map fun p => (p.1, p.2)
  | '+' :: rest => (decimal? rest).map fun p => (p.1, p.2)
  | '-' :: rest => (decimal? rest).map fun p => (-(p.1 : Int), p.2)
  | cs => (decimal? cs).map fun p => (p.1, p.2)

/-- Integers are those of 64 bits. -/
def fits (n : Int) : Bool := -0x8000000000000000 ≤ n && n < 0x8000000000000000

-- ---------------------------------------------------------------------------
-- Documents
-- ---------------------------------------------------------------------------

def value? : Read SettingValue := fun cs =>
  match cs with
  | '"' :: _ => (text? cs).map fun p => (.text p.1, p.2)
  | '\'' :: _ => (text? cs).map fun p => (.text p.1, p.2)
  | 't' :: 'r' :: 'u' :: 'e' :: rest => some (.boolean true, rest)
  | 'f' :: 'a' :: 'l' :: 's' :: 'e' :: rest => some (.boolean false, rest)
  | _ =>
    match integer? cs with
    | some (n, rest) => if fits n then some (.integer n, rest) else none
    | none => none

/-- A character of a key without quotes. -/
def isBareKeyChar (c : Char) : Bool := c.isAlphanum || c = '-' || c = '_'

def key? : Read String := fun cs =>
  match cs with
  | '"' :: rest => (basicRest? cs.length rest).map fun p => (String.ofList p.1, p.2)
  | '\'' :: rest => (literalRest? rest).map fun p => (String.ofList p.1, p.2)
  | _ =>
    match cs.takeWhile isBareKeyChar with
    | [] => none
    | name => some (String.ofList name, cs.dropWhile isBareKeyChar)

def entry? : Read (String × SettingValue) := fun cs => do
  let (name, rest) ← key? cs
  match skipSpaces rest with
  | '=' :: rest =>
    let (value, rest) ← value? (skipSpaces rest)
    return ((name, value), ← restOfLine? rest)
  | _ => none

def entries? : Nat → List Char → Option (List (String × SettingValue))
  | 0, _ => none
  | fuel + 1, cs =>
    match skipSpaces cs with
    | [] => some []
    | cs =>
      match restOfLine? cs with
      | some rest => entries? fuel rest
      | none => do
        let (entry, rest) ← entry? cs
        return entry :: (← entries? fuel rest)

def distinctKeys : List (String × SettingValue) → Bool
  | [] => true
  | e :: rest => !(rest.any fun f => f.1 = e.1) && distinctKeys rest

/-- The entries of a document, none if it is no settings document. -/
def parse? (text : String) : Option (List (String × SettingValue)) :=
  let cs := match text.toList with
    | '\uFEFF' :: rest => rest
    | cs => cs
  (entries? (cs.length + 1) cs).filter distinctKeys

end SettingsDocument

end DebugAdapter
