import DebugAdapter.Number.Decimal

/-!
# Internet addresses

Reading and writing addresses of both kinds. Octets have no leading zeros. Of
the eight groups of a long address one run of zeros may be left out, and the
last two groups may be written as a short address. Written addresses leave out
the first of the longest runs of two or more zeros.
-/

namespace DebugAdapter

inductive IpAddress where
  | v4 (a b c d : Nat)
  /-- Eight groups of 16 bits. -/
  | v6 (groups : List Nat)
  deriving Repr, DecidableEq

namespace IpAddress

-- ---------------------------------------------------------------------------
-- Reading
-- ---------------------------------------------------------------------------

def hexDigit? (c : Char) : Option Nat :=
  if c.isDigit then some (c.toNat - '0'.toNat)
  else if 'a' ≤ c ∧ c ≤ 'f' then some (c.toNat - 'a'.toNat + 10)
  else if 'A' ≤ c ∧ c ≤ 'F' then some (c.toNat - 'A'.toNat + 10)
  else none

def digits (radix : Nat) : List Char → List Nat × List Char
  | [] => ([], [])
  | c :: rest =>
    match (hexDigit? c).filter (· < radix) with
    | none => ([], c :: rest)
    | some d => let (ds, rest) := digits radix rest; (d :: ds, rest)

def digitsValue (radix : Nat) (ds : List Nat) : Nat := ds.foldl (fun n d => n * radix + d) 0

def octet? (cs : List Char) : Option (Nat × List Char) :=
  let (ds, rest) := digits 10 cs
  let n := digitsValue 10 ds
  if ds.isEmpty || 3 < ds.length || (ds.head? = some 0 && ds.length ≠ 1) || 255 < n then none
  else some (n, rest)

/-- Up to four digits in base 16. -/
def group? (cs : List Char) : Option (Nat × List Char) :=
  let (ds, rest) := digits 16 cs
  if ds.isEmpty || 4 < ds.length then none else some (digitsValue 16 ds, rest)

/-- What comes after a separator; the first part has none before it. -/
def afterSeparator (sep : Char) (first : Bool) (cs : List Char) : Option (List Char) :=
  if first then some cs
  else match cs with
    | c :: rest => if c = sep then some rest else none
    | [] => none

def octets? : Nat → Bool → List Char → Option (List Nat × List Char)
  | 0, _, cs => some ([], cs)
  | n + 1, first, cs => do
    let (o, rest) ← octet? (← afterSeparator '.' first cs)
    let (os, rest) ← octets? n false rest
    return (o :: os, rest)

/-- A short address in the place of two groups. -/
def embedded? (cs : List Char) : Option (List Nat × List Char) :=
  match octets? 4 true cs with
  | some ([a, b, c, d], rest) => some ([a * 256 + b, c * 256 + d], rest)
  | _ => none

/-- At most so many groups with colons between them, and whether they end in a
short address. -/
def groups : Nat → Bool → List Char → List Nat × Bool × List Char
  | 0, _, cs => ([], false, cs)
  | n + 1, first, cs =>
    let short := if n = 0 then none else (afterSeparator ':' first cs).bind embedded?
    match short with
    | some (gs, rest) => (gs, true, rest)
    | none =>
      match (afterSeparator ':' first cs).bind group? with
      | none => ([], false, cs)
      | some (g, rest) =>
        let (gs, isShort, rest) := groups n false rest
        (g :: gs, isShort, rest)

def v6? (cs : List Char) : Option (IpAddress × List Char) :=
  let (front, isShort, rest) := groups 8 true cs
  if front.length = 8 then some (.v6 front, rest)
  else if isShort then none
  else match rest with
    | ':' :: ':' :: rest =>
      let (back, _, rest) := groups (7 - front.length) true rest
      some (.v6 (front ++ List.replicate (8 - front.length - back.length) 0 ++ back), rest)
    | _ => none

def v4? (cs : List Char) : Option (IpAddress × List Char) :=
  match octets? 4 true cs with
  | some ([a, b, c, d], rest) => some (.v4 a b c d, rest)
  | _ => none

def parse? (text : String) : Option IpAddress :=
  match v4? text.toList <|> v6? text.toList with
  | some (address, []) => some address
  | _ => none

-- ---------------------------------------------------------------------------
-- Writing
-- ---------------------------------------------------------------------------

def v4Text (a b c d : Nat) : String :=
  ".".intercalate ([a, b, c, d].map Decimal.digitsText)

def groupsText (gs : List Nat) : String := ":".intercalate (gs.map hexText)

/-- The first of the longest runs of zeros: its start and its length. `start`
and `run` are the run that is being counted at place `i`. -/
def longestZeros (i start run : Nat) (best : Nat × Nat) : List Nat → Nat × Nat
  | [] => best
  | g :: rest =>
    if g = 0 then
      let start := if run = 0 then i else start
      let best := if best.2 < run + 1 then (start, run + 1) else best
      longestZeros (i + 1) start (run + 1) best rest
    else longestZeros (i + 1) 0 0 best rest

def v6Text (gs : List Nat) : String :=
  let (start, length) := longestZeros 0 0 0 (0, 0) gs
  if 1 < length then groupsText (gs.take start) ++ "::" ++ groupsText (gs.drop (start + length))
  else groupsText gs

/-- The text of an address. A long address that stands for a short one shows it. -/
def text : IpAddress → String
  | .v4 a b c d => v4Text a b c d
  | .v6 [0, 0, 0, 0, 0, 0xffff, x, y] =>
    "::ffff:" ++ v4Text (x / 256) (x % 256) (y / 256) (y % 256)
  | .v6 gs => v6Text gs

end IpAddress

end DebugAdapter
