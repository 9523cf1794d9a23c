/-!
# Sets of code points

A set is a list of ranges, by ascending start, that neither overlap nor touch.
Surrogates are no characters: the character before U+E000 is U+D7FF. Tables
are written as text, in hexadecimal: a single code point, a range `41-5a`, or
a range with a step `100-12e/2`.
-/

namespace DebugAdapter.Unicode

abbrev CodeRange := Nat × Nat

structure CodeSet where
  ranges : List CodeRange
  deriving Repr, DecidableEq, Inhabited

def maxCode : Nat := 0x10ffff

/-- The code point of the next character. -/
def nextCode (n : Nat) : Nat := if n = 0xd7ff then 0xe000 else n + 1

def prevCode (n : Nat) : Nat := if n = 0xe000 then 0xd7ff else n - 1

namespace CodeSet

-- ---------------------------------------------------------------------------
-- Operations
-- ---------------------------------------------------------------------------

/-- Joins the ranges that overlap or touch, given ranges by ascending start. -/
def joinRanges : List CodeRange → List CodeRange
  | [] => []
  | r :: rest =>
    let rec go (low high : Nat) : List CodeRange → List CodeRange
      | [] => [(low, high)]
      | (a, b) :: rest =>
        if a ≤ high + 1 then go low (max high b) rest else (low, high) :: go a b rest
    go r.1 r.2 rest

def ofRanges (rs : List CodeRange) : CodeSet := ⟨joinRanges (rs.mergeSort fun a b => a.1 ≤ b.1)⟩

def empty : CodeSet := ⟨[]⟩

def all : CodeSet := ⟨[(0, maxCode)]⟩

def range (low high : Nat) : CodeSet := ⟨[(low, high)]⟩

def isEmpty (s : CodeSet) : Bool := s.ranges.isEmpty

def contains (s : CodeSet) (n : Nat) : Bool := s.ranges.any fun r => r.1 ≤ n && n ≤ r.2

def union (a b : CodeSet) : CodeSet := ofRanges (a.ranges ++ b.ranges)

def unionAll (sets : List CodeSet) : CodeSet := ofRanges (sets.flatMap CodeSet.ranges)

def shared : List CodeRange → List CodeRange → List CodeRange
  | [], _ => []
  | _, [] => []
  | (a, b) :: r, (c, d) :: s =>
    let rest := if b < d then shared r ((c, d) :: s) else shared ((a, b) :: r) s
    if max a c ≤ min b d then (max a c, min b d) :: rest else rest
termination_by r s => r.length + s.length

def inter (a b : CodeSet) : CodeSet := ⟨shared a.ranges b.ranges⟩

/-- What lies between neighbouring ranges. The ends of a gap change places if
no character lies in it, as only surrogates do between U+D7FF and U+E000. -/
def between : List CodeRange → List CodeRange
  | (_, b) :: (c, d) :: rest => (nextCode b, prevCode c) :: between ((c, d) :: rest)
  | _ => []

/-- What lies before, between and after some ranges, up to a last code point. -/
def outside (last : Nat) (rs : List CodeRange) : List CodeRange :=
  match rs.head?, rs.getLast? with
  | some first, some final =>
    (if 0 < first.1 then [(0, prevCode first.1)] else []) ++ between rs ++
      (if final.2 < last then [(nextCode final.2, last)] else [])
  | _, _ => [(0, last)]

def diff (a b : CodeSet) : CodeSet :=
  ⟨shared a.ranges ((outside maxCode b.ranges).filter fun g => g.1 ≤ g.2)⟩

def symmDiff (a b : CodeSet) : CodeSet := (a.union b).diff (a.inter b)

/-- The other characters. Where two ranges have surrogates between them and
nothing else, their two ends are taken for the gap. -/
def complement (s : CodeSet) : CodeSet :=
  ⟨(outside maxCode s.ranges).map fun g => (min g.1 g.2, max g.1 g.2)⟩

/-- Is a code point in a part of an index, from a place on and before another one? -/
def searchIndex (index : Array CodeRange) (n first stop : Nat) : Bool :=
  if first < stop then
    let middle := (first + stop) / 2
    match index[middle]? with
    | none => false
    | some (low, high) =>
      if n < low then searchIndex index n first middle
      else if high < n then searchIndex index n (middle + 1) stop
      else true
  else false
termination_by stop - first

/-- The ranges of a set, to be searched by halving. -/
def index (s : CodeSet) : Array CodeRange := s.ranges.toArray

def inIndex (index : Array CodeRange) (n : Nat) : Bool := searchIndex index n 0 index.size

instance : Union CodeSet := ⟨union⟩
instance : Inter CodeSet := ⟨inter⟩
instance : SDiff CodeSet := ⟨diff⟩

-- ---------------------------------------------------------------------------
-- Tables
-- ---------------------------------------------------------------------------

def hexValue (c : Char) : Nat :=
  if c.isDigit then c.toNat - '0'.toNat
  else if 'a' ≤ c && c ≤ 'f' then c.toNat - 'a'.toNat + 10
  else 0

def hexNumber (cs : List Char) : Nat := cs.foldl (fun n c => n * 16 + hexValue c) 0

def splitOnce (c : Char) (cs : List Char) : List Char × Option (List Char) :=
  match cs.dropWhile (· ≠ c) with
  | [] => (cs, none)
  | _ :: rest => (cs.takeWhile (· ≠ c), some rest)

/-- The code points that an entry of a table stands for: first, last and step. -/
def entryBounds (entry : List Char) : Nat × Nat × Nat :=
  let (bounds, step) := splitOnce '/' entry
  let (low, high) := splitOnce '-' bounds
  (hexNumber low, hexNumber (high.getD low), (step.map hexNumber).getD 1)

def entryRanges (entry : List Char) : List CodeRange :=
  let (low, high, step) := entryBounds entry
  if step = 1 then [(low, high)]
  else (List.range ((high - low) / step + 1)).map fun i => (low + i * step, low + i * step)

def entries (lines : List String) : List (List Char) :=
  lines.flatMap fun line => (line.splitOn " ").map String.toList

def ofLines (lines : List String) : CodeSet := ofRanges ((entries lines).flatMap entryRanges)

end CodeSet

end DebugAdapter.Unicode
