import DebugAdapter.Number.Binary64

/-!
# Shortest decimals

The decimal with the fewest digits among those that read back as a given
binary number, and of those the nearest to it. A binary number owns the
interval of reals that round to it; its ends belong to it when its mantissa
is even.
-/

namespace DebugAdapter

/-- The decimal number `digits · 10 ^ exponent`. -/
structure Decimal where
  digits : Nat
  exponent : Int
  deriving Repr, DecidableEq

namespace Decimal

/-- Which of two equally near decimals is taken. -/
inductive Tie where
  | up
  | even
  deriving Repr, DecidableEq

/-- The reals that round to a binary number, in units of a quarter of its
last place times `2 ^ scale`: the low end, the number itself, the high end. -/
structure Interval where
  low : Nat
  value : Nat
  high : Nat
  /-- All three are to be multiplied by `num / den`. -/
  num : Nat
  den : Nat
  closed : Bool

def Interval.of (m : Nat) (e : Int) : Interval where
  low := if m = 0x10000000000000 && e > Binary64.minExponent then 4 * m - 1 else 4 * m - 2
  value := 4 * m
  high := 4 * m + 2
  num := Nat.pow 2 e.toNat
  den := 4 * Nat.pow 2 (-e).toNat
  closed := m % 2 = 0

/-- Does the decimal `d · 10 ^ p` lie in the interval? -/
def Interval.holds (i : Interval) (d : Nat) (p : Int) : Bool :=
  let x := d * Nat.pow 10 p.toNat * i.den
  let unit := i.num * Nat.pow 10 (-p).toNat
  if i.closed then i.low * unit ≤ x && x ≤ i.high * unit
  else i.low * unit < x && x < i.high * unit

/-- The two neighbours of the number on the grid of the multiples of
`10 ^ p`, and whether the upper one is nearer (or as near, and `tie` takes it). -/
def Interval.neighbours (i : Interval) (p : Int) (tie : Tie) : Nat × Nat × Bool :=
  let x := i.value * i.num * Nat.pow 10 (-p).toNat
  let grid := i.den * Nat.pow 10 p.toNat
  let d := x / grid
  let r := x % grid
  let upper := grid < 2 * r || (grid = 2 * r && (tie = .up || d % 2 = 1))
  (d, d + 1, upper)

/-- The best point of the grid `10 ^ p` that reads back, if there is one. -/
def Interval.onGrid? (i : Interval) (p : Int) (tie : Tie) : Option Nat :=
  let (a, b, upper) := i.neighbours p tie
  match i.holds a p, i.holds b p with
  | true, true => some (if upper then b else a)
  | true, false => some a
  | false, true => some b
  | false, false => none

def Interval.search (i : Interval) (tie : Tie) : Nat → Int → Decimal
  | 0, p => ⟨(i.onGrid? p tie).getD 0, p⟩
  | n + 1, p =>
    match i.onGrid? p tie with
    | some d => ⟨d, p⟩
    | none => i.search tie n (p - 1)

/-- An exponent `p` with `m · 2 ^ e < 10 ^ p`. -/
def ceilingExponent (m : Nat) (e : Int) : Int := ((m.log2 : Int) + 1 + e) * 30103 / 100000 + 1

/-- The shortest decimal that reads back as `m · 2 ^ e`. -/
def shortest (m : Nat) (e : Int) (tie : Tie) : Decimal :=
  if m = 0 then ⟨0, 0⟩
  else (Interval.of m e).search tie 20 (ceilingExponent m e)

end Decimal

end DebugAdapter
