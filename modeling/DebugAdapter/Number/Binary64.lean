/-!
# Binary floating-point numbers

Numbers of 53 significant bits, as values: not a number, an infinity, or
`± mantissa · 2 ^ exponent`. Every operation is exact arithmetic on naturals
followed by one rounding, to the nearest number and on a tie to the even
mantissa.
-/

namespace DebugAdapter

inductive Binary64 where
  | nan
  | infinite (negative : Bool)
  | finite (negative : Bool) (mantissa : Nat) (exponent : Int)
  deriving Repr, DecidableEq

namespace Binary64

def minExponent : Int := -1074

def maxExponent : Int := 971

def zero (negative : Bool) : Binary64 := .finite negative 0 minExponent

/-- `m · 2 ^ e` for a rounded mantissa of at most `2 ^ 53`. -/
def pack (negative : Bool) (m : Nat) (e : Int) : Binary64 :=
  let (m, e) := if m = 0x20000000000000 then (0x10000000000000, e + 1) else (m, e)
  if e > maxExponent then .infinite negative else .finite negative m e

/-- `num / den` in units of `2 ^ e`, as a quotient and the parts of its remainder. -/
def inUnits (num den : Nat) (e : Int) : Nat × Nat × Nat :=
  let num := num * Nat.pow 2 (-e).toNat
  let den := den * Nat.pow 2 e.toNat
  (num / den, num % den, den)

/-- The number nearest to `± num / den`. -/
def ofRatio (negative : Bool) (num den : Nat) : Binary64 :=
  if num = 0 then zero negative else
    let guess := max minExponent ((num.log2 : Int) - den.log2 - 53)
    let e := if (inUnits num den guess).1 < 0x20000000000000 then guess else guess + 1
    let (q, r, d) := inUnits num den e
    let up := d < 2 * r || (d = 2 * r && q % 2 = 1)
    pack negative (if up then q + 1 else q) e

def ofNat (n : Nat) : Binary64 := ofRatio false n 1

def neg : Binary64 → Binary64
  | .nan => .nan
  | .infinite s => .infinite (!s)
  | .finite s m e => .finite (!s) m e

def ratio (m : Nat) (e : Int) : Nat × Nat := (m * Nat.pow 2 e.toNat, Nat.pow 2 (-e).toNat)

/-- `x · n / d`, rounded once. -/
def scale (x : Binary64) (n d : Nat) : Binary64 :=
  match x with
  | .finite s m e => let (a, b) := ratio m e; ofRatio s (a * n) (b * d)
  | x => x

def mul (x y : Binary64) : Binary64 :=
  match y with
  | .finite _ m e => let (a, b) := ratio m e; x.scale a b
  | _ => .nan

def div (x y : Binary64) : Binary64 :=
  match y with
  | .finite _ m e => let (a, b) := ratio m e; x.scale b a
  | _ => .nan

def isZero : Binary64 → Bool
  | .finite _ m _ => m = 0
  | _ => false

def isInfinite : Binary64 → Bool
  | .infinite _ => true
  | _ => false

def ofDecimal (negative : Bool) (digits : Nat) (exponent : Int) : Binary64 :=
  if digits = 0 then zero negative
  else
    let magnitude := (digits.log2 : Int) * 30103 / 100000 + exponent
    if magnitude > 400 then .infinite negative
    else if magnitude < -400 then zero negative
    else ofRatio negative (digits * Nat.pow 10 exponent.toNat) (Nat.pow 10 (-exponent).toNat)

/-- The integer a number stands for, if it has no fraction. -/
def integer? : Binary64 → Option Int
  | .finite s m e =>
    let (a, b) := ratio m e
    if a % b = 0 then some (if s then -(a / b : Nat) else (a / b : Nat)) else none
  | _ => none

end Binary64

end DebugAdapter
