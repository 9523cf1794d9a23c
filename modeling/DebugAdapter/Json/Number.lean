import DebugAdapter.Json.Basic

/-!
# Reading JSON numbers

A number without fraction and exponent is an integer as long as it fits 64
bits, signed or not; every other one is a floating-point number. That one is
computed from as many leading digits as fit 64 bits, times or divided by a
rounded power of ten, so it may miss the nearest number by a unit in the last
place. A magnitude beyond the greatest number is an error.
-/

namespace DebugAdapter.Json

def maxUInt64 : Nat := 18446744073709551615

def maxExponentDigits : Nat := 2147483647

def digitValue (c : Char) : Nat := c.toNat - '0'.toNat

/-- Appends digits as long as the number fits 64 bits; the number and how
many digits it took. -/
def appendDigits : Nat → List Char → Nat × Nat
  | n, [] => (n, 0)
  | n, c :: rest =>
    let next := n * 10 + digitValue c
    if next ≤ maxUInt64 then let (m, k) := appendDigits next rest; (m, k + 1) else (n, 0)

/-- The digits of an exponent; none if they pass the greatest exponent. -/
def exponent? : Nat → List Char → Option Nat
  | n, [] => some n
  | n, c :: rest =>
    let next := n * 10 + digitValue c
    if next ≤ maxExponentDigits then exponent? next rest else none

/-- `x · 10 ^ exponent`, by powers of ten up to `10 ^ 308`; none if it is too great. -/
def timesPowerOfTen : Nat → Binary64 → Int → Option Binary64
  | 0, x, _ => some x
  | n + 1, x, e =>
    if e.natAbs ≤ 308 then
      let power := Binary64.ofDecimal false 1 e.natAbs
      if 0 ≤ e then
        let y := x.mul power
        if y.isInfinite then none else some y
      else some (x.div power)
    else if x.isZero then some x
    else if 0 ≤ e then none
    else timesPowerOfTen n (x.div (Binary64.ofDecimal false 1 308)) (e + 308)

structure NumberText where
  negative : Bool
  whole : List Char
  /-- The digits after the point. -/
  fraction : Option (List Char)
  /-- Is the exponent negative, and its digits. -/
  exponent : Option (Bool × List Char)

def NumberText.scaled (t : NumberText) (significand : Nat) (e : Int) : Option Json := do
  let x ← timesPowerOfTen 4 (Binary64.ofNat significand) e
  return .float (if t.negative then x.neg else x)

def NumberText.value? (t : NumberText) : Option Json :=
  let (n, used) := appendDigits 0 t.whole
  let dropped := t.whole.length - used
  match t.fraction, t.exponent with
  | none, none =>
    if dropped ≠ 0 then t.scaled n dropped
    else if !t.negative then some (.int n)
    else if n = 0 || 0x8000000000000000 < n then some (.float (Binary64.ofNat n).neg)
    else some (.int (-(n : Int)))
  | fraction, exponent =>
    let (n, places) := appendDigits n (fraction.getD [])
    let e : Int := dropped - places
    match exponent with
    | none => t.scaled n e
    | some (negative, digits) =>
      match exponent? 0 digits with
      | some k => t.scaled n (if negative then e - k else e + k)
      | none => if n ≠ 0 && !negative then none else t.scaled 0 0

end DebugAdapter.Json
