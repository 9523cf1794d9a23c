/-!
# Punycode

A label of a domain name in letters, digits and hyphens that stands for one
with other characters. What comes before the last hyphen stands for itself.
The rest says where the other characters go, by ascending code point: numbers
in base 36, the least digit first, whose last digit is below a threshold.
-/

namespace DebugAdapter.Punycode

/-- Numbers have to stay below this bound. -/
def bound : Nat := 4294967296

def base : Nat := 36

def digit? (c : Char) : Option Nat :=
  let n := c.toLower.toNat
  if 'a'.toNat ≤ n && n ≤ 'z'.toNat then some (n - 'a'.toNat)
  else if c.isDigit then some (n - '0'.toNat + 26)
  else none

/-- What a digit has to be below to be the last one, `k` growing by the base
with every digit. -/
def threshold (k bias : Nat) : Nat :=
  if k ≤ bias + 1 then 1 else if bias + 26 ≤ k then 26 else k - bias

/-- How often a number can be divided before it is small, as steps of the
base, and what is left of it. -/
def reduce (steps delta : Nat) : Nat × Nat :=
  if 455 < delta then reduce (steps + base) (delta / 35) else (steps, delta)
termination_by delta
decreasing_by exact Nat.div_lt_self (by omega) (by omega)

def adapt (delta count : Nat) (isFirst : Bool) : Nat :=
  let delta := delta / (if isFirst then 700 else 2)
  let (steps, delta) := reduce 0 (delta + delta / count)
  steps + base * delta / (delta + 38)

/-- A label that is being read. -/
structure Decoding where
  output : List Nat
  /-- The code point of the character that was put in last. -/
  code : Nat
  bias : Nat
  /-- The place before the present number, and with its digits so far. -/
  start : Nat
  place : Nat
  /-- What the next digit counts for, and its threshold's `k`. -/
  weight : Nat
  k : Nat

namespace Decoding

def initial (output : List Nat) : Decoding := ⟨output, 128, 72, 0, 0, 1, base⟩

def insert? (d : Decoding) : Option Decoding :=
  let count := d.output.length + 1
  let code := d.code + d.place / count
  let i := d.place % count
  if code.isValidChar then
    let output := d.output.take i ++ code :: d.output.drop i
    some ⟨output, code, adapt (d.place - d.start) count (d.start = 0), i + 1, i + 1, 1, base⟩
  else none

def push? (d : Decoding) (c : Char) : Option Decoding := do
  let digit ← digit? c
  let d := { d with place := d.place + digit * d.weight }
  if bound ≤ d.place then none
  else
    let t := threshold d.k d.bias
    if digit < t then d.insert?
    else
      let weight := d.weight * (base - t)
      if bound ≤ weight then none else some { d with weight, k := d.k + base }

end Decoding

/-- The part before the last hyphen, and the part after it. A hyphen in front
of all else is no such hyphen. -/
def splitLastHyphen (label : List Char) : List Char × List Char :=
  let tail := (label.reverse.takeWhile (· ≠ '-')).reverse
  let head := label.take (label.length - tail.length - 1)
  if head = [] then ([], label) else (head, tail)

def decode? (label : List Char) : Option (List Nat) := do
  let (plain, digits) := splitLastHyphen label
  let d ← digits.foldlM Decoding.push? (.initial (plain.map Char.toNat))
  if d.weight = 1 then some d.output else none

end DebugAdapter.Punycode
