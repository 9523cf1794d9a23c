import DebugAdapter.Unicode.CodeSet

/-!
# Ranges of code points as bytes

In UTF-8 a range of code points is a list of sequences of byte ranges. Each
stands for all combinations of its bytes, so a range is cut where the number
of bytes changes, and where a byte changes before all that follow it have gone
through their values.
-/

namespace DebugAdapter.Unicode

structure ByteRange where
  low : Nat
  high : Nat
  deriving Repr, DecidableEq, Inhabited

def codeBytes (n : Nat) : List Nat := (String.utf8EncodeChar (Char.ofNat n)).map UInt8.toNat

/-- The last code point in front of the place where a range is cut because
blocks of some size are cut by its ends. -/
def blockCut? (low high block : Nat) : Option Nat :=
  if low / block = high / block then none
  else if low % block ≠ 0 then some (low / block * block + block - 1)
  else if high % block ≠ block - 1 then some (high / block * block - 1)
  else none

/-- The last code point in front of the first place where a range is cut. -/
def cut? (low high : Nat) : Option Nat :=
  match [0x7f, 0x7ff, 0xffff].find? fun last => low ≤ last && last < high with
  | some last => some last
  | none => if high ≤ 0x7f then none else [64, 4096, 262144].findSome? (blockCut? low high)

/-- The parts of a range whose bytes go through all combinations. -/
def evenParts (low high : Nat) : List CodeRange :=
  match cut? low high with
  | none => [(low, high)]
  | some last =>
    if low ≤ last ∧ last < high then evenParts low last ++ evenParts (last + 1) high
    else [(low, high)]
termination_by high - low

def partBytes (r : CodeRange) : List ByteRange :=
  List.zipWith ByteRange.mk (codeBytes r.1) (codeBytes r.2)

/-- The sequences of a range; surrogates have none. -/
def byteSequences (r : CodeRange) : List (List ByteRange) :=
  let parts := if r.1 < 0xe000 && 0xd7ff < r.2 then evenParts r.1 0xd7ff ++ evenParts 0xe000 r.2
    else evenParts r.1 r.2
  parts.map partBytes

def CodeSet.byteSequences (s : CodeSet) : List (List ByteRange) :=
  s.ranges.flatMap Unicode.byteSequences

end DebugAdapter.Unicode
