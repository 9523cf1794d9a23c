import DebugAdapter.Unicode.Combining
import DebugAdapter.Unicode.Decomposition

/-!
# Normalization

Texts that differ only in whether characters are composed, or in the order of
marks that do not touch, have one composed form: everything is decomposed, the
marks after a character are put in the order of their classes, and what can be
composed is.
-/

namespace DebugAdapter.Unicode

/-- Puts a character before others, but after marks of lower classes. -/
def insertByClass (n : Nat) : List Nat → List Nat
  | [] => [n]
  | m :: rest =>
    let other := combiningClass m
    if 0 < other && other < combiningClass n then m :: insertByClass n rest else n :: m :: rest

/-- Characters with the marks between them in the order of their classes. -/
def orderMarks (codes : List Nat) : List Nat := codes.foldr insertByClass []

/-- A text that is being composed, last character first: what is done, the last
character of class zero, and the marks since. -/
structure Composition where
  done : List Nat
  starter : Option Nat
  marks : List Nat
  /-- The class of the last mark. -/
  lastClass : Nat

namespace Composition

def empty : Composition := ⟨[], none, [], 0⟩

def reversed (c : Composition) : List Nat := c.marks ++ c.starter.toList ++ c.done

/-- What the last character of class zero and a character after the marks make.
Marks of the same class, or of a higher one, stand in between. -/
def composed? (c : Composition) (n : Nat) : Option Nat :=
  if c.marks ≠ [] && combiningClass n ≤ c.lastClass then none
  else c.starter.bind fun s => compose? s n

def push (c : Composition) (n : Nat) : Composition :=
  match c.composed? n with
  | some s => { c with starter := some s }
  | none =>
    let cls := combiningClass n
    if cls = 0 then ⟨c.reversed, some n, [], 0⟩
    else { c with marks := n :: c.marks, lastClass := cls }

end Composition

def normalize (codes : List Nat) : List Nat :=
  ((orderMarks (decompose codes)).foldl Composition.push .empty).reversed.reverse

end DebugAdapter.Unicode
