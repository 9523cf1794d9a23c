import DebugAdapter.Pattern.Form
import DebugAdapter.Pattern.Properties

/-!
# From trees to forms

What a pattern matches under the flags in it. Properties have to be known, and
a pattern has to match nothing but well-formed text. The latter matters where
the flag `u` is off: there a class is a set of bytes, and only those below 128
are text by themselves.
-/

namespace DebugAdapter.Pattern

open Unicode

/-- The flags at some place of a pattern. -/
structure Mode where
  unicode : Bool
  caseInsensitive : Bool
  multiLine : Bool
  dotMatchesNewLine : Bool
  swapGreed : Bool
  lineEnds : Bool

def Mode.initial : Mode := ⟨true, false, false, false, false, false⟩

def Mode.under (m : Mode) (f : Flags) : Mode where
  unicode := (f.state? .unicode).getD m.unicode
  caseInsensitive := (f.state? .caseInsensitive).getD m.caseInsensitive
  multiLine := (f.state? .multiLine).getD m.multiLine
  dotMatchesNewLine := (f.state? .dotMatchesNewLine).getD m.dotMatchesNewLine
  swapGreed := (f.state? .swapGreed).getD m.swapGreed
  lineEnds := (f.state? .lineEnds).getD m.lineEnds

def faultAt (span : Span) (reason : Reason) : Except Fault α := .error ⟨reason, span, none⟩

-- ---------------------------------------------------------------------------
-- Classes
-- ---------------------------------------------------------------------------

/-- The set with the other case of every ASCII letter in it. -/
def foldAsciiCase (s : CodeSet) : CodeSet :=
  let moved (letters : CodeSet) (move : Nat → Nat) : CodeSet :=
    ⟨(s ∩ letters).ranges.map fun r => (move r.1, move r.2)⟩
  .unionAll [s, moved (.range 0x41 0x5a) (· + 32), moved (.range 0x61 0x7a) (· - 32)]

def Mode.fold (m : Mode) (s : CodeSet) : CodeSet :=
  if !m.caseInsensitive then s else if m.unicode then s.foldCase else foldAsciiCase s

def Mode.complement (m : Mode) (s : CodeSet) : CodeSet :=
  if m.unicode then s.complement else .range 0 0xff \ s

/-- A set folded and negated as a class asks for, as long as it is text. -/
def Mode.finish (m : Mode) (span : Span) (negated : Bool) (s : CodeSet) : Except Fault CodeSet :=
  let folded := m.fold s
  let s := if negated then m.complement folded else folded
  if m.unicode || (s \ ascii).isEmpty then .ok s else faultAt span .invalidUtf8

def asciiClass : String → CodeSet
  | "alnum" => .ofLines ["30-39 41-5a 61-7a"]
  | "alpha" => .ofLines ["41-5a 61-7a"]
  | "ascii" => ascii
  | "blank" => .ofLines ["9 20"]
  | "cntrl" => .ofLines ["0-1f 7f"]
  | "digit" => .ofLines ["30-39"]
  | "graph" => .ofLines ["21-7e"]
  | "lower" => .ofLines ["61-7a"]
  | "print" => .ofLines ["20-7e"]
  | "punct" => .ofLines ["21-2f 3a-40 5b-60 7b-7e"]
  | "space" => .ofLines ["9-d 20"]
  | "upper" => .ofLines ["41-5a"]
  | "word" => .ofLines ["30-39 41-5a 5f 61-7a"]
  | _ => .ofLines ["30-39 41-46 61-66"]

/-- The characters of a class that has a letter. Both cases of a character are
in it or none. -/
def perlClass (m : Mode) (span : Span) (kind : PerlKind) (negated : Bool) : Except Fault CodeSet :=
  if m.unicode then
    let s := match kind with
      | .digit => digits
      | .space => whiteSpace
      | .word => wordCharacters
    .ok (if negated then s.complement else s)
  else if negated then faultAt span .invalidUtf8
  else .ok (asciiClass (match kind with
    | .digit => "digit"
    | .space => "space"
    | .word => "word"))

def propertyClass (m : Mode) (span : Span) (name : PropertyName) (negated : Bool) :
    Except Fault CodeSet :=
  if !m.unicode then faultAt span .unicodeNotAllowed
  else
    let result := match name with
      | .named n => namedClass n
      | .valued p v => valueClass p v
    match result with
    | .ok s => m.finish span negated s
    | .error .unknownProperty => faultAt span .propertyNotFound
    | .error .unknownValue => faultAt span .propertyValueNotFound

def checkLiteral (m : Mode) (l : Literal) : Except Fault Unit :=
  if !m.unicode && l.isByte && 0x80 ≤ l.char.toNat then faultAt l.span .invalidUtf8 else .ok ()

/-- The code of a character in a class; a byte stands for ASCII only. -/
def literalCode (m : Mode) (l : Literal) : Except Fault Nat := do
  checkLiteral m l
  if m.unicode || l.char.toNat < 0x80 then return l.char.toNat
  else faultAt l.span .unicodeNotAllowed

def applyOperator : SetOperator → CodeSet → CodeSet → CodeSet
  | .intersection, a, b => a ∩ b
  | .difference, a, b => a \ b
  | .symmetricDifference, a, b => a.symmDiff b

mutual

def ClassItem.codes (m : Mode) : ClassItem → Except Fault CodeSet
  | .empty _ => .ok .empty
  | .literal l => do
    let n ← literalCode m l
    return .range n n
  | .range _ low high => do
    let low ← literalCode m low
    let high ← literalCode m high
    return .range low high
  | .ascii span name negated => m.finish span negated (asciiClass name)
  | .property span name negated => propertyClass m span name negated
  | .perl span kind negated => perlClass m span kind negated
  | .bracketed span negated set => do
    let s ← set.codes m
    m.finish span negated s
  | .union _ items => ClassItem.codesAll m [] items

def ClassItem.codesAll (m : Mode) (done : List CodeSet) : List ClassItem → Except Fault CodeSet
  | [] => .ok (.unionAll done)
  | i :: rest => do
    let s ← i.codes m
    ClassItem.codesAll m (s :: done) rest

def ClassSet.codes (m : Mode) : ClassSet → Except Fault CodeSet
  | .item i => i.codes m
  | .operation _ operator left right => do
    let a ← left.codes m
    let b ← right.codes m
    return applyOperator operator (m.fold a) (m.fold b)

end

-- ---------------------------------------------------------------------------
-- Parts
-- ---------------------------------------------------------------------------

/-- A character, and its other case if case does not count. -/
def literalForm (m : Mode) (l : Literal) : Except Fault Form := do
  checkLiteral m l
  let n := l.char.toNat
  let hasCases := if m.unicode then CodeSet.hasCases n else l.char.isAlpha
  if m.caseInsensitive && hasCases then return .ofCodes (m.fold (.range n n)) (!m.unicode)
  else return .literal [l.char]

/-- What a dot matches: anything, or anything but the end of a line. -/
def dotForm (m : Mode) (span : Span) : Except Fault Form :=
  if !m.unicode then faultAt span .invalidUtf8
  else if m.dotMatchesNewLine then .ok (.ofCodes .all false)
  else
    let ends := if m.lineEnds then ["a d"] else ["a"]
    .ok (.ofCodes (CodeSet.ofLines ends).complement false)

/-- An assertion under the flags. Without the flag `m` a text is one line. -/
def lookForm (m : Mode) (kind : Assertion) : Form :=
  let line (whole : Assertion) : Look :=
    if m.multiLine then ⟨kind, m.lineEnds⟩ else ⟨whole, false⟩
  .look <| match kind with
  | .lineStart => line .textStart
  | .lineEnd => line .textEnd
  | .textStart | .textEnd => ⟨kind, false⟩
  | _ => ⟨kind, m.unicode⟩

mutual

/-- The form of a tree, and the mode for what follows it. -/
def Tree.form (m : Mode) : Tree → Except Fault (Mode × Form)
  | .empty _ => .ok (m, .empty)
  | .assertion _ kind => .ok (m, lookForm m kind)
  | .flags _ f => .ok (m.under f, .empty)
  | .literal l => do return (m, ← literalForm m l)
  | .dot span => do return (m, ← dotForm m span)
  | .property span name negated => do
    return (m, .ofCodes (← propertyClass m span name negated) false)
  | .perl span kind negated => do
    return (m, .ofCodes (← perlClass m span kind negated) (!m.unicode))
  | .bracketed span negated set => do
    let s ← set.codes m
    return (m, .ofCodes (← m.finish span negated s) (!m.unicode))
  | .repetition _ least most greedy body => do
    let (m, f) ← body.form m
    return (m, .repeated least most (greedy != m.swapGreed) f)
  | .group _ own body => do
    let (_, f) ← body.form (own.elim m m.under)
    return (m, if own.isNone then .capture f else f)
  | .alternation _ branches => do
    let (m, fs) ← Tree.forms m [] branches
    return (m, .choice fs)
  | .concat _ parts => do
    let (m, fs) ← Tree.forms m [] parts
    return (m, .sequence fs)

def Tree.forms (m : Mode) (done : List Form) : List Tree → Except Fault (Mode × List Form)
  | [] => .ok (m, done.reverse)
  | t :: rest => do
    let (m, f) ← t.form m
    Tree.forms m (f :: done) rest

end

end DebugAdapter.Pattern
