import DebugAdapter.Pattern.Form
import DebugAdapter.Unicode.ByteRange
import Std.Data.HashMap

/-!
# Sizes of programs

A form is laid out as a program: states with links between them that read a
text byte by byte. A counted repetition has its body as often as it may have
to match, so programs can be large, and their size is limited. What matters of
a program here is its size and the number of its states; states are named by
the number of states before them.
-/

namespace DebugAdapter.Pattern

open Unicode

/-- A program reads a text from its start and records captures, or reads it
from its end and records nothing. -/
inductive Direction where
  | forwards
  | backwards
  deriving Repr, DecidableEq

/-- What a program takes: its states, and the bytes of the links that do not
fit into a state. -/
structure Extent where
  states : Nat
  links : Nat
  deriving Repr, DecidableEq

namespace Extent

/-- The greatest size of a program in bytes. -/
def limit : Nat := 10485760

def size (e : Extent) : Nat := 32 * e.states + e.links

def isTooLarge (e : Extent) : Bool := limit < e.size

end Extent

/-- How a part of a program ends: in a state that chooses between ways on, and
keeps a link for each of them, or in one that has a single way on. -/
inductive Ending where
  | single
  | choosing
  deriving Repr, DecidableEq

/-- Laying out a program stops as soon as it is too large. -/
abbrev Layout := StateT Extent Option

namespace Layout

def addStates (states links : Nat) : Layout Unit := fun e =>
  let e : Extent := ⟨e.states + states, e.links + links⟩
  if e.isTooLarge then none else some ((), e)

def addState : Layout Unit := addStates 1 0

def wayBytes : Nat := 4

def rangeBytes : Nat := 8

/-- Adds a state that chooses between so many ways. -/
def addChoice (ways : Nat) : Layout Unit := addStates 1 (wayBytes * ways)

def connect (e : Ending) : Layout Unit :=
  match e with
  | .single => pure ()
  | .choosing => addStates 0 wayBytes

-- ---------------------------------------------------------------------------
-- Words
-- ---------------------------------------------------------------------------

def addToGroups (b : Nat) (rest : List Nat) :
    List (Nat × List (List Nat)) → List (Nat × List (List Nat))
  | [] => [(b, [rest])]
  | (c, words) :: groups =>
    if c = b then (c, rest :: words) :: groups else (c, words) :: addToGroups b rest groups

def groups (words : List (List Nat)) : List (List (List Nat)) :=
  let found := words.foldl (fun found w =>
    match w with
    | [] => found
    | b :: rest => addToGroups b rest found) []
  found.map fun g => g.2.reverse

/-- The stretches of words between those that are empty. Empty words before
all others count as one. -/
def stretches (words : List (List Nat)) : List (List (List Nat)) :=
  let rec go (stretch : List (List Nat)) : List (List Nat) → List (List (List Nat))
    | [] => [stretch.reverse]
    | [] :: rest => stretch.reverse :: go [] rest
    | w :: rest => go (w :: stretch) rest
  match words with
  | [] :: _ => go [] ([] :: words.dropWhile List.isEmpty)
  | _ => go [] words

/-- Lays out a tree of words that start alike, no deeper than `depth`. At every
branching one state chooses between the stretches and the ends of words. -/
def addWords : (depth : Nat) → List (List Nat) → Layout Unit
  | 0, _ => pure ()
  | depth + 1, words => do
    let parts := stretches words
    let branchings := (parts.map groups).filter (· ≠ [])
    addChoice (branchings.length + (parts.length - 1))
    for branching in branchings do
      let count := branching.length
      addStates 1 (if count = 1 then 0 else rangeBytes * count)
      for rests in branching do
        if rests.any (· ≠ []) then addWords depth rests

/-- The bytes of a literal in the order in which they are read. -/
def readBytes (d : Direction) (cs : List Char) : List Nat :=
  let bytes := cs.flatMap fun c => codeBytes c.toNat
  match d with
  | .forwards => bytes
  | .backwards => bytes.reverse

-- ---------------------------------------------------------------------------
-- Classes
-- ---------------------------------------------------------------------------

structure Link where
  range : ByteRange
  target : Nat
  deriving DecidableEq

/-- States that have been added, by what they hold. There is a fixed number of
places, and a later state may take the place of an earlier one. -/
abbrev Memory (α : Type) := Std.HashMap Nat (α × Nat)

def place (places : Nat) (numbers : List Nat) : Nat :=
  (numbers.foldl (fun (h : UInt64) n => (h ^^^ n.toUInt64) * 1099511628211)
    14695981039346656037).toNat % places

abbrev ClassLayout (α : Type) := StateT (Memory α) Layout

/-- The state that holds something, at its place in the memory. It is added
with bytes for its links if it is not there. -/
def remembered [DecidableEq α] (place : Nat) (held : α) (links : Nat) : ClassLayout α Nat := do
  match (← get)[place]? with
  | some (other, state) => if other = held then return state else add
  | none => add
where
  add : ClassLayout α Nat := do
    let state := (← getThe Extent).states
    addStates 1 links
    modify (·.insert place (held, state))
    return state

/-- Links to be added to a state, last first, and the range of its last link,
whose target is not known yet. -/
structure OpenState where
  links : List Link
  last : ByteRange

def linkState (links : List Link) : ClassLayout (List Link) Nat :=
  let numbers := links.flatMap fun l => [l.range.low, l.range.high, l.target]
  remembered (place 10000 numbers) links (rangeBytes * links.length)

/-- Closes a path of open states that leads to a state. -/
def closePath (goal : Nat) : List OpenState → ClassLayout (List Link) Nat
  | [] => pure goal
  | s :: deeper => do
    let target ← closePath goal deeper
    linkState (⟨s.last, target⟩ :: s.links).reverse

/-- Adds a sequence to a path. What it shares with the sequence before it stays open. -/
def addSequence (goal : Nat) :
    List OpenState → List ByteRange → ClassLayout (List Link) (List OpenState)
  | s :: deeper, r :: rest => do
    if s.last = r then return s :: (← addSequence goal deeper rest)
    else
      let target ← closePath goal deeper
      return ⟨⟨s.last, target⟩ :: s.links, r⟩ :: rest.map (⟨[], ·⟩)
  | _, ranges => return ranges.map (⟨[], ·⟩)

def addSequences (goal : Nat) (path : List OpenState) :
    List (List ByteRange) → ClassLayout (List Link) (List OpenState)
  | [] => return path
  | ranges :: rest => do addSequences goal (← addSequence goal path ranges) rest

/-- Lays out a class so that sequences share their ends. -/
def addClassForwards (sequences : List (List ByteRange)) : Layout Unit := do
  let goal := (← get).states
  addState
  let whole : ClassLayout (List Link) Nat := do
    closePath goal (← addSequences goal [] sequences)
  discard (whole.run ∅)

def addReversed (target : Nat) : List ByteRange → ClassLayout Link Unit
  | [] => return
  | r :: rest => do
    let state ← remembered (place 1000 [target, r.low, r.high]) ⟨r, target⟩ 0
    addReversed state rest

def addReversedAll (goal : Nat) : List (List ByteRange) → ClassLayout Link Unit
  | [] => return
  | ranges :: rest => do
    addReversed goal ranges
    addStates 0 wayBytes
    addReversedAll goal rest

/-- Lays out a class as a choice between sequences that share their starts. -/
def addClassBackwards (sequences : List (List ByteRange)) : Layout Unit := do
  addChoice 0
  let goal := (← get).states
  addState
  discard ((addReversedAll goal sequences).run ∅)

/-- Lays out a class; one of ASCII characters is a single state and an end. -/
def addClass (d : Direction) (codes : CodeSet) : Layout Unit := do
  if codes.ranges.all (·.2 < 0x80) then
    addState
    addStates 1 (rangeBytes * codes.ranges.length)
  else match d with
    | .forwards => addClassForwards codes.byteSequences
    | .backwards => addClassBackwards codes.byteSequences

-- ---------------------------------------------------------------------------
-- Repetitions
-- ---------------------------------------------------------------------------

def addAgain (part : Layout Ending) : Nat → Ending → Layout Ending
  | 0, e => pure e
  | n + 1, e => do
    let next ← part
    connect e
    addAgain part n next

def addTimes (part : Layout Ending) : Nat → Layout Ending
  | 0 => do
    addState
    return .single
  | n + 1 => do addAgain part n (← part)

/-- Lays out a part so many times more, before each of which the repetition may end. -/
def addOptional (part : Layout Ending) : Nat → Ending → Layout Ending
  | 0, e => pure e
  | n + 1, e => do
    addChoice 2
    let next ← part
    connect e
    addOptional part n next

/-- Lays out a part that may match any number of times. Where every match
takes a character one choice is enough. -/
def addAny (consumes : Bool) (part : Layout Ending) : Layout Ending := do
  if consumes then
    addChoice 1
    connect (← part)
    return .choosing
  else
    connect (← part)
    addChoice 2
    addChoice 2
    addState
    return .single

def addAtLeast (consumes : Bool) (part : Layout Ending) : Nat → Layout Ending
  | 0 => addAny consumes part
  | n + 1 => do
    let last ← match n with
      | 0 => part
      | n => addAgain part 1 (← addTimes part n)
    connect last
    addChoice 1
    return .choosing

def addRepetition (least : Nat) (most : Option Nat) (consumes : Bool) (part : Layout Ending) :
    Layout Ending := do
  match least, most with
  | least, none => addAtLeast consumes part least
  | 0, some 1 =>
    addChoice 2
    connect (← part)
    addState
    return .single
  | least, some most =>
    let e ← addTimes part least
    if least = most then return e
    else
      addState
      connect (← addOptional part (most - least) e)
      return .single

end Layout

-- ---------------------------------------------------------------------------
-- Forms
-- ---------------------------------------------------------------------------

namespace Form

open Layout

def literal? : Form → Option (List Char)
  | .literal cs => some cs
  | _ => none

def addLiterals (d : Direction) (literals : List (List Char)) : Layout Ending := do
  let words := literals.map (readBytes d)
  addState
  addWords (words.foldl (fun n w => max n w.length) 0) words
  return .single

mutual

/-- Lays out a form. -/
def layout (d : Direction) : Form → Layout Ending
  | .empty | .look _ => do
    addState
    return .single
  | .literal cs => do
    addStates (readBytes d cs).length 0
    return .single
  | .chars codes _ => do
    addClass d codes
    return .single
  | .repetition least most _ body =>
    addRepetition least most (isLive body && consumes body) (layout d body)
  | .capture body =>
    match d with
    | .backwards => layout d body
    | .forwards => do
      addState
      connect (← layout d body)
      addState
      return .single
  | .concat parts => layoutParts d none parts
  | .alternation branches => do
    match branches.mapM literal? with
    | some literals => addLiterals d literals
    | none =>
      layoutBranches d 0 branches
      return .single

def layoutParts (d : Direction) (before : Option Ending) : List Form → Layout Ending
  | [] => pure (before.getD .single)
  | f :: rest => do
    let e ← layout d f
    match before with
    | some before => connect before
    | none => pure ()
    layoutParts d (some e) rest

/-- Lays out branches, the first of which has a number. The choice between all
of them and the state that they lead to stand after the second. -/
def layoutBranches (d : Direction) (number : Nat) : List Form → Layout Unit
  | [] => pure ()
  | f :: rest => do
    connect (← layout d f)
    addStates 0 wayBytes
    if number = 1 then
      addChoice 0
      addState
    layoutBranches d (number + 1) rest

end

/-- Lays out a program. Unless every match starts where the text does, there is
a loop in front that goes past any byte. -/
def program (d : Direction) (f : Form) : Layout Unit := do
  let (edge, f) := match d with
    | .forwards => (Assertion.textStart, Form.capture f)
    | .backwards => (Assertion.textEnd, mirrored f)
  if isAnchored edge f then addState
  else
    addChoice 2
    addState
    addStates 1 rangeBytes
  connect (← layout d f)
  addState

def manyLiterals : Nat := 3000

/-- A choice between so many literals needs no program. -/
def needsProgram : Form → Bool
  | .alternation branches => branches.length < manyLiterals || (branches.mapM literal?).isNone
  | _ => true

def isTooLarge (f : Form) : Bool :=
  needsProgram f && [Direction.forwards, .backwards].any fun d => (program d f ⟨0, 0⟩).isNone

end Form

end DebugAdapter.Pattern
