import DebugAdapter.Net.Punycode
import DebugAdapter.Unicode.Direction
import DebugAdapter.Unicode.Joining
import DebugAdapter.Unicode.PlainForm

/-!
# Domain names

Names of machines in any script: labels with dots between them. A name is
brought into its plain form. Some characters do not count, and some are
refused. A label that starts with `xn--` stands for one in other characters.
A name with letters that are written from right to left has labels of one
direction each.
-/

namespace DebugAdapter.DomainName

open Unicode

-- ---------------------------------------------------------------------------
-- Characters
-- ---------------------------------------------------------------------------

def omitted : CodeSet := .ofLines [
  "ad 34f 115f-1160 17b4-17b5 180b-180f 200b 2060-2064 206a-206f 3164 fe00-fe0f feff ffa0",
  "1bca0-1bca3 1d173-1d17a e0100-e01ef"]

/-- Characters in use that no name holds: controls, and signs that would look
like others or like several. -/
def refusedSigns : CodeSet := .ofLines [
  "80-9f 600-605 61c 6dd 70f 890-891 8e2 1680 200e-200f 2024-2026 2028-202e 2066-2069 2488-249b",
  "2ff0-2fff 31ef 33c2 33c7 33d8 fe12 fe19 fe30 fe52 fff9-fffd 110bd 110cd 13430-1343f 1f100",
  "e0001 e0020-e007f"]

def refused : CodeSet :=
  (.unionAll [refusedSigns, Edition.latest.unassigned, Edition.latest.category .privateUse] :
    CodeSet) \ omitted

/-- ASCII characters that have a meaning around names. -/
def isReserved (n : Nat) : Bool :=
  n ≤ 0x20 || n = 0x7f || "#/:<>?@[\\]^|%".toList.any (·.toNat = n)

def isAscii (codes : List Nat) : Bool := codes.all (· < 0x80)

-- ---------------------------------------------------------------------------
-- Labels
-- ---------------------------------------------------------------------------

def dot : Nat := '.'.toNat

/-- The pieces between the dots of a name; one more than it has dots. -/
def labels : List Nat → List (List Nat)
  | [] => [[]]
  | n :: rest =>
    if n = dot then [] :: labels rest
    else match labels rest with
      | [] => [[n]]
      | label :: others => (n :: label) :: others

def isPlain (codes : List Nat) : Bool :=
  !codes.any omitted.contains && !codes.any refused.contains && plainText codes = codes

/-- The start of labels that stand for others. -/
def encodedLead : List Nat := "xn--".toList.map Char.toNat

def encodedLimit : Nat := 2000

/-- The label that a label stands for, none if it stands for no label in plain
form that needs to be encoded. -/
def decoded? (label : List Nat) : Option (List Nat) := do
  if encodedLead.isPrefixOf label then
    let encoded := label.drop encodedLead.length
    let isCut := encoded.getLast? = some '-'.toNat
    if !isAscii label || encodedLimit < encoded.length || isCut then none
    else
      let codes ← Punycode.decode? (encoded.map Char.ofNat)
      if isAscii codes || !isPlain codes then none else some codes
  else some label

def startsJoining (letters : CodeSet) (codes : List Nat) : Bool :=
  ((codes.find? fun n => !joinTransparent.contains n).map letters.contains).getD false

def nonJoiner : Nat := 0x200c
def joiner : Nat := 0x200d

/-- Does every joiner and non-joiner stand where it makes a difference: after a
sign that takes the vowel from a letter, or a non-joiner between letters that
would join? `before` is what comes before, last character first. -/
def joinersFit (before : List Nat) : List Nat → Bool
  | [] => true
  | n :: rest =>
    let afterKiller := (before.head?.map combiningClass) = some vowelKiller
    let between := n = nonJoiner && startsJoining (joinsBoth ∪ joinsAfter) before &&
      startsJoining (joinsBoth ∪ joinsBefore) rest
    ((n ≠ nonJoiner && n ≠ joiner) || afterKiller || between) && joinersFit (n :: before) rest

/-- Labels that need to be encoded are no longer than this. -/
def labelLimit : Nat := 1000

def isLabel (label : List Nat) : Bool :=
  isAscii label || (label.length ≤ labelLimit && joinersFit [] label &&
    !(label.head?.map Edition.latest.marks.contains).getD false)

-- ---------------------------------------------------------------------------
-- Directions
-- ---------------------------------------------------------------------------

def rightwardFit (classes : List DirectionClass) : Bool :=
  let final := (classes.reverse.dropWhile (· = .mark)).head?
  classes.all (fun c => c ≠ .leftward && c ≠ .arabicDigit) &&
    (final = some .rightward || final = some .digit)

def leftwardFit (classes : List DirectionClass) : Bool :=
  let final := (classes.reverse.dropWhile (· = .mark)).head?
  !classes.contains .rightward && !(classes.contains .digit && classes.contains .arabicDigit) &&
    (final = some .leftward || final = some .digit || final = some .arabicDigit)

def hasDirection (label : List Nat) : Bool :=
  let classes := label.map directionClass
  match classes with
  | [] => true
  | .rightward :: _ => rightwardFit classes
  | .leftward :: _ => leftwardFit classes
  | _ => false

def isMixed (name : List Nat) : Bool :=
  name.any fun n => directionClass n = .leftward || directionClass n = .arabicDigit

-- ---------------------------------------------------------------------------
-- Names
-- ---------------------------------------------------------------------------

def labels? (codes : List Nat) : Option (List (List Nat)) := do
  if codes.any refused.contains then none
  else
    let plain := plainText (codes.filter fun n => !omitted.contains n)
    let ls ← (labels plain).mapM decoded?
    if plain.any isReserved || !ls.all isLabel then none
    else if isMixed ls.flatten && !ls.all hasDirection then none
    else some ls

def normal? (name : List Char) : Option (List Char) := do
  let ls ← labels? (name.map Char.toNat)
  return ([dot].intercalate ls).map Char.ofNat

end DebugAdapter.DomainName
