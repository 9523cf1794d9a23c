import DebugAdapter.Pattern.Tree
import DebugAdapter.Text.Blank
import DebugAdapter.Text.Letters

/-!
# Reading patterns

One pass over a pattern from left to right. The first fault ends it. Under the
flag `x` blanks and comments between the parts of a pattern do not count.
-/

namespace DebugAdapter.Pattern

/-- What is left of a pattern, and what has been seen of it. -/
structure Cursor where
  rest : List Char
  pos : Position
  ignoreSpace : Bool
  /-- Names of groups, with the places where they are given. -/
  names : List (List Char × Span)

abbrev Reader := StateT Cursor (Except Fault)

/-- The text before and after the first occurrence of another one. -/
def splitAt? (sep : List Char) : List Char → Option (List Char × List Char)
  | [] => none
  | c :: rest =>
    if sep.isPrefixOf (c :: rest) then some ([], (c :: rest).drop sep.length)
    else (splitAt? sep rest).map fun p => (c :: p.1, p.2)

def PropertyName.ofChars (cs : List Char) : PropertyName :=
  match splitAt? ['!', '='] cs, splitAt? [':'] cs, splitAt? ['='] cs with
  | some (p, v), _, _ => .valued p v
  | none, some (p, v), _ => .valued p v
  | none, none, some (p, v) => .valued p v
  | none, none, none => .named cs

namespace Reader

def fail (span : Span) (reason : Reason) : Reader α := throw ⟨reason, span, none⟩

def failTwice (span other : Span) (reason : Reason) : Reader α := throw ⟨reason, span, some other⟩

-- ---------------------------------------------------------------------------
-- Moving
-- ---------------------------------------------------------------------------

def pos : Reader Position := return (← get).pos

def atEnd : Reader Bool := return (← get).rest.isEmpty

def char : Reader Char := return (← get).rest.headD ' '

def here : Reader Span := return .at (← pos)

def charSpan : Reader Span := do
  let p ← pos
  return ⟨p, p.after (← char)⟩

def since (start : Position) : Reader Span := return ⟨start, ← pos⟩

/-- Goes past one character; is there another one? -/
def bump : Reader Bool := do
  let c ← get
  match c.rest with
  | [] => return false
  | x :: rest =>
    set { c with rest, pos := c.pos.after x }
    return !rest.isEmpty

def bumpMany : Nat → Reader Unit
  | 0 => return
  | n + 1 => do
    discard bump
    bumpMany n

def bumpIf (text : String) : Reader Bool := do
  if text.toList.isPrefixOf (← get).rest then
    bumpMany text.length
    return true
  else return false

def bumpIfAny : List String → Reader Bool
  | [] => return false
  | text :: rest => do
    if ← bumpIf text then return true else bumpIfAny rest

/-- The place after blanks and comments; `inComment` tells that one is open. -/
def skipSpace (inComment : Bool) (p : Position) : List Char → Position × List Char
  | [] => (p, [])
  | c :: rest =>
    if inComment then skipSpace (c ≠ '\n') (p.after c) rest
    else if Text.isBlank c then skipSpace false (p.after c) rest
    else if c = '#' then skipSpace true (p.after c) rest
    else (p, c :: rest)

def bumpSpace : Reader Unit := modify fun c =>
  if c.ignoreSpace then
    let (pos, rest) := skipSpace false c.pos c.rest
    { c with pos, rest }
  else c

def bumpAndSpace : Reader Bool := do
  if ← bump then
    bumpSpace
    return !(← atEnd)
  else return false

/-- The character after the next one. -/
def peek : Reader (Option Char) := return (← get).rest.tail.head?

/-- The characters from the first that is neither a blank nor the hash sign
that opens a comment. -/
def firstAfterSpace (inComment : Bool) : List Char → List Char
  | [] => []
  | c :: rest =>
    if Text.isBlank c then firstAfterSpace inComment rest
    else if c = '#' && !inComment then firstAfterSpace true rest
    else c :: rest

def peekSpace : Reader (Option Char) := do
  let c ← get
  if c.ignoreSpace then
    match firstAfterSpace false c.rest.tail with
    | [] => return c.rest.tail.head?
    | x :: _ => return some x
  else peek

-- ---------------------------------------------------------------------------
-- Numbers
-- ---------------------------------------------------------------------------

def repeatFor (step : α → Reader (Option α)) : List Char → α → Reader α
  | [], a => return a
  | _ :: rest, a => do
    match ← step a with
    | some a => repeatFor step rest a
    | none => return a

def loop (step : α → Reader (Option α)) (a : α) : Reader α := do
  repeatFor step (' ' :: (← get).rest) a

def bumpBlanks (alsoComments : Bool) : Reader Unit :=
  loop (fun () => do
    if !(← atEnd) && Text.isBlank (← char) then
      discard (if alsoComments then bumpAndSpace else bump)
      return some ()
    else return none) ()

def maxCount : Nat := 4294967295

/-- A decimal number with blanks around it; what is wrong with it, if it is none. -/
def decimal : Reader (Except Fault Nat) := do
  bumpBlanks false
  let start ← pos
  let digits ← loop (fun (digits : List Char) => do
    let c ← char
    if !(← atEnd) && c.isDigit then
      discard bumpAndSpace
      return some (c :: digits)
    else return none) []
  let span ← since start
  bumpBlanks true
  if digits.isEmpty then return .error ⟨.repetitionCountEmpty, span, none⟩
  let n := digits.reverse.foldl (fun n c => n * 10 + (c.toNat - '0'.toNat)) 0
  return if n ≤ maxCount then .ok n else .error ⟨.decimalInvalid, span, none⟩

def hexValue? (c : Char) : Option Nat :=
  if c.isDigit then some (c.toNat - '0'.toNat)
  else if 'a' ≤ c && c ≤ 'f' then some (c.toNat - 'a'.toNat + 10)
  else if 'A' ≤ c && c ≤ 'F' then some (c.toNat - 'A'.toNat + 10)
  else none

def scalar? (digits : List Char) : Option Char :=
  let n := digits.foldl (fun n c => n * 16 + (hexValue? c).getD 0) 0
  if n.isValidChar then some (Char.ofNat n) else none

def hexDigits : Nat → List Char → Reader (List Char)
  | 0, digits => return digits.reverse
  | n + 1, digits => do
    if digits ≠ [] then
      if !(← bumpAndSpace) then fail (← here) .escapeUnexpectedEnd
    let c ← char
    if (hexValue? c).isNone then fail (← charSpan) .escapeHexInvalidDigit
    hexDigits n (c :: digits)

def hexFixed (count : Nat) : Reader Char := do
  let start ← pos
  let digits ← hexDigits count []
  discard bumpAndSpace
  match scalar? digits with
  | some c => return c
  | none => fail (← since start) .escapeHexInvalid

def bracedChars (check : Char → Reader Unit) : Reader (List Char) := do
  let cs ← loop (fun (cs : List Char) => do
    if ← bumpAndSpace then
      let c ← char
      if c = '\x7d' then return none
      check c
      return some (c :: cs)
    else return none) []
  return cs.reverse

def hexBraced : Reader Char := do
  let brace ← pos
  let start := (← charSpan).stop
  let digits ← bracedChars fun c => do
    if (hexValue? c).isNone then fail (← charSpan) .escapeHexInvalidDigit
  if ← atEnd then fail (← since brace) .escapeUnexpectedEnd
  let stop ← pos
  discard bumpAndSpace
  if digits.isEmpty then fail (← since brace) .escapeHexEmpty
  match scalar? digits with
  | some c => return c
  | none => fail ⟨start, stop⟩ .escapeHexInvalid

-- ---------------------------------------------------------------------------
-- Escapes
-- ---------------------------------------------------------------------------

/-- A part that is read in one go. -/
inductive Primitive where
  | literal (literal : Literal)
  | assertion (span : Span) (kind : Assertion)
  | dot (span : Span)
  | perl (span : Span) (kind : PerlKind) (negated : Bool)
  | property (span : Span) (name : PropertyName) (negated : Bool)

def Primitive.span : Primitive → Span
  | .literal l => l.span
  | .assertion s _ => s
  | .dot s => s
  | .perl s .. => s
  | .property s .. => s

def Primitive.toTree : Primitive → Tree
  | .literal l => .literal l
  | .assertion s k => .assertion s k
  | .dot s => .dot s
  | .perl s k n => .perl s k n
  | .property s p n => .property s p n

def propertyClass (start : Position) : Reader Primitive := do
  let negated := (← char) = 'P'
  if !(← bumpAndSpace) then fail (← here) .escapeUnexpectedEnd
  let c ← char
  if c = '\x7b' then
    let cs ← bracedChars fun _ => return ()
    if ← atEnd then fail (← here) .escapeUnexpectedEnd
    discard bump
    return .property (← since start) (.ofChars cs) negated
  else
    if c = '\\' then fail (← charSpan) .unicodeClassInvalid
    discard bumpAndSpace
    return .property (← since start) (.named [c]) negated

def isBoundaryChar (c : Char) : Bool := c.isAlpha || c = '-'

def namedBoundary? : String → Option Assertion
  | "start" => some .wordStart
  | "end" => some .wordEnd
  | "start-half" => some .wordStartHalf
  | "end-half" => some .wordEndHalf
  | _ => none

/-- The word boundary that a name in braces stands for. What cannot be a name
is left to be read as a repetition of the plain boundary. -/
def wordBoundary (start : Position) : Reader Assertion := do
  let saved ← get
  let brace ← pos
  if !(← bumpAndSpace) then fail (← since start) .wordBoundaryUnexpectedEnd
  let contents ← pos
  if isBoundaryChar (← char) then
    let name ← loop (fun (name : List Char) => do
      let c ← char
      if !(← atEnd) && isBoundaryChar c then
        discard bumpAndSpace
        return some (c :: name)
      else return none) []
    if (← atEnd) || (← char) ≠ '\x7d' then fail (← since brace) .wordBoundaryUnclosed
    let stop ← pos
    discard bump
    match namedBoundary? (String.ofList name.reverse) with
    | some kind => return kind
    | none => fail ⟨contents, stop⟩ .wordBoundaryUnrecognized
  else
    set saved
    return .wordBoundary

def isMeta (c : Char) : Bool := "\\.+*?()|[]\x7b\x7d^$#&-~".toList.contains c

/-- A character that a backslash may precede without a meaning. -/
def isEscapeable (c : Char) : Bool :=
  isMeta c || (c.toNat < 0x80 && !c.isAlphanum && c ≠ '<' && c ≠ '>')

def letterEscape? : Char → Option Char
  | 'a' => some '\x07'
  | 'f' => some '\x0c'
  | 't' => some '\t'
  | 'n' => some '\n'
  | 'r' => some '\r'
  | 'v' => some '\x0b'
  | _ => none

/-- The class that has a letter, and whether it is negated. -/
def perlClass? : Char → Option (PerlKind × Bool)
  | 'd' => some (.digit, false)
  | 'D' => some (.digit, true)
  | 's' => some (.space, false)
  | 'S' => some (.space, true)
  | 'w' => some (.word, false)
  | 'W' => some (.word, true)
  | _ => none

def escapedAssertion? : Char → Option Assertion
  | 'A' => some .textStart
  | 'z' => some .textEnd
  | 'B' => some .noWordBoundary
  | '<' => some .wordStart
  | '>' => some .wordEnd
  | _ => none

def hexEscape (start : Position) (letter : Char) : Reader Primitive := do
  let count := if letter = 'x' then 2 else if letter = 'u' then 4 else 8
  if !(← bumpAndSpace) then fail (← here) .escapeUnexpectedEnd
  if (← char) = '\x7b' then
    let c ← hexBraced
    return .literal ⟨← since start, c, false⟩
  else
    let c ← hexFixed count
    return .literal ⟨← since start, c, letter = 'x'⟩

def escape : Reader Primitive := do
  let start ← pos
  if !(← bump) then fail (← since start) .escapeUnexpectedEnd
  let c ← char
  if c.isDigit then fail ⟨start, (← charSpan).stop⟩ .backreference
  if c = 'x' || c = 'u' || c = 'U' then return ← hexEscape start c
  if c = 'p' || c = 'P' then return ← propertyClass start
  discard bump
  let span ← since start
  match perlClass? c, letterEscape? c with
  | some (kind, negated), _ => return .perl span kind negated
  | none, some l => return .literal ⟨span, l, false⟩
  | none, none =>
    if isEscapeable c then return .literal ⟨span, c, false⟩
    else if c = 'b' then
      let isNamed := !(← atEnd) && (← char) = '\x7b'
      let kind ← if isNamed then wordBoundary start else pure .wordBoundary
      return .assertion (← since start) kind
    else match escapedAssertion? c with
      | some kind => return .assertion span kind
      | none => fail span .escapeUnrecognized

def primitive : Reader Primitive := do
  let c ← char
  if c = '\\' then escape
  else
    let span ← charSpan
    discard bump
    if c = '.' then return .dot span
    else if c = '^' then return .assertion span .lineStart
    else if c = '$' then return .assertion span .lineEnd
    else return .literal ⟨span, c, false⟩

-- ---------------------------------------------------------------------------
-- Bracketed classes
-- ---------------------------------------------------------------------------

/-- Items of a class one after the other, last first. -/
structure Union where
  span : Span
  items : List ClassItem

def Union.push (u : Union) (i : ClassItem) : Union :=
  ⟨⟨if u.items.isEmpty then i.span.start else u.span.start, i.span.stop⟩, i :: u.items⟩

def Union.toItem (u : Union) : ClassItem :=
  match u.items with
  | [] => .empty u.span
  | [i] => i
  | items => .union u.span items.reverse

/-- A class that is being read: the left side of an operation, and the items since. -/
structure OpenClass where
  left : Option (SetOperator × ClassSet)
  union : Union

/-- All that has been read of a class. -/
def OpenClass.set (o : OpenClass) : ClassSet :=
  let right := ClassSet.item o.union.toItem
  match o.left with
  | none => right
  | some (operator, left) => .operation ⟨left.span.start, right.span.stop⟩ operator left right

def asciiClassNames : List String :=
  ["alnum", "alpha", "ascii", "blank", "cntrl", "digit", "graph", "lower", "print", "punct",
    "space", "upper", "word", "xdigit"]

def asciiClass? : Reader (Option ClassItem) := do
  let start ← pos
  match (← get).rest with
  | '[' :: ':' :: rest =>
    let (negated, rest) := match rest with
      | '^' :: rest => (true, rest)
      | rest => (false, rest)
    let name := String.ofList (rest.takeWhile (· ≠ ':'))
    match rest.dropWhile (· ≠ ':') with
    | ':' :: ']' :: _ =>
      if asciiClassNames.contains name then
        bumpMany ((if negated then 5 else 4) + name.length)
        return some (.ascii (← since start) name negated)
      else return none
    | _ => return none
  | _ => return none

def classPrimitive : Reader Primitive := do
  if (← char) = '\\' then escape
  else
    let span ← charSpan
    let c ← char
    discard bump
    return .literal ⟨span, c, false⟩

def toClassItem : Primitive → Reader ClassItem
  | .literal l => return .literal l
  | .perl s k n => return .perl s k n
  | .property s p n => return .property s p n
  | p => fail p.span .classEscapeInvalid

def toBoundary : Primitive → Reader Literal
  | .literal l => return l
  | p => fail p.span .classRangeLiteral

def classRange (opened : Span) : Reader ClassItem := do
  let first ← classPrimitive
  bumpSpace
  if ← atEnd then fail opened .classUnclosed
  let next ← peekSpace
  if (← char) ≠ '-' || next = some ']' || next = some '-' then toClassItem first
  else
    if !(← bumpAndSpace) then fail opened .classUnclosed
    let second ← classPrimitive
    let span := ⟨first.span.start, second.span.stop⟩
    let low ← toBoundary first
    let high ← toBoundary second
    if low.char ≤ high.char then return .range span low high
    else fail span .classRangeInvalid

/-- The bracket, the negation, and the hyphens and bracket that stand for
themselves at the start of a class. -/
def classOpening : Reader (Span × Bool × Union) := do
  let start ← pos
  let unclosed : Reader Unit := do fail (← since start) .classUnclosed
  if !(← bumpAndSpace) then unclosed
  let negated := (← char) = '^'
  if negated then
    if !(← bumpAndSpace) then unclosed
  let u ← loop (fun (u : Union) => do
    if (← char) = '-' then
      let u := u.push (.literal ⟨← charSpan, '-', false⟩)
      if !(← bumpAndSpace) then fail (.at start) .classUnclosed
      return some u
    else return none) ⟨← here, []⟩
  if u.items.isEmpty && (← char) = ']' then
    let u := u.push (.literal ⟨← charSpan, ']', false⟩)
    if !(← bumpAndSpace) then unclosed
    return (← since start, negated, u)
  else return (← since start, negated, u)

def setOperator? : Reader (Option SetOperator) := do
  if ← bumpIf "&&" then return some .intersection
  else if ← bumpIf "--" then return some .difference
  else if ← bumpIf "~~" then return some .symmetricDifference
  else return none

mutual

def bracketed : Nat → Reader (Span × Bool × ClassSet)
  | 0 => do fail (← here) .classUnclosed
  | fuel + 1 => do
    let start ← pos
    let (opened, negated, union) ← classOpening
    let set ← classBody fuel opened ⟨none, union⟩
    return (← since start, negated, set)

def classBody : Nat → Span → OpenClass → Reader ClassSet
  | 0, opened, _ => fail opened .classUnclosed
  | fuel + 1, opened, o => do
    bumpSpace
    if ← atEnd then fail opened .classUnclosed
    match ← char with
    | '[' =>
      match ← asciiClass? with
      | some i => classBody fuel opened { o with union := o.union.push i }
      | none =>
        let (span, negated, set) ← bracketed fuel
        classBody fuel opened { o with union := o.union.push (.bracketed span negated set) }
    | ']' =>
      discard bump
      return o.set
    | _ =>
      match ← setOperator? with
      | some operator => classBody fuel opened ⟨some (operator, o.set), ⟨← here, []⟩⟩
      | none =>
        let i ← classRange opened
        classBody fuel opened { o with union := o.union.push i }

end

-- ---------------------------------------------------------------------------
-- Groups
-- ---------------------------------------------------------------------------

def flag? : Char → Option Flag
  | 'i' => some .caseInsensitive
  | 'm' => some .multiLine
  | 's' => some .dotMatchesNewLine
  | 'U' => some .swapGreed
  | 'u' => some .unicode
  | 'R' => some .lineEnds
  | 'x' => some .ignoreSpace
  | _ => none

/-- Flags that have been read: each with its place, the minus sign, and
whether that was the last thing read. -/
structure FlagState where
  seen : List (Flag × Span)
  on : List Flag
  off : List Flag
  negation : Option Span
  dangling : Bool

def flags : Reader FlagState := do
  let s ← loop (fun (s : FlagState) => do
    let c ← char
    if c = ':' || c = ')' then return none
    let span ← charSpan
    let s ← if c = '-' then
        match s.negation with
        | some first => failTwice span first .flagRepeatedNegation
        | none => pure { s with negation := some span, dangling := true }
      else match flag? c with
        | none => fail span .flagUnrecognized
        | some f =>
          match s.seen.find? (·.1 = f) with
          | some (_, first) => failTwice span first .flagDuplicate
          | none =>
            let s := { s with seen := (f, span) :: s.seen, dangling := false }
            pure (if s.negation.isSome then { s with off := f :: s.off }
              else { s with on := f :: s.on })
    if !(← bump) then fail (← here) .flagUnexpectedEnd
    return some s) ⟨[], [], [], none, false⟩
  match s.negation with
  | some span => if s.dangling then fail span .flagDanglingNegation else return s
  | none => return s

def isNameChar (c : Char) (first : Bool) : Bool :=
  c = '_' || Text.isAlphabetic c ||
    (!first && (c = '.' || c = '[' || c = ']' || Text.isNumber c))

def groupName : Reader Unit := do
  if ← atEnd then fail (← here) .groupNameUnexpectedEnd
  let start ← pos
  let name ← loop (fun (name : List Char) => do
    let c ← char
    if (← atEnd) || c = '>' then return none
    if !isNameChar c name.isEmpty then fail (← charSpan) .groupNameInvalid
    discard bump
    return some (c :: name)) []
  if ← atEnd then fail (← here) .groupNameUnexpectedEnd
  let span ← since start
  discard bump
  if name.isEmpty then fail (.at start) .groupNameEmpty
  let c ← get
  match c.names.find? (·.1 = name) with
  | some (_, first) => failTwice span first .groupNameDuplicate
  | none => set { c with names := (name, span) :: c.names }

inductive Opening where
  | directive (span : Span) (flags : Flags)
  | group (span : Span) (flags : Option Flags)

def opening : Reader Opening := do
  let opened ← charSpan
  discard bump
  bumpSpace
  if ← bumpIfAny ["?=", "?!", "?<=", "?<!"] then
    fail ⟨opened.start, ← pos⟩ .lookAround
  let inner ← here
  if ← bumpIfAny ["?P<", "?<"] then
    groupName
    return .group opened none
  else if ← bumpIf "?" then
    if ← atEnd then fail opened .groupUnclosed
    let s ← flags
    let last ← char
    discard bump
    if last = ')' then
      if s.seen.isEmpty && s.negation.isNone then fail inner .repetitionMissing
      return .directive ⟨opened.start, ← pos⟩ ⟨s.on, s.off⟩
    else return .group opened (some ⟨s.on, s.off⟩)
  else return .group opened none

-- ---------------------------------------------------------------------------
-- Repetitions and sequences
-- ---------------------------------------------------------------------------

/-- A sequence that is being read: its parts, last first, and the branches
before it, last first. -/
structure Sequence where
  start : Position
  parts : List Tree
  branchStart : Position
  branches : List Tree

/-- The parts since the last bar as one tree. -/
def Sequence.concat (s : Sequence) (stop : Position) : Tree :=
  match s.parts with
  | [] => .empty ⟨s.start, stop⟩
  | [t] => t
  | parts => .concat ⟨s.start, stop⟩ parts.reverse

def Sequence.tree (s : Sequence) (stop : Position) : Tree :=
  match s.branches with
  | [] => s.concat stop
  | branches => .alternation ⟨s.branchStart, stop⟩ (s.concat stop :: branches).reverse

/-- The part a repetition is about, and the parts before it. -/
def repeated (s : Sequence) : Reader (Tree × List Tree) := do
  match s.parts with
  | [] | .empty _ :: _ | .flags .. :: _ => fail (← here) .repetitionMissing
  | t :: parts => return (t, parts)

/-- Goes past the question mark that makes a repetition match as little as it
can; is there none? -/
def isGreedy (more : Bool) : Reader Bool := do
  if more && (← char) = '?' then
    discard bump
    return false
  else return true

def uncounted (s : Sequence) (least : Nat) (most : Option Nat) : Reader Sequence := do
  let (t, parts) ← repeated s
  let greedy ← isGreedy (← bump)
  return { s with parts := .repetition ⟨t.span.start, ← pos⟩ least most greedy t :: parts }

def counts (start : Position) : Reader (Nat × Option Nat) := do
  let unclosed : Reader Unit := do fail (← since start) .repetitionCountUnclosed
  if !(← bumpAndSpace) then unclosed
  let least ← decimal
  if ← atEnd then unclosed
  if (← char) ≠ ',' then
    let n ← least
    return (n, some n)
  if !(← bumpAndSpace) then unclosed
  let n ← least
  if (← char) = '\x7d' then return (n, none)
  return (n, some (← (← decimal)))

def counted (s : Sequence) : Reader Sequence := do
  let start ← pos
  let (t, parts) ← repeated s
  let (least, most) ← counts start
  if (← atEnd) || (← char) ≠ '\x7d' then fail (← since start) .repetitionCountUnclosed
  let greedy ← isGreedy (← bumpAndSpace)
  if (most.map fun m => decide (m < least)).getD false then
    fail (← since start) .repetitionCountInvalid
  return { s with parts := .repetition ⟨t.span.start, ← pos⟩ least most greedy t :: parts }

def sequence : Nat → Option Span → Sequence → Reader Tree
  | 0, _, s => return s.tree s.start
  | fuel + 1, group, s => do
    bumpSpace
    if ← atEnd then
      match group with
      | some opened => fail opened .groupUnclosed
      | none => return s.tree (← pos)
    else match ← char with
      | '(' =>
        let outer := (← get).ignoreSpace
        match ← opening with
        | .directive span flags =>
          match flags.state? .ignoreSpace with
          | some on => modify fun c => { c with ignoreSpace := on }
          | none => pure ()
          sequence fuel group { s with parts := .flags span flags :: s.parts }
        | .group span flags =>
          let inner := (flags.bind (·.state? .ignoreSpace)).getD outer
          modify fun c => { c with ignoreSpace := inner }
          let p ← pos
          let body ← sequence fuel (some span) ⟨p, [], p, []⟩
          modify fun c => { c with ignoreSpace := outer }
          discard bump
          let t := Tree.group ⟨span.start, ← pos⟩ flags body
          sequence fuel group { s with parts := t :: s.parts }
      | ')' =>
        match group with
        | some _ => return s.tree (← pos)
        | none => fail (← charSpan) .groupUnopened
      | '|' =>
        let stop ← pos
        let branchStart := if s.branches.isEmpty then s.start else s.branchStart
        let branches := s.concat stop :: s.branches
        discard bump
        sequence fuel group ⟨← pos, [], branchStart, branches⟩
      | '[' =>
        let (span, negated, set) ← bracketed fuel
        sequence fuel group { s with parts := .bracketed span negated set :: s.parts }
      | '?' => sequence fuel group (← uncounted s 0 (some 1))
      | '*' => sequence fuel group (← uncounted s 0 none)
      | '+' => sequence fuel group (← uncounted s 1 none)
      | '\x7b' => sequence fuel group (← counted s)
      | _ =>
        let p ← primitive
        sequence fuel group { s with parts := p.toTree :: s.parts }

end Reader

def Tree.ofPattern? (pattern : List Char) : Except Fault Tree :=
  let start := Position.start
  let run := Reader.sequence (2 * pattern.length + 2) none ⟨start, [], start, []⟩
  (run ⟨pattern, start, false, []⟩).map Prod.fst

end DebugAdapter.Pattern
