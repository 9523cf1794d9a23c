import DebugAdapter.Number.Decimal

/-!
# Faults in patterns

Places in a pattern, what can be wrong there, and the report of a fault: the
pattern with marks under the place, and the reason.
-/

namespace DebugAdapter.Pattern

/-- A place between two characters. Lines and columns count from 1. -/
structure Position where
  offset : Nat
  line : Nat
  column : Nat
  deriving Repr, DecidableEq, Inhabited

def Position.start : Position := ⟨0, 1, 1⟩

def Position.after (p : Position) (c : Char) : Position :=
  if c = '\n' then ⟨p.offset + 1, p.line + 1, 1⟩ else ⟨p.offset + 1, p.line, p.column + 1⟩

structure Span where
  start : Position
  stop : Position
  deriving Repr, DecidableEq, Inhabited

def Span.at (p : Position) : Span := ⟨p, p⟩

inductive Reason where
  | classEscapeInvalid
  | classRangeInvalid
  | classRangeLiteral
  | classUnclosed
  | decimalInvalid
  | escapeHexEmpty
  | escapeHexInvalid
  | escapeHexInvalidDigit
  | escapeUnexpectedEnd
  | escapeUnrecognized
  | flagDanglingNegation
  | flagDuplicate
  | flagRepeatedNegation
  | flagUnexpectedEnd
  | flagUnrecognized
  | groupNameDuplicate
  | groupNameEmpty
  | groupNameInvalid
  | groupNameUnexpectedEnd
  | groupUnclosed
  | groupUnopened
  | nestLimitExceeded
  | repetitionCountInvalid
  | repetitionCountEmpty
  | repetitionCountUnclosed
  | repetitionMissing
  | wordBoundaryUnclosed
  | wordBoundaryUnrecognized
  | wordBoundaryUnexpectedEnd
  | unicodeClassInvalid
  | backreference
  | lookAround
  | unicodeNotAllowed
  | invalidUtf8
  | propertyNotFound
  | propertyValueNotFound
  deriving Repr, DecidableEq

/-- Groups, classes and repetitions nest at most this deep. -/
def nestLimit : Nat := 250

def Reason.text : Reason → String
  | .classEscapeInvalid => "invalid escape sequence found in character class"
  | .classRangeInvalid => "invalid character class range, the start must be <= the end"
  | .classRangeLiteral => "invalid range boundary, must be a literal"
  | .classUnclosed => "unclosed character class"
  | .decimalInvalid => "decimal literal invalid"
  | .escapeHexEmpty => "hexadecimal literal empty"
  | .escapeHexInvalid => "hexadecimal literal is not a Unicode scalar value"
  | .escapeHexInvalidDigit => "invalid hexadecimal digit"
  | .escapeUnexpectedEnd => "incomplete escape sequence, reached end of pattern prematurely"
  | .escapeUnrecognized => "unrecognized escape sequence"
  | .flagDanglingNegation => "dangling flag negation operator"
  | .flagDuplicate => "duplicate flag"
  | .flagRepeatedNegation => "flag negation operator repeated"
  | .flagUnexpectedEnd => "expected flag but got end of regex"
  | .flagUnrecognized => "unrecognized flag"
  | .groupNameDuplicate => "duplicate capture group name"
  | .groupNameEmpty => "empty capture group name"
  | .groupNameInvalid => "invalid capture group character"
  | .groupNameUnexpectedEnd => "unclosed capture group name"
  | .groupUnclosed => "unclosed group"
  | .groupUnopened => "unopened group"
  | .nestLimitExceeded =>
    "exceed the maximum number of nested parentheses/brackets (" ++
      Decimal.digitsText nestLimit ++ ")"
  | .repetitionCountInvalid =>
    "invalid repetition count range, the start must be <= the end"
  | .repetitionCountEmpty => "repetition quantifier expects a valid decimal"
  | .repetitionCountUnclosed => "unclosed counted repetition"
  | .repetitionMissing => "repetition operator missing expression"
  | .wordBoundaryUnclosed =>
    "special word boundary assertion is either unclosed or contains an invalid character"
  | .wordBoundaryUnrecognized =>
    "unrecognized special word boundary assertion, valid choices are: start, end, " ++
      "start-half or end-half"
  | .wordBoundaryUnexpectedEnd =>
    "found either the beginning of a special word boundary or a bounded repetition on a \\b " ++
      "with an opening brace, but no closing brace"
  | .unicodeClassInvalid => "invalid Unicode character class"
  | .backreference => "backreferences are not supported"
  | .lookAround => "look-around, including look-ahead and look-behind, is not supported"
  | .unicodeNotAllowed => "Unicode not allowed here"
  | .invalidUtf8 => "pattern can match invalid UTF-8"
  | .propertyNotFound => "Unicode property not found"
  | .propertyValueNotFound => "Unicode property value not found"

/-- What is wrong with a pattern, and where. -/
structure Fault where
  reason : Reason
  span : Span
  /-- A second place, such as that of the first of two equal names. -/
  other : Option Span
  deriving Repr, DecidableEq

-- ---------------------------------------------------------------------------
-- Reports
-- ---------------------------------------------------------------------------

/-- The lines of a text without their ends; nothing follows a last line end. -/
def textLines (cs : List Char) : List (List Char) :=
  let rec go (line : List Char) : List Char → List (List Char)
    | [] => if line = [] then [] else [line.reverse]
    | '\n' :: rest =>
      (match line with
        | '\r' :: line => line.reverse
        | line => line.reverse) :: go [] rest
    | c :: rest => go (c :: line) rest
  go [] cs

/-- Marks for spans on one line, from a column on. -/
def marks : Nat → List Span → List Char
  | _, [] => []
  | column, s :: rest =>
    let indent := s.start.column - column
    let width := max 1 (s.stop.column - s.start.column)
    List.replicate indent ' ' ++ List.replicate width '^' ++
      marks (column + indent + width) rest

def sortedSpans (a : Span) (b : Option Span) : List Span :=
  match b with
  | none => [a]
  | some b =>
    if b.start.offset < a.start.offset ||
        (b.start.offset = a.start.offset && b.stop.offset < a.stop.offset) then [b, a]
    else [a, b]

def paddedNumber (width n : Nat) : List Char :=
  let digits := Nat.toDigits 10 n
  List.replicate (width - digits.length) ' ' ++ digits

def notatedLine (width : Nat) (spans : List Span) (line : List Char) (n : Nat) : List Char :=
  let lead := if width = 0 then [' ', ' ', ' ', ' '] else paddedNumber width n ++ [':', ' ']
  let here := spans.filter fun s => s.start.line = n && s.stop.line = n
  lead ++ line ++ ['\n'] ++
    if here.isEmpty then [] else List.replicate lead.length ' ' ++ marks 1 here ++ ['\n']

def crossNote (s : Span) : String :=
  "on line " ++ Decimal.digitsText s.start.line ++ " (column " ++
    Decimal.digitsText s.start.column ++ ") through line " ++ Decimal.digitsText s.stop.line ++
    " (column " ++ Decimal.digitsText (s.stop.column - 1) ++ ")"

def Fault.report (f : Fault) (pattern : String) : String :=
  let cs := pattern.toList
  let lines := textLines cs
  let count := lines.length + if cs.getLast? = some '\n' then 1 else 0
  let width := if count ≤ 1 then 0 else (Nat.toDigits 10 count).length
  let spans := sortedSpans f.span f.other
  let notated := String.ofList <|
    (lines.zipIdx 1).flatMap fun l => notatedLine width spans l.1 l.2
  let body :=
    if cs.contains '\n' then
      let divider := String.ofList (List.replicate 79 '~' ++ ['\n'])
      let crossing := spans.filter fun s => s.start.line ≠ s.stop.line
      divider ++ notated ++ divider ++ String.join (crossing.map fun s => crossNote s ++ "\n")
    else notated
  "regex parse error:\n" ++ body ++ "error: " ++ f.reason.text

end DebugAdapter.Pattern
