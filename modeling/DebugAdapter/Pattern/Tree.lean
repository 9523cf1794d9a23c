import DebugAdapter.Pattern.Span

/-!
# Patterns as trees

What a pattern says, with the place of every part in it.
-/

namespace DebugAdapter.Pattern

/-- Flags of a group, or of the rest of one. -/
inductive Flag where
  | caseInsensitive
  | multiLine
  | dotMatchesNewLine
  | swapGreed
  | unicode
  | lineEnds
  | ignoreSpace
  deriving Repr, DecidableEq

/-- Flags as they are written: those before a minus sign, those after it. -/
structure Flags where
  on : List Flag
  off : List Flag
  deriving Repr

def Flags.state? (f : Flags) (flag : Flag) : Option Bool :=
  if f.on.contains flag then some true else if f.off.contains flag then some false else none

/-- A single character; `isByte` if it is written as two hexadecimal digits. -/
structure Literal where
  span : Span
  char : Char
  isByte : Bool
  deriving Repr

inductive PerlKind where
  | digit
  | space
  | word
  deriving Repr, DecidableEq

inductive Assertion where
  | lineStart
  | lineEnd
  | textStart
  | textEnd
  | wordBoundary
  | noWordBoundary
  | wordStart
  | wordEnd
  | wordStartHalf
  | wordEndHalf
  deriving Repr, DecidableEq

inductive PropertyName where
  | named (name : List Char)
  | valued (property value : List Char)
  deriving Repr

inductive SetOperator where
  | intersection
  | difference
  | symmetricDifference
  deriving Repr, DecidableEq

mutual

inductive ClassItem where
  | empty (span : Span)
  | literal (literal : Literal)
  | range (span : Span) (low high : Literal)
  | ascii (span : Span) (name : String) (negated : Bool)
  | property (span : Span) (name : PropertyName) (negated : Bool)
  | perl (span : Span) (kind : PerlKind) (negated : Bool)
  | bracketed (span : Span) (negated : Bool) (set : ClassSet)
  | union (span : Span) (items : List ClassItem)
  deriving Repr

inductive ClassSet where
  | item (item : ClassItem)
  | operation (span : Span) (operator : SetOperator) (left right : ClassSet)
  deriving Repr

end

def ClassItem.span : ClassItem → Span
  | .empty s => s
  | .literal l => l.span
  | .range s .. => s
  | .ascii s .. => s
  | .property s .. => s
  | .perl s .. => s
  | .bracketed s .. => s
  | .union s _ => s

def ClassSet.span : ClassSet → Span
  | .item i => i.span
  | .operation s .. => s

inductive Tree where
  | empty (span : Span)
  | flags (span : Span) (flags : Flags)
  | literal (literal : Literal)
  | dot (span : Span)
  | assertion (span : Span) (kind : Assertion)
  | property (span : Span) (name : PropertyName) (negated : Bool)
  | perl (span : Span) (kind : PerlKind) (negated : Bool)
  | bracketed (span : Span) (negated : Bool) (set : ClassSet)
  | repetition (span : Span) (least : Nat) (most : Option Nat) (greedy : Bool) (body : Tree)
  | group (span : Span) (flags : Option Flags) (body : Tree)
  | alternation (span : Span) (branches : List Tree)
  | concat (span : Span) (parts : List Tree)
  deriving Repr

def Tree.span : Tree → Span
  | .empty s => s
  | .flags s _ => s
  | .literal l => l.span
  | .dot s => s
  | .assertion s _ => s
  | .property s .. => s
  | .perl s .. => s
  | .bracketed s .. => s
  | .repetition s .. => s
  | .group s .. => s
  | .alternation s _ => s
  | .concat s _ => s

end DebugAdapter.Pattern
