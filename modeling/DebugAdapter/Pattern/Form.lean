import DebugAdapter.Pattern.Tree
import DebugAdapter.Unicode.CodeSet

/-!
# Forms of patterns

What a pattern matches, without the places, names and flags in it. `ofCodes`,
`repeated`, `sequence` and `choice` build forms and simplify them on the way:
a class of one character is a literal, neighbouring literals are one, branches
of single characters are a class, and what all branches start with stands
before them.
-/

namespace DebugAdapter.Pattern

open Unicode

/-- An assertion. A wide one takes any line end for the end of a line, or the
letters of every script for those of words. -/
structure Look where
  assertion : Assertion
  wide : Bool
  deriving Repr, DecidableEq

inductive Form where
  | empty
  | literal (chars : List Char)
  /-- One of some characters; `bytes` if they are taken for bytes. -/
  | chars (codes : CodeSet) (bytes : Bool)
  | look (look : Look)
  | repetition (least : Nat) (most : Option Nat) (greedy : Bool) (body : Form)
  | capture (body : Form)
  | concat (parts : List Form)
  | alternation (branches : List Form)
  deriving Repr

namespace Form

-- ---------------------------------------------------------------------------
-- Properties
-- ---------------------------------------------------------------------------

mutual

/-- Are two forms equal? What is captured is captured by a group of its own,
so captures differ. -/
def same : Form → Form → Bool
  | .empty, .empty => true
  | .literal a, .literal b => a = b
  | .chars a x, .chars b y => a = b && x = y
  | .look a, .look b => a = b
  | .repetition l m g a, .repetition l' m' g' b => l = l' && m = m' && g = g' && same a b
  | .concat a, .concat b => sameAll a b
  | .alternation a, .alternation b => sameAll a b
  | _, _ => false

def sameAll : List Form → List Form → Bool
  | [], [] => true
  | a :: as, b :: bs => same a b && sameAll as bs
  | _, _ => false

end

mutual

/-- Can nothing but the empty text match? -/
def isVoid : Form → Bool
  | .empty | .look _ => true
  | .literal _ | .chars .. => false
  | .repetition _ most _ body => most.isSome && isVoid body
  | .capture body => isVoid body
  | .concat parts => areVoid parts
  | .alternation branches => areVoid branches

def areVoid : List Form → Bool
  | [] => true
  | f :: rest => isVoid f && areVoid rest

end

mutual

/-- Has every class a character? -/
def isLive : Form → Bool
  | .chars codes _ => !codes.isEmpty
  | .empty | .look _ | .literal _ => true
  | .repetition _ _ _ body => isLive body
  | .capture body => isLive body
  | .concat parts => areLive parts
  | .alternation branches => areLive branches

def areLive : List Form → Bool
  | [] => true
  | f :: rest => isLive f && areLive rest

end

mutual

def consumes : Form → Bool
  | .empty | .look _ => false
  | .literal _ | .chars .. => true
  | .repetition least _ _ body => 0 < least && consumes body
  | .capture body => consumes body
  | .concat parts => anyConsumes parts
  | .alternation branches => allConsume branches

def anyConsumes : List Form → Bool
  | [] => false
  | f :: rest => consumes f || anyConsumes rest

def allConsume : List Form → Bool
  | [] => true
  | f :: rest => consumes f && allConsume rest

end

mutual

def isAnchored (a : Assertion) : Form → Bool
  | .look l => l.assertion = a
  | .empty | .literal _ | .chars .. => false
  | .repetition least _ _ body => 0 < least && isAnchored a body
  | .capture body => isAnchored a body
  | .concat parts => leadIsAnchored a parts
  | .alternation branches => areAnchored a branches

def leadIsAnchored (a : Assertion) : List Form → Bool
  | [] => false
  | f :: rest => isAnchored a f || (isVoid f && leadIsAnchored a rest)

def areAnchored (a : Assertion) : List Form → Bool
  | [] => true
  | f :: rest => isAnchored a f && areAnchored a rest

end

mutual

def mirrored : Form → Form
  | .repetition least most greedy body => .repetition least most greedy (mirrored body)
  | .capture body => .capture (mirrored body)
  | .concat parts => .concat (mirroredOnto [] parts)
  | .alternation branches => .alternation (mirroredOnto [] branches).reverse
  | f => f

def mirroredOnto (done : List Form) : List Form → List Form
  | [] => done
  | f :: rest => mirroredOnto (mirrored f :: done) rest

end

-- ---------------------------------------------------------------------------
-- Building
-- ---------------------------------------------------------------------------

def fail : Form := .chars .empty true

def ofCodes (codes : CodeSet) (bytes : Bool) : Form :=
  match codes.ranges with
  | [] => fail
  | [(low, high)] => if low = high then .literal [Char.ofNat low] else .chars codes bytes
  | _ => .chars codes bytes

/-- A form again and again. The empty text counts once. -/
def repeated (least : Nat) (most : Option Nat) (greedy : Bool) (body : Form) : Form :=
  let (least, most) :=
    if isVoid body then (min least 1, some (most.elim 1 (min · 1))) else (least, most)
  match least, most with
  | 0, some 0 => .empty
  | 1, some 1 => body
  | least, most => .repetition least most greedy body

/-- The parts that a form has in a sequence. -/
def parts : Form → List Form
  | .empty => []
  | .concat ps => ps
  | f => [f]

/-- Puts a part before others; literals that meet become one. -/
def push : Form → List Form → List Form
  | .literal a, .literal b :: rest => .literal (a ++ b) :: rest
  | f, rest => f :: rest

def sequence (forms : List Form) : Form :=
  match (forms.flatMap parts).foldr push [] with
  | [] => .empty
  | [f] => f
  | ps => .concat ps

/-- The branches that a form has in a choice. -/
def branches : Form → List Form
  | .alternation bs => bs
  | f => [f]

/-- The ranges of a literal of a single character. -/
def singleRange? : Form → Option (List CodeRange)
  | .literal [c] => some [(c.toNat, c.toNat)]
  | _ => none

def classRanges? : Form → Option (List CodeRange)
  | .chars codes _ => some codes.ranges
  | _ => none

/-- One class for branches that are all single characters, or all classes. -/
def merged? (bs : List Form) : Option Form :=
  (bs.mapM singleRange? <|> bs.mapM classRanges?).map fun rs => ofCodes (.ofRanges rs.flatten) false

def plainChoice (forms : List Form) : Form :=
  match forms.flatMap branches with
  | [] => fail
  | [f] => f
  | bs => (merged? bs).getD (.alternation bs)

/-- The parts at the head of both of two sequences. -/
def commonLead : List Form → List Form → List Form
  | a :: as, b :: bs => if same a b then a :: commonLead as bs else []
  | _, _ => []

def sharedLead : List Form → List Form
  | .concat ps :: rest =>
    rest.foldl (fun lead f =>
      match f with
      | .concat qs => commonLead lead qs
      | _ => []) ps
  | _ => []

def dropParts (n : Nat) : Form → Form
  | .concat ps => sequence (ps.drop n)
  | f => f

/-- One of some forms. Once the parts that all start with stand before them,
the rests start with nothing in common. -/
def choice (forms : List Form) : Form :=
  match plainChoice forms with
  | .alternation bs =>
    match sharedLead bs with
    | [] => .alternation bs
    | lead => sequence (lead ++ [plainChoice (bs.map (dropParts lead.length))])
  | f => f

end Form

end DebugAdapter.Pattern
