import DebugAdapter.Pattern.Meaning
import DebugAdapter.Pattern.Parser

/-!
# Checking patterns

A pattern has no fault if it can be read, nests no deeper than the limit, and
stands for a form. The first of these that fails gives the fault.
-/

namespace DebugAdapter.Pattern

-- ---------------------------------------------------------------------------
-- Nesting
-- ---------------------------------------------------------------------------

def deeper (depth : Nat) (span : Span) : Except Fault Nat :=
  if depth < nestLimit then .ok (depth + 1) else .error ⟨.nestLimitExceeded, span, none⟩

mutual

def ClassItem.checkNesting (depth : Nat) : ClassItem → Except Fault Unit
  | .bracketed span _ set => do
    let depth ← deeper depth span
    set.checkNesting depth
  | .union span items => do
    let depth ← deeper depth span
    ClassItem.checkNestingAll depth items
  | _ => .ok ()

def ClassItem.checkNestingAll (depth : Nat) : List ClassItem → Except Fault Unit
  | [] => .ok ()
  | i :: rest => do
    i.checkNesting depth
    ClassItem.checkNestingAll depth rest

def ClassSet.checkNesting (depth : Nat) : ClassSet → Except Fault Unit
  | .item i => i.checkNesting depth
  | .operation span _ left right => do
    let depth ← deeper depth span
    left.checkNesting depth
    right.checkNesting depth

end

mutual

def Tree.checkNesting (depth : Nat) : Tree → Except Fault Unit
  | .bracketed span _ set => do
    let depth ← deeper depth span
    set.checkNesting depth
  | .repetition span _ _ _ body => do
    let depth ← deeper depth span
    body.checkNesting depth
  | .group span _ body => do
    let depth ← deeper depth span
    body.checkNesting depth
  | .alternation span branches => do
    let depth ← deeper depth span
    Tree.checkNestingAll depth branches
  | .concat span parts => do
    let depth ← deeper depth span
    Tree.checkNestingAll depth parts
  | _ => .ok ()

def Tree.checkNestingAll (depth : Nat) : List Tree → Except Fault Unit
  | [] => .ok ()
  | t :: rest => do
    t.checkNesting depth
    Tree.checkNestingAll depth rest

end

-- ---------------------------------------------------------------------------
-- Whole patterns
-- ---------------------------------------------------------------------------

/-- The form of a pattern, or the first fault in the pattern. -/
def check (pattern : String) : Except Fault Form := do
  let tree ← Tree.ofPattern? pattern.toList
  tree.checkNesting 0
  let (_, form) ← tree.form .initial
  return form

end DebugAdapter.Pattern
