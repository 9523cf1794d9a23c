import DebugAdapter.Json.Basic
import DebugAdapter.Variables.Table

/-!
# Variable rows

What a client sees of values: rows with a name, a text, perhaps a type, and
perhaps a handle for expanding the value further. Making a row for a
structured value stores the value in the table.
-/

namespace DebugAdapter

structure Variable where
  name : String
  value : String
  type : Option String
  /-- Zero if there is nothing to expand. -/
  handle : Nat
  deriving Repr, DecidableEq

namespace Variable

def leaf (name value : String) (type : Option String) : Variable := ⟨name, value, type, 0⟩

def toJson (v : Variable) : Json :=
  .object ([("name", .str v.name), ("value", .str v.value)] ++
    (match v.type with | some t => [("type", Json.str t)] | none => []) ++
    [("variablesReference", .int v.handle)])

end Variable

/-- Stores a value with children; its handle, or zero. -/
def ValueTable.handleFor (t : ValueTable) (scope : ScopeKind) (frame : Nat) (v : Value) :
    Nat × ValueTable :=
  if v.isStructured then
    let (slot, t) := t.insert v
    match slot.bind (VarRef.make? scope frame) with
    | some ref => (ref.encode, t)
    | none => (0, t)
  else (0, t)

def ValueTable.row (t : ValueTable) (scope : ScopeKind) (frame : Nat) (name : String)
    (v : Value) : Variable × ValueTable :=
  let (handle, t) := t.handleFor scope frame v
  (⟨name, v.debugText, some v.typeName, handle⟩, t)

def ValueTable.rows (t : ValueTable) (scope : ScopeKind) (frame : Nat) :
    List (String × Value) → List Variable × ValueTable
  | [] => ([], t)
  | (name, v) :: rest =>
    let (row, t) := t.row scope frame name v
    let (rows, t) := t.rows scope frame rest
    (row :: rows, t)

/-- The rows of watches; a watch without a value is shown as undefined. -/
def ValueTable.watchRows (t : ValueTable) (scope : ScopeKind) (frame : Nat) :
    List Watch → List Variable × ValueTable
  | [] => ([], t)
  | w :: rest =>
    let (row, t) := match w.value with
      | some v => t.row scope frame w.name v
      | none => (Variable.leaf w.name "(undefined)" none, t)
    let (rows, t) := t.watchRows scope frame rest
    (row :: rows, t)

-- ---------------------------------------------------------------------------
-- Expansion
-- ---------------------------------------------------------------------------

def tableKind (metatable : Option Nat) (prime : Bool) : String :=
  (if prime then "prime table" else "table") ++
    (if metatable.isSome then " with metatable" else "")

def valueRow (v : Value) : Variable := .leaf "(value)" v.display (some v.typeName)

/-- The rows that an expanded value starts with, before its children. -/
def headRows : Value → List Variable
  | .table id metatable prime length _ =>
    .leaf "(table #id)" (Decimal.digitsText id) (some (tableKind metatable prime)) ::
      (match metatable with
        | some m => [.leaf "(metatable #id)" (Decimal.digitsText m) (some "table")]
        | none => []) ++
      [.leaf "(length)" (Decimal.digitsText length) (some "number")]
  | v@(.function entryPoint upvalues) =>
    [valueRow v, .leaf "(address)" (hexWord entryPoint) none,
      .leaf "(upvalues)" (Decimal.digitsText upvalues) none]
  | v@(.hostFunction name) => [valueRow v, .leaf "(name)" (name.getD "(unnamed)") none]
  | v@(.userData descriptor object) =>
    [valueRow v,
      (match descriptor with
        | some d => .leaf "(descriptor)" d none
        | none => .leaf "(descriptor)" "null!" (some "nil")),
      .leaf "(native object)" (object.getD "(null)") none]
  | v@(.coroutine state kind autoYields) =>
    [valueRow v, .leaf "(coroutine state)" state none, .leaf "(coroutine type)" kind none,
      .leaf "(auto-yield counter)" (Decimal.digitsText autoYields) none]
  | v => [valueRow v]

def bracketed (s : String) : String := "[" ++ s ++ "]"

/-- The named children of a value: table entries by key, tuple items by index. -/
def children : Value → List (String × Value)
  | .table _ _ _ _ entries => entries.map fun e => (bracketed e.1.debugText, e.2)
  | .tuple items => items.zipIdx.map fun e => (bracketed (Decimal.digitsText e.2), e.1)
  | _ => []

def ValueTable.expand (t : ValueTable) (scope : ScopeKind) (frame : Nat) (v : Value) :
    List Variable × ValueTable :=
  let (rows, t) := t.rows scope frame (children v)
  (headRows v ++ rows, t)

end DebugAdapter
