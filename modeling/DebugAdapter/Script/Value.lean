import DebugAdapter.Text.Quoted

/-!
# Script values

Values as an interpreter hands them over, the name of their type, and their
two texts: `display`, and `debugText` in which strings are quoted, at any
depth of tuples.
-/

namespace DebugAdapter

inductive Value where
  | nil
  /-- No value at all: an unassigned watch, a missing tuple slot. -/
  | void
  | boolean (value : Bool)
  | number (value : Binary64)
  | string (text : String)
  | function (entryPoint upvalues : Nat)
  | hostFunction (name : Option String)
  /-- `prime` tables belong to no single script. The length need not be the
  number of entries. -/
  | table (id : Nat) (metatable : Option Nat) (prime : Bool) (length : Nat)
      (entries : List (Value × Value))
  | userData (descriptor object : Option String)
  | coroutine (state kind : String) (autoYields : Nat)
  | tuple (items : List Value)
  deriving Repr, Inhabited

namespace Value

def typeName : Value → String
  | .nil => "nil"
  | .void => "void"
  | .boolean _ => "boolean"
  | .number _ => "number"
  | .string _ => "string"
  | .function .. => "function"
  | .hostFunction _ => "hostfunction"
  | .table .. => "table"
  | .userData .. => "userdata"
  | .coroutine .. => "thread"
  | .tuple _ => "tuple"

/-- A value with children that a client may expand. -/
def isStructured : Value → Bool
  | .table .. => true
  | .tuple _ => true
  | _ => false

def intText : Int → String
  | .ofNat n => Decimal.digitsText n
  | .negSucc n => "-" ++ Decimal.digitsText (n + 1)

/-- Numbers from here on are never shown as integers. -/
def integerLimit : Nat := 1000000000000000

/-- A number that is no small integer: the fewest digits that read back, a
tie going up, never with an exponent. -/
def fractionText : Binary64 → String
  | .nan => "NaN"
  | .infinite negative => if negative then "-inf" else "inf"
  | .finite negative m e =>
    (if negative then "-" else "") ++ (Decimal.shortest m e .up).positional

def numberText (x : Binary64) : String :=
  match x.integer? with
  | some n => if n.natAbs < integerLimit then intText n else fractionText x
  | none => fractionText x

/-- The text of a value that is no tuple; strings as they are. -/
def scalarText : Value → String
  | .nil => "nil"
  | .void => "void"
  | .boolean b => if b then "true" else "false"
  | .number x => numberText x
  | .string s => s
  | .function entryPoint _ => "function: " ++ hexWord entryPoint
  | .hostFunction name => "hostfunction: " ++ name.getD "(unnamed)"
  | .table id .. => "table: #" ++ Decimal.digitsText id
  | .userData descriptor _ => "userdata: " ++ descriptor.getD "?"
  | .coroutine state .. => "thread: " ++ state
  | .tuple _ => ""

mutual

def display : Value → String
  | .tuple items => "(" ++ displayItems items ++ ")"
  | v => v.scalarText

def displayItems : List Value → String
  | [] => ""
  | [v] => v.display
  | v :: rest => v.display ++ ", " ++ displayItems rest

end

mutual

def debugText : Value → String
  | .string s => Text.quote s
  | .tuple items => "(" ++ debugItems items ++ ")"
  | v => v.scalarText

def debugItems : List Value → String
  | [] => ""
  | [v] => v.debugText
  | v :: rest => v.debugText ++ ", " ++ debugItems rest

end

end Value

end DebugAdapter
