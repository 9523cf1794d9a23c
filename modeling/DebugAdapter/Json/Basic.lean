import DebugAdapter.Number.Binary64

/-!
# JSON values

Values of the protocol's data format. A number is an integer of 64 bits,
signed or not, or else a binary floating-point number. The members of an
object carry their order: a message envelope has the order its writer gives,
every other object has its members sorted by name, each name once.
-/

namespace DebugAdapter

inductive Json where
  | null
  | bool (value : Bool)
  | int (value : Int)
  | float (value : Binary64)
  | str (value : String)
  | arr (items : List Json)
  | obj (members : List (String × Json))
  deriving Repr, Inhabited

namespace Json

/-- Puts a member into members that are sorted by name, in place of one of
the same name. -/
def insertMember (name : String) (value : Json) : List (String × Json) → List (String × Json)
  | [] => [(name, value)]
  | m :: rest =>
    if name < m.1 then (name, value) :: m :: rest
    else if name = m.1 then (name, value) :: rest
    else m :: insertMember name value rest

/-- The object of some members, sorted by name; of members with one name the
last stays. -/
def object (members : List (String × Json)) : Json :=
  .obj (members.foldl (fun sorted m => insertMember m.1 m.2 sorted) [])

def optional (name : String) (value : Option Json) : List (String × Json) :=
  match value with
  | some v => [(name, v)]
  | none => []

def lookup (name : String) (members : List (String × Json)) : Option Json :=
  (members.find? fun m => m.1 = name).map Prod.snd

def get? (j : Json) (name : String) : Option Json :=
  match j with
  | .obj members => lookup name members
  | _ => none

def asStr? : Json → Option String
  | .str s => some s
  | _ => none

def asBool? : Json → Option Bool
  | .bool b => some b
  | _ => none

/-- The least and the greatest signed integer of 64 bits. -/
def minInt64 : Int := -9223372036854775808
def maxInt64 : Int := 9223372036854775807

def asInt64? : Json → Option Int
  | .int n => if minInt64 ≤ n && n ≤ maxInt64 then some n else none
  | _ => none

def asArr? : Json → Option (List Json)
  | .arr items => some items
  | _ => none

def asObj? : Json → Option (List (String × Json))
  | .obj members => some members
  | _ => none

end Json

end DebugAdapter
