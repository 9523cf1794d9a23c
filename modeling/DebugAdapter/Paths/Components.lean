/-!
# Path components

Slash-separated paths. Empty components and single dots do not count, except
that a path that starts with a slash is absolute.
-/

namespace DebugAdapter.Paths

/-- The pieces between the slashes of a text; one more than it has slashes. -/
def splitSlashes : List Char → List (List Char)
  | [] => [[]]
  | c :: rest =>
    if c = '/' then [] :: splitSlashes rest
    else match splitSlashes rest with
      | [] => [[c]]
      | piece :: pieces => (c :: piece) :: pieces

/-- The components of a path without those that do not count. -/
def components (path : List Char) : List (List Char) :=
  (splitSlashes path).filter fun piece => piece ≠ [] && piece ≠ ['.']

def isAbsolute (path : List Char) : Bool := path.head? = some '/'

/-- The name of the file a path leads to; none for a root, an empty path and
a path that ends in a step upwards. -/
def fileName? (path : String) : Option String :=
  match (components path.toList).getLast? with
  | none => none
  | some ['.', '.'] => none
  | some name => some (String.ofList name)

end DebugAdapter.Paths
