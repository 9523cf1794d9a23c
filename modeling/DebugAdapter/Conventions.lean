import DebugAdapter.Paths.FileUrl

/-!
# Client conventions

How a client counts lines and writes paths. The debugger counts lines from 1
and names files by plain paths; a client may count from 0 and may write
`file:` URLs.
-/

namespace DebugAdapter

structure Conventions where
  linesStartAt1 : Bool
  pathsAreUri : Bool
  deriving Repr, DecidableEq

namespace Conventions

def standard : Conventions := ⟨true, false⟩

def lineToClient (c : Conventions) (line : Nat) : Int :=
  if c.linesStartAt1 then line else line - 1

def maxClientLine : Int := 9223372036854775807

/-- The debugger's number of a client's line; none past the greatest number. -/
def lineFromClient (c : Conventions) (line : Int) : Option Int :=
  if c.linesStartAt1 then some line
  else if line < maxClientLine then some (line + 1) else none

/-- A path as the client writes it; one that has no URL stays as it is. -/
def pathToClient (c : Conventions) (path : String) : String :=
  if c.pathsAreUri then (Paths.toFileUrl? path).getD path else path

/-- The path a client means; none for a URL that leads to no local file. -/
def pathFromClient (c : Conventions) (path : String) : Option String :=
  if c.pathsAreUri then Paths.ofFileUrl? path else some path

end Conventions

end DebugAdapter
