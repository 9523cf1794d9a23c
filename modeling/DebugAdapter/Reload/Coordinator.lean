import DebugAdapter.Reload.Debounce
import DebugAdapter.Reload.Generations
import DebugAdapter.Server.Basic

/-!
# The reload coordinator

Generations of targets under a debounce timer: a reload is over once no
instance has been loaded for the length of the window. Loads that fail keep
the window open as well.
-/

namespace DebugAdapter

structure Coordinator where
  generations : Generations
  /-- The length of the window, in the unit of all times here. -/
  window : Nat
  /-- The end of the open window. -/
  deadline : Option Nat
  deriving Repr, DecidableEq

namespace Coordinator

def create (window : Nat) : Coordinator := ⟨.empty, window, none⟩

def signal (c : Coordinator) (now : Nat) (signal : Debounce.Signal) : Coordinator :=
  { c with deadline := Debounce.deadlineAfter c.window now signal }

def load (host : TargetHost σ) (s : σ) (c : Coordinator) (now : Nat) (name : String) (l : Loaded) :
    σ × Coordinator × Except Failure Unit :=
  let (s, generations, result) := c.generations.load host s name l
  (s, { c with generations }.signal now .reset, result)

def remove (host : TargetHost σ) (s : σ) (c : Coordinator) (name : String) :
    σ × Coordinator × Except Failure Unit :=
  let (s, generations, result) := c.generations.remove host s name
  (s, { c with generations }, result)

def flush (host : TargetHost σ) (s : σ) (c : Coordinator) (now : Nat) : σ × Coordinator :=
  let c := c.signal now .cancel
  let (s, generations) := c.generations.expire host s
  (s, { c with generations })

/-- Time passes: the reload is over if its window has ended. -/
def elapse (host : TargetHost σ) (s : σ) (c : Coordinator) (now : Nat) : σ × Coordinator :=
  if Debounce.hasEnded c.deadline now then
    let (s, generations) := c.generations.expire host s
    (s, { c with generations, deadline := none })
  else (s, c)

end Coordinator

-- ---------------------------------------------------------------------------
-- Servers as hosts
-- ---------------------------------------------------------------------------

/-- A server with what it has done so far. -/
structure ActiveServer where
  server : Server
  activity : Activity

namespace ActiveServer

/-- Takes over a step of the server; the value of its result is of no concern. -/
def after (a : ActiveServer) (step : Server × Activity × Except Failure α) :
    ActiveServer × Except Failure Unit :=
  let (server, activity, result) := step
  (⟨server, a.activity ++ activity⟩, result.map fun _ => ())

def host (bind : List Nat → Nat → Except String Nat) : TargetHost ActiveServer where
  attach a l name := a.after (a.server.attach (a.server.network bind) ⟨l.key, l.id, name⟩)
  replace a old l name := a.after (a.server.replace old l.key l.id name)
  detach a id := a.after (a.server.detach id)

end ActiveServer

end DebugAdapter
