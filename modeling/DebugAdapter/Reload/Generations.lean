import DebugAdapter.Failure
import DebugAdapter.Script.Target

/-!
# Generations of targets

A host that reloads its scripts creates new instances under the names of old
ones. The instances of the present generation are kept apart from those of the
one before, by name. A load under a known name starts a new generation; a load
under the name of an old instance continues that instance. What is left of the
old generation in the end is withdrawn.
-/

namespace DebugAdapter

structure Loaded where
  key : InstanceKey
  id : TargetId
  deriving Repr, DecidableEq

/-- Where targets are offered; `σ` is its state. Every call may fail. -/
structure TargetHost (σ : Type) where
  attach : σ → Loaded → String → σ × Except Failure Unit
  /-- Puts an instance in the place of the target with an identity. -/
  replace : σ → TargetId → Loaded → Option String → σ × Except Failure Unit
  detach : σ → TargetId → σ × Except Failure Unit

/-- Instances by name, in the order of names. -/
abbrev Generation := List (String × Loaded)

namespace Generation

def find? (g : Generation) (name : String) : Option Loaded :=
  (List.find? (fun e => e.1 = name) g).map Prod.snd

/-- Adds an instance; one of the same name gives way. -/
def insert (name : String) (l : Loaded) : Generation → Generation
  | [] => [(name, l)]
  | m :: rest =>
    if name < m.1 then (name, l) :: m :: rest
    else if name = m.1 then (name, l) :: rest
    else m :: insert name l rest

def erase (g : Generation) (name : String) : Generation :=
  List.filter (fun e => e.1 ≠ name) g

end Generation

structure Generations where
  current : Generation
  superseded : Generation
  deriving Repr, DecidableEq

namespace Generations

def empty : Generations := ⟨[], []⟩

/-- Moves instances to the old generation; one that is there under the same
name has outlived two reloads and is withdrawn. -/
def supersede (host : TargetHost σ) (s : σ) (superseded : Generation) :
    Generation → σ × Generation
  | [] => (s, superseded)
  | (name, l) :: rest =>
    let s := match superseded.find? name with
      | some stale => (host.detach s stale.id).1
      | none => s
    supersede host s (superseded.insert name l) rest

def turn (host : TargetHost σ) (s : σ) (g : Generations) : σ × Generations :=
  let (s, superseded) := supersede host s g.superseded g.current
  (s, ⟨[], superseded⟩)

/-- Enters an instance whose name is not in the current generation: in the
place of the old instance of its name, or as a new target. -/
def enter (host : TargetHost σ) (s : σ) (g : Generations) (name : String) (l : Loaded) :
    σ × Generations × Except Failure Unit :=
  match g.superseded.find? name with
  | some old =>
    match host.replace s old.id l (some name) with
    | (s, .ok ()) => (s, ⟨g.current.insert name l, g.superseded.erase name⟩, .ok ())
    | (s, .error e) => (s, g, .error e)
  | none =>
    match host.attach s l name with
    | (s, .ok ()) => (s, ⟨g.current.insert name l, g.superseded⟩, .ok ())
    | (s, .error e) => (s, g, .error e)

def load (host : TargetHost σ) (s : σ) (g : Generations) (name : String) (l : Loaded) :
    σ × Generations × Except Failure Unit :=
  match g.current.find? name with
  | none => enter host s g name l
  | some known =>
    if known.id = l.id then (s, g, .ok ())
    else
      let (s, g) := turn host s g
      enter host s g name l

def remove (host : TargetHost σ) (s : σ) (g : Generations) (name : String) :
    σ × Generations × Except Failure Unit :=
  match g.current.find? name with
  | some l =>
    let (s, result) := host.detach s l.id
    (s, { g with current := g.current.erase name }, result)
  | none =>
    match g.superseded.find? name with
    | some l =>
      let (s, result) := host.detach s l.id
      (s, { g with superseded := g.superseded.erase name }, result)
    | none => (s, g, .ok ())

/-- Withdraws instances, whether that works or not. -/
def detachAll (host : TargetHost σ) (s : σ) (old : Generation) : σ :=
  old.foldl (fun s e => (host.detach s e.2.id).1) s

/-- A reload is over: what is left of the old generation is withdrawn. -/
def expire (host : TargetHost σ) (s : σ) (g : Generations) : σ × Generations :=
  (detachAll host s g.superseded, { g with superseded := [] })

end Generations

end DebugAdapter
