import DebugAdapter.Proofs.Reload.Tracking
import DebugAdapter.Reload.Coordinator

/-!
# A coordinator on any host

The host may do what it is asked to, or refuse, each time as it likes. Whatever it does, every name
is tracked once (`once_run`), so a turn of the generations finds nothing in its way. What the host
is asked to withdraw is told by a host that keeps a record (`recorded`): what a removal drops, and
what is old at the end of a reload.
-/

namespace DebugAdapter

inductive CoordinatorEvent where
  | load (now : Nat) (name : String) (loaded : Loaded)
  | remove (name : String)
  | flush (now : Nat)
  | elapse (now : Nat)

namespace Coordinator

def step (host : TargetHost σ) (x : σ × Coordinator) : CoordinatorEvent → σ × Coordinator
  | .load now name l => let (s, c, _) := x.2.load host x.1 now name l; (s, c)
  | .remove name => let (s, c, _) := x.2.remove host x.1 name; (s, c)
  | .flush now => x.2.flush host x.1 now
  | .elapse now => x.2.elapse host x.1 now

def run (host : TargetHost σ) (x : σ × Coordinator) (events : List CoordinatorEvent) :
    σ × Coordinator := events.foldl (step host) x

def withdraws (c : Coordinator) : CoordinatorEvent → List TargetId
  | .load .. => []
  | .remove name => (c.generations.entries.find? name).toList.map Loaded.id
  | .flush _ => c.generations.superseded.map fun e => e.2.id
  | .elapse now =>
    if Debounce.hasEnded c.deadline now then c.generations.superseded.map fun e => e.2.id else []

end Coordinator

-- ---------------------------------------------------------------------------
-- Records
-- ---------------------------------------------------------------------------

inductive HostCall where
  | attach (l : Loaded) (name : String)
  | replace (old : TargetId) (l : Loaded) (name : Option String)
  | detach (id : TargetId)
  deriving DecidableEq

def HostCall.withdrawn? : HostCall → Option TargetId
  | .detach id => some id
  | _ => none

/-- A host that does the same, and keeps a record of what it is asked to do. -/
def TargetHost.recorded (host : TargetHost σ) : TargetHost (σ × List HostCall) where
  attach s l name :=
    let (t, result) := host.attach s.1 l name
    ((t, s.2 ++ [.attach l name]), result)
  replace s old l name :=
    let (t, result) := host.replace s.1 old l name
    ((t, s.2 ++ [.replace old l name]), result)
  detach s id :=
    let (t, result) := host.detach s.1 id
    ((t, s.2 ++ [.detach id]), result)

namespace TargetHost

variable (host : TargetHost σ) (s : σ) (log : List HostCall)

theorem recorded_attach (l : Loaded) (name : String) :
    host.recorded.attach (s, log) l name =
      (((host.attach s l name).1, log ++ [.attach l name]), (host.attach s l name).2) := rfl

theorem recorded_replace (old : TargetId) (l : Loaded) (name : Option String) :
    host.recorded.replace (s, log) old l name =
      (((host.replace s old l name).1, log ++ [.replace old l name]),
        (host.replace s old l name).2) := rfl

end TargetHost

/-- A step on a host that keeps a record comes to the same, and the targets that the host is asked
to withdraw are known. -/
def Records (log : List HostCall) (ids : List TargetId) (plain : σ × α)
    (recorded : (σ × List HostCall) × α) : Prop :=
  ∃ calls, recorded = ((plain.1, log ++ calls), plain.2) ∧
    calls.filterMap HostCall.withdrawn? = ids

theorem Records.quiet (log : List HostCall) (plain : σ × α) :
    Records log [] plain ((plain.1, log), plain.2) := ⟨[], by simp, rfl⟩

namespace Generation

theorem find?_append (a b : Generation) (name : String) :
    find? (a ++ b) name = (a.find? name).or (b.find? name) := by
  simp only [find?, List.find?_append, Option.map_or]

theorem notMem_erase (g : Generation) (name : String) : name ∉ (g.erase name).names := by
  simp [names, erase]

end Generation

namespace Generations

variable (host : TargetHost σ) (s : σ) (log : List HostCall) {g : Generations}

theorem supersede_snd (host' : TargetHost τ) (s' : τ) (superseded current : Generation) :
    (supersede host s superseded current).2 = (supersede host' s' superseded current).2 := by
  induction current generalizing s s' superseded with
  | nil => rfl
  | cons e rest ih =>
    rcases e with ⟨name, l⟩
    exact ih ..

theorem records_enter (name : String) (l : Loaded) :
    Records log [] (g.enter host s name l) (g.enter host.recorded (s, log) name l) := by
  cases found : g.superseded.find? name with
  | some old =>
    refine ⟨[.replace old.id l (some name)], ?_, rfl⟩
    simp only [enter, found, TargetHost.recorded_replace]
    rcases host.replace s old.id l (some name) with ⟨t, _ | _⟩ <;> rfl
  | none =>
    refine ⟨[.attach l name], ?_, rfl⟩
    simp only [enter, found, TargetHost.recorded_attach]
    rcases host.attach s l name with ⟨t, _ | _⟩ <;> rfl

theorem records_load (once : g.Once) (name : String) (l : Loaded) :
    Records log [] (g.load host s name l) (g.load host.recorded (s, log) name l) := by
  unfold load
  cases g.current.find? name with
  | none => exact records_enter host s log name l
  | some known =>
    dsimp only
    split
    · exact .quiet log (s, g, (.ok () : Except Failure Unit))
    · obtain ⟨moved, turned, -⟩ := turn_perm host s once
      obtain ⟨moved', turned', -⟩ := turn_perm host.recorded (s, log) once
      have same : moved' = moved := by
        have alike := supersede_snd host.recorded (s, log) host s g.superseded g.current
        simp only [turn, Prod.mk.injEq, Generations.mk.injEq, true_and] at turned turned'
        rw [← turned.2, ← turned'.2, alike]
      rw [turned, turned', same]
      exact records_enter host s log name l

theorem records_remove (name : String) :
    Records log ((g.entries.find? name).toList.map Loaded.id) (g.remove host s name)
      (g.remove host.recorded (s, log) name) := by
  rw [entries, Generation.find?_append]
  unfold remove
  cases g.current.find? name with
  | some l => exact ⟨[.detach l.id], rfl, rfl⟩
  | none =>
    cases g.superseded.find? name with
    | some l => exact ⟨[.detach l.id], rfl, rfl⟩
    | none => exact .quiet log (s, g, (.ok () : Except Failure Unit))

theorem detachAll_recorded (old : Generation) :
    detachAll host.recorded (s, log) old =
      (detachAll host s old, log ++ old.map fun e => .detach e.2.id) := by
  induction old generalizing s log with
  | nil => exact congrArg _ (List.append_nil log).symm
  | cons e rest ih =>
    refine (ih _ _).trans ?_
    rw [List.append_assoc]
    rfl

theorem records_expire :
    Records log (g.superseded.map fun e => e.2.id) (g.expire host s)
      (g.expire host.recorded (s, log)) := by
  refine ⟨g.superseded.map fun e => .detach e.2.id, ?_, ?_⟩
  · simp only [expire, detachAll_recorded]
  · rw [List.filterMap_map]
    exact congrFun List.filterMap_eq_map' g.superseded

theorem Once.apart (once : g.Once) (h : name ∈ Generation.names g.current) :
    name ∉ Generation.names g.superseded := by
  rw [Once, entries, Generation.names, List.map_append] at once
  exact fun old => (List.nodup_append.mp once).2.2 _ h _ old rfl

theorem remove_absent (once : g.Once) (name : String) :
    name ∉ Generation.names (g.remove host s name).2.1.current ∧
      name ∉ Generation.names (g.remove host s name).2.1.superseded := by
  cases inCurrent : g.current.find? name with
  | some l =>
    simp only [remove, inCurrent]
    have known := List.mem_map_of_mem (f := Prod.fst) (Generation.mem_of_find? inCurrent)
    exact ⟨Generation.notMem_erase g.current name, once.apart known⟩
  | none =>
    have new := Generation.find?_eq_none_iff.mp inCurrent
    cases inOld : g.superseded.find? name with
    | some l =>
      simp only [remove, inCurrent, inOld]
      exact ⟨new, Generation.notMem_erase g.superseded name⟩
    | none =>
      simp only [remove, inCurrent, inOld]
      exact ⟨new, Generation.find?_eq_none_iff.mp inOld⟩

end Generations

-- ---------------------------------------------------------------------------
-- Runs
-- ---------------------------------------------------------------------------

namespace Coordinator

variable {host : TargetHost σ}

theorem run_append (host : TargetHost σ) (x : σ × Coordinator) (a b : List CoordinatorEvent) :
    run host x (a ++ b) = run host (run host x a) b := List.foldl_append

theorem once_step {x : σ × Coordinator} (once : x.2.generations.Once) (e : CoordinatorEvent) :
    (step host x e).2.generations.Once := by
  cases e with
  | load now name l => exact Generations.once_load once rfl
  | remove name => exact Generations.once_remove host x.1 once name
  | flush now => exact Generations.once_expire once
  | elapse now =>
    simp only [step, elapse]
    split
    · exact Generations.once_expire once
    · exact once

theorem once_run {x : σ × Coordinator} (once : x.2.generations.Once)
    (events : List CoordinatorEvent) : (run host x events).2.generations.Once := by
  induction events generalizing x with
  | nil => exact once
  | cons e rest ih => exact ih (once_step once e)

theorem records_step {s : σ} {c : Coordinator} (once : c.generations.Once) (log : List HostCall)
    (e : CoordinatorEvent) :
    Records log (c.withdraws e) (step host (s, c) e) (step host.recorded ((s, log), c) e) := by
  have expires := Generations.records_expire host s log (g := c.generations)
  cases e with
  | load now name l =>
    obtain ⟨calls, same, withdrawn⟩ := Generations.records_load host s log once name l
    exact ⟨calls, by simp only [step, load, same], withdrawn⟩
  | remove name =>
    obtain ⟨calls, same, withdrawn⟩ :=
      Generations.records_remove host s log (g := c.generations) name
    exact ⟨calls, by simp only [step, remove, same], withdrawn⟩
  | flush now =>
    obtain ⟨calls, same, withdrawn⟩ := expires
    exact ⟨calls, by simp only [step, flush, signal, same], withdrawn⟩
  | elapse now =>
    obtain ⟨calls, same, withdrawn⟩ := expires
    by_cases ended : Debounce.hasEnded c.deadline now
    · exact ⟨calls, by simp only [step, elapse, ended, if_true, same],
        by simp only [withdraws, ended, if_true, withdrawn]⟩
    · simp only [withdraws, step, elapse, ended]
      exact .quiet log (s, c)

end Coordinator

/-- Whatever the host does, no name is in both generations. So a turn moves all that is current and
asks the host for nothing, a removed name is in neither generation, and the host withdraws what a
removal drops or what is old at the end of a reload, each of these once, and nothing else. -/
theorem generations_apart (host : TargetHost σ) (s : σ) (window : Nat)
    (events : List CoordinatorEvent) :
    let x := Coordinator.run host (s, .create window) events
    let g := x.2.generations
    (∀ name ∈ Generation.names g.current, name ∉ Generation.names g.superseded) ∧
    (∃ moved, g.turn host x.1 = (x.1, ⟨[], moved⟩) ∧
      List.Perm moved (g.current ++ g.superseded)) ∧
    (∀ name, let removed := (Coordinator.step host x (.remove name)).2.generations
      name ∉ Generation.names removed.current ∧ name ∉ Generation.names removed.superseded) ∧
    ∀ e, ∃ calls,
      Coordinator.step host.recorded ((x.1, []), x.2) e =
        (((Coordinator.step host x e).1, calls), (Coordinator.step host x e).2) ∧
      calls.filterMap HostCall.withdrawn? = x.2.withdraws e := by
  intro x g
  have once : g.Once := Coordinator.once_run Generations.once_empty events
  exact ⟨fun _ => once.apart, Generations.turn_perm host x.1 once,
    Generations.remove_absent host x.1 once, Coordinator.records_step once []⟩

end DebugAdapter
