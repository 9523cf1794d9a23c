import DebugAdapter.Proofs.Reload.Agreement

/-!
# What is left of a burst of loads

A load under a known name starts a new generation, and takes along all that
has been loaded before it, in the same burst as well. `burst_keeps_iff` says
for each name what becomes of the instance last loaded under it: it is kept if
the server has it and no later load of the burst starts a generation, else it
is withdrawn. The server may have lost targets, or have been given others, in
any way before.
-/

namespace DebugAdapter

-- ---------------------------------------------------------------------------
-- One load
-- ---------------------------------------------------------------------------

namespace Generation

variable {g : Generation} {l k : Loaded}

theorem mem_insert_of_ne (new : name ∉ g.names) (other : m ≠ name) :
    (m, l) ∈ g.insert name k ↔ (m, l) ∈ g := by
  rw [(insert_perm new).mem_iff, List.mem_cons, Prod.mk.injEq]
  simp [other]

theorem mem_erase_of_ne (other : m ≠ name) : (m, l) ∈ g.erase name ↔ (m, l) ∈ g := by
  simp [erase, other]

theorem mem_of_mem_erase {e : String × Loaded} (h : e ∈ g.erase name) : e ∈ g :=
  (List.mem_filter.mp h).1

end Generation

/-- An instance is offered under a name, and no old instance has its identity. -/
structure Generations.Holds (g : Generations) (offered : Multiset Target) (name : String)
    (id : TargetId) : Prop where
  offers : ∃ t ∈ offered, t.name = name ∧ t.id = id
  notOld : ∀ e ∈ g.superseded, e.2.id ≠ id

namespace Generations

/-- A load starts a new generation: its name is known for another instance. -/
def Turns (g : Generations) (name : String) (l : Loaded) : Prop :=
  ∃ known, g.current.find? name = some known ∧ known.id ≠ l.id

section

variable {σ : Type} {host : TargetHost σ} {s s' : σ} {g g' : Generations} {k l : Loaded}

theorem mem_entering (new : g.current.find? name = none) (other : m ≠ name)
    (entered : Entering host s g name k (s', g', result)) :
    ((m, l) ∈ g'.current ↔ (m, l) ∈ g.current) ∧ ((m, l) ∈ g'.entries ↔ (m, l) ∈ g.entries) := by
  have inserted := Generation.mem_insert_of_ne (l := l) (k := k)
    (Generation.find?_eq_none_iff.mp new) other
  cases entered with
  | replaced => simp [entries, inserted, Generation.mem_erase_of_ne other]
  | attached => simp [entries, inserted]
  | unreplaced => exact ⟨.rfl, .rfl⟩
  | unattached => exact ⟨.rfl, .rfl⟩

theorem mem_entering_self (new : g.current.find? name = none)
    (entered : Entering host s g name k (s', g', .ok ())) : (name, k) ∈ g'.current := by
  have inserted : (name, k) ∈ g.current.insert name k :=
    (Generation.insert_perm (Generation.find?_eq_none_iff.mp new)).mem_iff.mpr
      (List.mem_cons_self ..)
  cases entered with
  | replaced => exact inserted
  | attached => exact inserted

variable {sound : σ → Prop} {offered : σ → Multiset Target}

/-- Entering an instance takes no target of another name away, but for one whose
identity an old instance has. -/
theorem holds_entering {id : TargetId} (lawful : host.Lawful sound offered) (before : sound s)
    (once : g.Once) (other : m ≠ name)
    (entered : Entering host s g name k (s', g', result)) :
    g'.Holds (offered s') m id ↔ g.Holds (offered s) m id := by
  cases entered with
  | @replaced old _ found done =>
    obtain ⟨-, t, rest, same, offers, changed⟩ := lawful.replace_ok before done
    have ids := lawful.ids before
    rw [offers, Multiset.map_cons, Multiset.nodup_cons] at ids
    rw [changed, offers]
    constructor
    · rintro ⟨⟨u, hu, rfl, rfl⟩, notOld⟩
      obtain rfl | hu := Multiset.mem_cons.mp hu
      · exact absurd rfl other
      refine ⟨⟨u, Multiset.mem_cons_of_mem hu, rfl, rfl⟩, fun e he => ?_⟩
      by_cases here : e.1 = name
      · -- The identity that is replaced is that of no other target.
        obtain rfl : e.2 = old := Option.some_inj.mp
          ((Generation.find?_of_mem once.superseded (here ▸ he)).symm.trans found)
        exact fun equal => ids.1 (Multiset.mem_map.mpr ⟨u, hu, equal.symm.trans same.symm⟩)
      · exact notOld e (List.mem_filter.mpr ⟨he, by simpa using here⟩)
    · rintro ⟨⟨u, hu, rfl, rfl⟩, notOld⟩
      obtain rfl | hu := Multiset.mem_cons.mp hu
      · exact absurd same.symm (notOld _ (Generation.mem_of_find? found))
      exact ⟨⟨u, Multiset.mem_cons_of_mem hu, rfl, rfl⟩,
        fun e he => notOld e (Generation.mem_of_mem_erase he)⟩
  | attached absent done =>
    rw [(lawful.attach_ok before done).2]
    constructor
    · rintro ⟨⟨u, hu, rfl, rfl⟩, notOld⟩
      obtain rfl | hu := Multiset.mem_cons.mp hu
      · exact absurd rfl other
      · exact ⟨⟨u, hu, rfl, rfl⟩, notOld⟩
    · rintro ⟨⟨u, hu, rfl, rfl⟩, notOld⟩
      exact ⟨⟨u, Multiset.mem_cons_of_mem hu, rfl, rfl⟩, notOld⟩
  | unreplaced _ refused => rw [(lawful.replace_error before refused).2]
  | unattached _ refused => rw [(lawful.attach_error before refused).2]

end

section

variable {σ : Type} {host : TargetHost σ} {s s' : σ} {g g' : Generations} {k l : Loaded}

/-- A load takes the instance of another name out of the current generation if
it starts a new one, but nothing is lost. -/
theorem mem_load (once : g.Once) (other : m ≠ name)
    (loaded : g.load host s name k = (s', g', result)) :
    ((m, l) ∈ g'.current ↔ (m, l) ∈ g.current ∧ ¬g.Turns name k) ∧
      ((m, l) ∈ g'.entries ↔ (m, l) ∈ g.entries) := by
  obtain ⟨known, found, same, again⟩ | ⟨new, entered⟩ |
    ⟨known, moved, found, differ, perm, entered⟩ := load_cases host s once name k
  · have quiet : ¬g.Turns name k := by simp [Turns, found, same]
    cases again.symm.trans loaded
    simp [quiet]
  · have quiet : ¬g.Turns name k := by simp [Turns, new]
    simpa [quiet] using mem_entering new other (loaded ▸ entered)
  · have turns : g.Turns name k := ⟨known, found, differ⟩
    have after := mem_entering (l := l) rfl other (loaded ▸ entered)
    refine ⟨?_, after.2.trans perm.mem_iff⟩
    simpa [turns] using after.1

theorem mem_load_self (once : g.Once) (loaded : g.load host s name k = (s', g', .ok ())) :
    ∃ l, (name, l) ∈ g'.current ∧ l.id = k.id := by
  obtain ⟨known, found, same, again⟩ | ⟨new, entered⟩ |
    ⟨known, moved, found, differ, perm, entered⟩ := load_cases host s once name k
  · cases again.symm.trans loaded
    exact ⟨known, Generation.mem_of_find? found, same⟩
  · exact ⟨k, mem_entering_self new (loaded ▸ entered), rfl⟩
  · exact ⟨k, mem_entering_self rfl (loaded ▸ entered), rfl⟩

theorem holds_load {sound : σ → Prop} {offered : σ → Multiset Target} {id : TargetId}
    (lawful : host.Lawful sound offered) (before : sound s) (once : g.Once) (other : m ≠ name)
    (quiet : ¬g.Turns name k) (loaded : g.load host s name k = (s', g', result)) :
    g'.Holds (offered s') m id ↔ g.Holds (offered s) m id := by
  obtain ⟨known, found, same, again⟩ | ⟨new, entered⟩ | ⟨known, moved, found, differ, -, -⟩ :=
    load_cases host s once name k
  · cases again.symm.trans loaded
    rfl
  · exact holds_entering lawful before once other (loaded ▸ entered)
  · exact absurd ⟨known, found, differ⟩ quiet

end

end Generations

-- ---------------------------------------------------------------------------
-- Bursts
-- ---------------------------------------------------------------------------

namespace Reloading

def loads (s : Reloading) (calls : List LoadCall) : Reloading :=
  calls.foldl (fun s c => (s.load c).1) s

def Turns (s : Reloading) : List LoadCall → Prop
  | [] => False
  | c :: rest => s.generations.Turns c.name c.loaded ∨ (s.load c).1.Turns rest

def Holds (s : Reloading) (name : String) (id : TargetId) : Prop :=
  s.generations.Holds s.host.offered name id

/-- An instance is of the current generation, and the server offers it. -/
def Keeps (s : Reloading) (name : String) (id : TargetId) : Prop :=
  (name, id) ∈ s.coordinator.generations.current.map (fun e => (e.1, e.2.id)) ∧
    (name, id) ∈ s.host.server.registry.targets.map fun e => (e.1.name, e.1.id)

instance (s : Reloading) (name : String) (id : TargetId) : Decidable (s.Keeps name id) :=
  inferInstanceAs (Decidable (_ ∧ _))

theorem loads_append (s : Reloading) (a b : List LoadCall) :
    s.loads (a ++ b) = (s.loads a).loads b := List.foldl_append

theorem valid_loads {s : Reloading} (valid : s.Valid) {calls : List LoadCall}
    (fresh : ∀ c ∈ calls, OpensUnused c.bind) : (s.loads calls).Valid := by
  induction calls generalizing s with
  | nil => exact valid
  | cons c rest ih =>
    exact ih (valid_load valid (fresh c (List.mem_cons_self ..)))
      fun d hd => fresh d (List.mem_cons_of_mem _ hd)

theorem agree_loads {s : Reloading} (agree : s.Agree) {calls : List LoadCall}
    (fresh : ∀ c ∈ calls, OpensUnused c.bind) : (s.loads calls).Agree := by
  induction calls generalizing s with
  | nil => exact agree
  | cons c rest ih =>
    exact ih (agree_load agree (fresh c (List.mem_cons_self ..)))
      fun d hd => fresh d (List.mem_cons_of_mem _ hd)

theorem mem_loads {s : Reloading} (valid : s.Valid) {calls : List LoadCall}
    (fresh : ∀ c ∈ calls, OpensUnused c.bind) (others : ∀ c ∈ calls, name ≠ c.name)
    (l : Loaded) :
    ((name, l) ∈ (s.loads calls).generations.current ↔
        (name, l) ∈ s.generations.current ∧ ¬s.Turns calls) ∧
      ((name, l) ∈ (s.loads calls).generations.entries ↔ (name, l) ∈ s.generations.entries) := by
  induction calls generalizing s with
  | nil => simp [loads, Turns]
  | cons c rest ih =>
    obtain ⟨here, elsewhere⟩ := List.forall_mem_cons.mp others
    obtain ⟨current, entries⟩ := Generations.mem_load (l := l) valid.once here
      (rfl : s.generations.load (ActiveServer.host c.bind) s.host c.name c.loaded = _)
    obtain ⟨currentAfter, entriesAfter⟩ := ih (valid_load valid (fresh c (List.mem_cons_self ..)))
      (fun d hd => fresh d (List.mem_cons_of_mem _ hd)) elsewhere
    refine ⟨currentAfter.trans ?_, entriesAfter.trans entries⟩
    rw [Turns, not_or, ← and_assoc]
    exact and_congr_left fun _ => current

theorem holds_loads {s : Reloading} {id : TargetId} (valid : s.Valid) {calls : List LoadCall}
    (fresh : ∀ c ∈ calls, OpensUnused c.bind) (others : ∀ c ∈ calls, name ≠ c.name)
    (quiet : ¬s.Turns calls) : (s.loads calls).Holds name id ↔ s.Holds name id := by
  induction calls generalizing s with
  | nil => rfl
  | cons c rest ih =>
    obtain ⟨here, elsewhere⟩ := List.forall_mem_cons.mp others
    rw [Turns, not_or] at quiet
    have unused := fresh c (List.mem_cons_self ..)
    have after := ih (valid_load valid unused) (fun d hd => fresh d (List.mem_cons_of_mem _ hd))
      elsewhere quiet.2
    exact after.trans (Generations.holds_load (ActiveServer.host_lawful unused) valid.sound
      valid.once here quiet.1 rfl)

theorem offered_of_ends {s : Reloading} (valid : s.Valid) {m : ReloadMoment}
    (fresh : OpensUnused m.bind) (ends : s.Ends m) :
    (s.step m).host.offered =
      s.host.offered.filter fun t => t.id ∉ s.generations.superseded.map fun e => e.2.id := by
  rw [(step_of_ends ends).1]
  exact ((ActiveServer.host_lawful fresh).detachAll valid.sound _).2

theorem mem_pairs {s : Reloading} {name : String} {id : TargetId} :
    (name, id) ∈ s.host.server.registry.targets.map (fun e => (e.1.name, e.1.id)) ↔
      ∃ t ∈ s.host.offered, t.name = name ∧ t.id = id := by
  simp only [ActiveServer.offered, Registry.offered, Multiset.mem_coe, List.mem_map,
    Prod.mk.injEq]
  constructor
  · rintro ⟨e, he, named, same⟩
    exact ⟨e.1, ⟨e, he, rfl⟩, named, same⟩
  · rintro ⟨t, ⟨e, he, rfl⟩, named, same⟩
    exact ⟨e, he, named, same⟩

theorem keeps_of_ends {s : Reloading} {id : TargetId} (valid : s.Valid) {m : ReloadMoment}
    (fresh : OpensUnused m.bind) (ends : s.Ends m) :
    (s.step m).Keeps name id ↔
      (∃ l, (name, l) ∈ s.generations.current ∧ l.id = id) ∧ s.Holds name id := by
  have left : (s.step m).coordinator.generations = ⟨s.generations.current, []⟩ :=
    (step_of_ends ends).2
  rw [Keeps, left, mem_pairs, offered_of_ends valid fresh ends]
  refine and_congr ?_ ?_
  · simp
  · simp only [Multiset.mem_filter]
    constructor
    · rintro ⟨t, ⟨there, notOld⟩, named, rfl⟩
      exact ⟨⟨t, there, named, rfl⟩, fun e he same => notOld (List.mem_map.mpr ⟨e, he, same⟩)⟩
    · rintro ⟨⟨t, there, named, rfl⟩, notOld⟩
      refine ⟨t, ⟨there, fun old => ?_⟩, named, rfl⟩
      obtain ⟨e, he, same⟩ := List.mem_map.mp old
      exact notOld e he same

theorem Agree.holds {s : Reloading} (agree : s.Agree) (current : (name, l) ∈ s.generations.current) :
    s.Holds name l.id := by
  obtain ⟨a, b, split⟩ := List.append_of_mem current
  refine ⟨⟨⟨l.key, l.id, name⟩, ?_, rfl, rfl⟩, fun e old same => ?_⟩
  · rw [show s.host.offered = s.generations.tracked from agree.offers]
    exact Multiset.mem_coe.mpr (List.mem_map.mpr
      ⟨(name, l), List.mem_append_left _ current, rfl⟩)
  · have ids := agree.ids
    rw [Generations.entries, split, List.append_assoc, List.map_append, List.cons_append,
      List.map_cons] at ids
    refine (List.nodup_middle.mp ids).notMem ?_
    rw [← List.map_append]
    exact List.mem_map.mpr ⟨e, by simp [old], same⟩

end Reloading

/-- Of a burst of loads, take one that succeeds and is the last under its name.
When the reload is over, its instance is kept if and only if the server has it
when it is loaded, and no later load of the burst starts a new generation. If
one does, its identity is not on offer any longer. The server has what is loaded
wherever it is the coordinator's alone and no listener has failed. -/
theorem burst_keeps_iff {server : Server}
    (created : Server.create settings tracing debuggees = .ok server) (window : Nat)
    (moments : List ReloadMoment) (fresh : ∀ m ∈ moments, OpensUnused m.bind)
    (before : List LoadCall) (c : LoadCall) (after : List LoadCall)
    (freshLoads : ∀ d ∈ before ++ c :: after, OpensUnused d.bind)
    (last : ∀ d ∈ after, c.name ≠ d.name) :
    let s := (Reloading.begin server window).run moments
    let loaded := (s.loads before).load c
    let all := s.loads (before ++ c :: after)
    loaded.2 = .ok () →
      ((∀ m ∈ moments, m.Unhindered) → loaded.1.Holds c.name c.loaded.id) ∧
      ∀ m, OpensUnused m.bind → all.Ends m →
        ((all.step m).Keeps c.name c.loaded.id ↔
          loaded.1.Holds c.name c.loaded.id ∧ ¬loaded.1.Turns after) ∧
        (loaded.1.Turns after →
          ∀ e ∈ (all.step m).host.server.registry.targets, e.1.id ≠ c.loaded.id) := by
  intro s loaded all ok
  obtain ⟨freshBefore, freshNow, freshAfter⟩ : (∀ d ∈ before, OpensUnused d.bind) ∧
      OpensUnused c.bind ∧ ∀ d ∈ after, OpensUnused d.bind := by
    simpa only [List.forall_mem_append, List.forall_mem_cons] using freshLoads
  have empty := Server.registry_create created
  have valid : (s.loads before).Valid :=
    Reloading.valid_loads (Reloading.valid_run (Reloading.valid_begin empty window) fresh) freshBefore
  have validLoaded : loaded.1.Valid := Reloading.valid_load valid freshNow
  have rest : all = loaded.1.loads after := Reloading.loads_append ..
  have validAll : all.Valid := rest ▸ Reloading.valid_loads validLoaded freshAfter
  obtain ⟨l, current, same⟩ : ∃ l, (c.name, l) ∈ loaded.1.generations.current ∧
      l.id = c.loaded.id := Generations.mem_load_self valid.once (Prod.ext rfl (Prod.ext rfl ok))
  have later (k : Loaded) := Reloading.mem_loads validLoaded freshAfter last k
  rw [← rest] at later
  refine ⟨fun unhindered => ?_, fun m freshEnd ends => ⟨?_, fun turns e he equal => ?_⟩⟩
  · have agree : (s.loads before).Agree := Reloading.agree_loads
      (Reloading.agree_run (Reloading.agree_begin empty window) unhindered) freshBefore
    exact same ▸ (Reloading.agree_load agree freshNow).holds current
  · rw [Reloading.keeps_of_ends validAll freshEnd ends]
    have holds (quiet : ¬loaded.1.Turns after) :
        all.Holds c.name c.loaded.id ↔ loaded.1.Holds c.name c.loaded.id :=
      rest ▸ Reloading.holds_loads validLoaded freshAfter last quiet
    constructor
    · rintro ⟨⟨k, there, -⟩, held⟩
      have quiet := ((later k).1.mp there).2
      exact ⟨(holds quiet).mp held, quiet⟩
    · rintro ⟨held, quiet⟩
      exact ⟨⟨l, (later l).1.mpr ⟨current, quiet⟩, same⟩, (holds quiet).mpr held⟩
  · -- The instance is tracked still, and not current: it is withdrawn.
    have tracked : (c.name, l) ∈ all.generations.entries :=
      (later l).2.mpr (List.mem_append_left _ current)
    have old : (c.name, l) ∈ all.generations.superseded := by
      obtain there | there := List.mem_append.mp tracked
      · exact absurd turns ((later l).1.mp there).2
      · exact there
    have offered : e.1 ∈ (all.step m).host.offered := List.mem_map_of_mem he
    rw [Reloading.offered_of_ends validAll freshEnd ends, Multiset.mem_filter] at offered
    exact offered.2 (List.mem_map.mpr ⟨_, old, same.trans equal.symm⟩)

/-- A target waits for the start and is offered. Then a new one is loaded, and
after it another one in the place of the first: the new one is lost, though all
loads succeed. In the other order both are kept. Nor is a target kept that others
have withdrawn: to load it again does nothing, and under a new name it is withdrawn
once more, with the old instance. -/
theorem new_target_lost :
    let s := (Reloading.begin idleServer 500).run [⟨freePorts, .load 0 "a" ⟨11, 1⟩⟩,
      ⟨freePorts, .start⟩, ⟨freePorts, .flush 10⟩]
    let new : LoadCall := ⟨freePorts, 20, "n", ⟨12, 2⟩⟩
    let known : LoadCall := ⟨freePorts, 30, "a", ⟨13, 3⟩⟩
    let ended := ⟨freePorts, .flush 40⟩
    let withdrawn := s.run [⟨freePorts, .load 12 "b" ⟨14, 4⟩⟩, ⟨freePorts, .flush 14⟩,
      ⟨freePorts, .detach 1⟩]
    let again : LoadCall := ⟨freePorts, 20, "a", ⟨11, 1⟩⟩
    let other : LoadCall := ⟨freePorts, 20, "b", ⟨15, 5⟩⟩
    let renamed : LoadCall := ⟨freePorts, 30, "c", ⟨11, 1⟩⟩
    s.generations.superseded = [] ∧
      ((s.load new).2 = .ok () ∧ ((s.load new).1.load known).2 = .ok () ∧
        ¬((s.loads [new, known]).step ended).Keeps "n" 2) ∧
      (((s.loads [known, new]).step ended).Keeps "n" 2 ∧
        ((s.loads [known, new]).step ended).Keeps "a" 3) ∧
      withdrawn.generations.superseded = [] ∧
      ((withdrawn.load again).2 = .ok () ∧
        ¬((withdrawn.loads [again]).step ended).Keeps "a" 1) ∧
      (withdrawn.load other).2 = .ok () ∧ ((withdrawn.load other).1.load renamed).2 = .ok () ∧
        ¬((withdrawn.loads [other, renamed]).step ended).Keeps "c" 1 := by
  decide +kernel

/-- The known target first, then the new one: the new one is kept. -/
theorem new_target_kept :
    let s := (Reloading.begin idleServer 500).run [⟨freePorts, .load 0 "a" ⟨11, 1⟩⟩,
      ⟨freePorts, .start⟩, ⟨freePorts, .flush 10⟩]
    let calls : List LoadCall := [⟨freePorts, 20, "a", ⟨13, 3⟩⟩, ⟨freePorts, 30, "n", ⟨12, 2⟩⟩]
    ((s.loads calls).step ⟨freePorts, .flush 40⟩).Keeps "n" 2 := by
  intro s calls
  obtain ⟨holds, ended⟩ := burst_keeps_iff create_idleServer 500
    [⟨freePorts, .load 0 "a" ⟨11, 1⟩⟩, ⟨freePorts, .start⟩, ⟨freePorts, .flush 10⟩]
    (by simp [freePorts_unused]) [⟨freePorts, 20, "a", ⟨13, 3⟩⟩] ⟨freePorts, 30, "n", ⟨12, 2⟩⟩ []
    (by simp [freePorts_unused]) (by simp) (by rfl)
  have held := holds (by simp [ReloadMoment.Unhindered, freePorts_unused, freePorts_any])
  have kept := ended ⟨freePorts, .flush 40⟩ freePorts_unused ⟨40, .inl rfl⟩
  exact kept.1.mpr ⟨held, fun turns => turns⟩

end DebugAdapter
