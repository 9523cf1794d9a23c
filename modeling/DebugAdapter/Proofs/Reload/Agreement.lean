import DebugAdapter.Proofs.Reload.Run
import DebugAdapter.Proofs.Server.Run

/-!
# A coordinator and its server

Whatever is loaded, removed and expired, what a coordinator tracks is what its
server offers (`coordinator_agrees`): all of it, under the same names, and
nothing else. The start of the server, clients and reports of debuggees come in
between at any time.
-/

namespace DebugAdapter

namespace Reloading

def Agree (s : Reloading) : Prop :=
  Agrees ActiveServer.Sound ActiveServer.offered s.host s.generations

theorem agree_begin {server : Server} (empty : server.registry = .empty) (window : Nat) :
    (begin server window).Agree := by
  refine ⟨?_, ?_, Generations.once_empty⟩
  · exact (congrArg Registry.Sound empty).mpr Registry.sound_empty
  · exact congrArg Registry.offered empty

theorem agree_load {s : Reloading} (agree : s.Agree) {c : LoadCall}
    (fresh : OpensUnused c.bind) : (s.load c).1.Agree :=
  Agrees.load (ActiveServer.host_lawful fresh) agree rfl

theorem agree_host {s : Reloading} (agree : s.Agree) {host : ActiveServer} (sound : host.Sound)
    (offers : host.offered = s.host.offered) : Agree { s with host } :=
  ⟨sound, offers.trans agree.offers, agree.once⟩

theorem agree_registry {s : Reloading} (agree : s.Agree) {host : ActiveServer}
    (same : host.server.registry = s.host.server.registry) : Agree { s with host } := by
  refine agree_host agree ?_ (congrArg Registry.offered same)
  rw [ActiveServer.Sound, same]
  exact agree.sound

theorem agree_step {s : Reloading} (agree : s.Agree) {m : ReloadMoment}
    (unhindered : m.Unhindered) : (s.step m).Agree := by
  obtain ⟨bind, event⟩ := m
  obtain ⟨fresh, alone⟩ := unhindered
  have lawful := ActiveServer.host_lawful fresh
  cases event with
  | load now name loaded => exact agree_load agree fresh
  | remove name => exact Agrees.remove lawful agree
  | flush now => exact Agrees.expire lawful agree
  | elapse now =>
    simp only [step, Coordinator.elapse]
    split
    · exact Agrees.expire lawful agree
    · exact agree
  | start =>
    obtain ⟨kept, offers⟩ := ActiveServer.start_cases agree.sound fresh
    exact agree_host agree kept (offers alone)
  | connect port peer =>
    obtain ⟨offers, kept⟩ := Server.connect_offered agree.sound port peer
    exact agree_host agree kept offers
  | receive id bytes ended =>
    exact agree_registry agree (s.host.server.registry_receive id bytes ended)
  | notify key n =>
    exact agree_registry agree (s.host.server.registry_notify key n)
  | _ => exact alone.elim

theorem agree_run {s : Reloading} (agree : s.Agree) {moments : List ReloadMoment}
    (unhindered : ∀ m ∈ moments, m.Unhindered) : (s.run moments).Agree := by
  induction moments generalizing s with
  | nil => exact agree
  | cons m moments ih =>
    exact ih (agree_step agree (unhindered m (List.mem_cons_self ..)))
      fun n hn => unhindered n (List.mem_cons_of_mem _ hn)

-- ---------------------------------------------------------------------------
-- Ends of a reload
-- ---------------------------------------------------------------------------

theorem step_of_ends {s : Reloading} (ends : s.Ends m) :
    (s.step m).host = (s.generations.expire (ActiveServer.host m.bind) s.host).1 ∧
      (s.step m).generations = ⟨s.generations.current, []⟩ := by
  obtain ⟨bind, event⟩ := m
  obtain ⟨now, rfl | ⟨rfl, ended⟩⟩ := ends
  · exact ⟨rfl, rfl⟩
  · simp only [step, Coordinator.elapse, if_pos ended]
    exact ⟨rfl, rfl⟩

theorem detached_detachAll {a : ActiveServer} {current superseded : Generation}
    {bind : List Nat → Nat → Except String Nat} (fresh : OpensUnused bind)
    (agrees : Agrees ActiveServer.Sound ActiveServer.offered a ⟨current, superseded⟩) :
    (Generations.detachAll (ActiveServer.host bind) a superseded).activity.detached =
      a.activity.detached ++ superseded.map fun e => e.2.key := by
  induction superseded generalizing a with
  | nil => exact (List.append_nil _).symm
  | cons e rest ih =>
    have lawful := ActiveServer.host_lawful fresh
    have entry : List.Perm (Generations.entries ⟨current, e :: rest⟩)
        (e :: Generations.entries ⟨current, rest⟩) := List.perm_middle
    have there : e.2.id ∈ a.offered.map Target.id := by
      rw [agrees.offered_cons entry, Multiset.map_cons]
      exact Multiset.mem_cons_self _ _
    obtain ⟨t, others, same, offers, told⟩ := ActiveServer.detach_told agrees.sound bind there
    obtain ⟨equal, -⟩ := agrees.entry_eq lawful entry same offers
    have left : Agrees ActiveServer.Sound ActiveServer.offered
        ((ActiveServer.host bind).detach a e.2.id).1 ⟨current, rest⟩ := agrees.detach lawful entry
    have after := ih left
    rw [told, equal] at after
    exact after.trans (List.append_assoc ..)

theorem Agree.pairs {s : Reloading} (agree : s.Agree) :
    (s.host.server.registry.targets.map fun e => (e.1.name, e.1.id)).Perm
      (s.generations.entries.map fun e => (e.1, e.2.id)) := by
  have mapped := congrArg (Multiset.map fun t => (t.name, t.id)) agree.offers
  simp only [ActiveServer.offered, Registry.offered, Generations.tracked, Generation.targets,
    Multiset.map_coe, List.map_map] at mapped
  exact Multiset.coe_eq_coe.mp mapped

theorem Agree.ids {s : Reloading} (agree : s.Agree) :
    (s.generations.entries.map fun e => e.2.id).Nodup := by
  have nodup := Registry.Sound.ids agree.sound
  rw [show s.host.server.registry.offered = s.generations.tracked from agree.offers] at nodup
  simp only [Generations.tracked, Generation.targets, Multiset.map_coe, List.map_map,
    Multiset.coe_nodup] at nodup
  exact nodup

end Reloading

/-- However a server that is not disposed is driven by one coordinator, the
names and identities that it offers are those of the two generations. No name
and no identity is tracked twice. The end of a reload leaves the current
generation on offer, and withdraws each instance of the old one once. -/
theorem coordinator_agrees {server : Server}
    (created : Server.create settings tracing debuggees = .ok server) (window : Nat)
    (moments : List ReloadMoment) (unhindered : ∀ m ∈ moments, m.Unhindered) :
    let s := (Reloading.begin server window).run moments
    let g := s.coordinator.generations
    (s.host.server.registry.targets.map fun e => (e.1.name, e.1.id)).Perm
        ((g.current ++ g.superseded).map fun e => (e.1, e.2.id)) ∧
      ((g.current ++ g.superseded).map fun e => e.1).Nodup ∧
      ((g.current ++ g.superseded).map fun e => e.2.id).Nodup ∧
      ∀ m, m.Unhindered → s.Ends m →
        let t := s.step m
        (t.host.server.registry.targets.map fun e => (e.1.name, e.1.id)).Perm
            (g.current.map fun e => (e.1, e.2.id)) ∧
          t.coordinator.generations = ⟨g.current, []⟩ ∧
          t.host.activity.detached =
            s.host.activity.detached ++ g.superseded.map fun e => e.2.key := by
  intro s g
  have agree : s.Agree := Reloading.agree_run
    (Reloading.agree_begin (Server.registry_create created) window) unhindered
  refine ⟨agree.pairs, agree.once, agree.ids, fun m calm ends => ?_⟩
  intro t
  obtain ⟨host, generations⟩ := Reloading.step_of_ends ends
  refine ⟨?_, generations, ?_⟩
  · have pairs := (Reloading.agree_step agree calm).pairs
    rw [generations, Generations.entries, List.append_nil] at pairs
    exact pairs
  · rw [show t.host = _ from host]
    exact Reloading.detached_detachAll calm.1 agree

/-- Two targets wait for the start; then one of them is loaded again, and the
other is withdrawn in the end. -/
theorem second_generation_agrees :
    let s := (Reloading.begin idleServer 500).run [⟨freePorts, .load 0 "a" ⟨11, 1⟩⟩,
      ⟨freePorts, .load 10 "b" ⟨12, 2⟩⟩, ⟨freePorts, .start⟩, ⟨freePorts, .load 600 "a" ⟨13, 3⟩⟩]
    let t := s.step ⟨freePorts, .flush 700⟩
    s.coordinator.generations = ⟨[("a", ⟨13, 3⟩)], [("b", ⟨12, 2⟩)]⟩ ∧
      (s.host.server.registry.targets.map fun e => (e.1.name, e.1.id)).Perm
        [("a", 3), ("b", 2)] ∧
      (t.host.server.registry.targets.map fun e => (e.1.name, e.1.id)).Perm [("a", 3)] ∧
      t.host.activity.detached = [11, 12] := by
  intro s
  have agrees := coordinator_agrees create_idleServer 500 [⟨freePorts, .load 0 "a" ⟨11, 1⟩⟩,
    ⟨freePorts, .load 10 "b" ⟨12, 2⟩⟩, ⟨freePorts, .start⟩, ⟨freePorts, .load 600 "a" ⟨13, 3⟩⟩]
    (by simp [ReloadMoment.Unhindered, freePorts_unused, freePorts_any])
  have tracked : s.coordinator.generations = ⟨[("a", ⟨13, 3⟩)], [("b", ⟨12, 2⟩)]⟩ := by
    decide +kernel
  have before : s.host.activity.detached = [11] := by decide +kernel
  revert agrees tracked before
  simp only [s]
  generalize (Reloading.begin idleServer 500).run _ = reached
  intro agrees tracked before
  obtain ⟨pairs, -, -, ends⟩ := agrees
  obtain ⟨left, -, told⟩ := ends ⟨freePorts, .flush 700⟩ ⟨freePorts_unused, trivial⟩
    ⟨700, .inl rfl⟩
  rw [tracked] at pairs left told
  rw [before] at told
  exact ⟨tracked, pairs, left, told⟩

end DebugAdapter
