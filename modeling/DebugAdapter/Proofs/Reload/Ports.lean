import DebugAdapter.Proofs.Reload.Agreement
import DebugAdapter.Proofs.Server.Ports
import Mathlib.Data.List.Infix

/-!
# Names and their ports

A new instance takes the place of the old one of its name by a replacement, and
never is the old one withdrawn first. So a name stays on the port that serves
it for as long as it is tracked (`name_keeps_port`): loads and withdrawals of
other names, turns of the generations and the end of a reload leave it there.
-/

namespace DebugAdapter

theorem Server.targetAt_connect (s : Server) (place : Nat) (peer : String) (port : Nat) :
    (s.connect place peer).1.registry.targetAt port = s.registry.targetAt port := by
  rw [s.registry_connect, Registry.after, Registry.attempt]
  cases entered : s.registry.enterSession place s.connections.length with
  | none => rfl
  | some next => exact Registry.targetAt_enterSession entered port

namespace ActiveServer

def targetAt (a : ActiveServer) (port : Nat) : Option Target := a.server.registry.targetAt port

variable {a a' : ActiveServer} {bind : List Nat → Nat → Except String Nat}

-- ---------------------------------------------------------------------------
-- Hosts
-- ---------------------------------------------------------------------------

theorem targetAt_after_error (error : a.after (a.server.applyResult result) = (a', .error e))
    (port : Nat) : a'.targetAt port = a.targetAt port :=
  congrArg (Registry.targetAt · port) (after_error error)

theorem targetAt_attach (fresh : OpensUnused bind)
    (ok : (host bind).attach a l name = (a', .ok ())) (serves : a.targetAt port = some t) :
    a'.targetAt port = some t := by
  obtain ⟨change, place, attached, registry⟩ := after_ok ok
  obtain ⟨free, after⟩ := Registry.attach_targetAt fresh attached port
  have other : place ≠ some port := fun here => nomatch (free here).symm.trans serves
  rw [targetAt, registry, after, if_neg other]
  exact serves

theorem targetAt_replace (sound : a.Sound)
    (ok : (host bind).replace a old l name = (a', .ok ())) (port : Nat) :
    a'.targetAt port = (a.targetAt port).map (Target.replacedBy old l.key l.id name) := by
  obtain ⟨change, place, replaced, registry⟩ := after_ok ok
  rw [targetAt, registry]
  exact Registry.replace_targetAt sound replaced port

theorem targetAt_detach (sound : a.Sound) (serves : a.targetAt port = some t)
    (other : t.id ≠ old) : ((host bind).detach a old).1.targetAt port = some t := by
  cases detached : (host bind).detach a old with
  | mk a' result =>
    cases result with
    | error e => exact (targetAt_after_error detached port).trans serves
    | ok =>
      obtain ⟨change, x, withdrawn, registry⟩ := after_ok detached
      obtain ⟨change', ok, same⟩ := Registry.map_eq_ok.mp withdrawn
      cases same
      rw [targetAt, registry]
      exact Registry.detach_targetAt sound ok serves other

theorem targetAt_detachAll (fresh : OpensUnused bind) (sound : a.Sound) {old : Generation}
    (serves : a.targetAt port = some t) (others : ∀ e ∈ old, t.id ≠ e.2.id) :
    (Generations.detachAll (host bind) a old).targetAt port = some t := by
  induction old generalizing a with
  | nil => exact serves
  | cons e old ih =>
    obtain ⟨other, others⟩ := List.forall_mem_cons.mp others
    exact ih ((host_lawful fresh).detach sound e.2.id).1 (targetAt_detach sound serves other) others

theorem targetAt_start (sound : a.Sound) (serves : a.targetAt port = some t) :
    (a.after (a.server.start (a.server.network bind))).1.targetAt port = some t := by
  cases started : a.after (a.server.start (a.server.network bind)) with
  | mk a' result =>
    cases result with
    | error e => exact (targetAt_after_error started port).trans serves
    | ok =>
      obtain ⟨change, x, ok, -⟩ := after_ok started
      obtain ⟨-, stopped, -⟩ := Registry.start_cases ok
      cases (Registry.Sound.targetAt_waiting sound stopped port).symm.trans serves

end ActiveServer

-- ---------------------------------------------------------------------------
-- Generations
-- ---------------------------------------------------------------------------

namespace Agrees

variable {a a' : ActiveServer} {g g' : Generations} {bind : List Nat → Nat → Except String Nat}
variable (agrees : Agrees ActiveServer.Sound ActiveServer.offered a g)

include agrees

theorem entry_of_targetAt (serves : a.targetAt port = some t) :
    (t.name, ⟨t.key, t.id⟩) ∈ g.entries := by
  have tracked : t ∈ g.tracked := agrees.offers ▸ Registry.offered_of_targetAt serves
  obtain ⟨e, there, rfl⟩ := List.mem_map.mp (Multiset.mem_coe.mp tracked)
  exact there

theorem name_of_id {e e' : String × Loaded} (there : e ∈ g.entries) (there' : e' ∈ g.entries)
    (same : e.2.id = e'.2.id) : e.1 = e'.1 := by
  have ids : (a.offered.map Target.id).Nodup := Registry.Sound.ids agrees.sound
  have offers {e : String × Loaded} (there : e ∈ g.entries) :
      Generation.target e ∈ a.offered :=
    agrees.offers ▸ Multiset.mem_coe.mpr (List.mem_map_of_mem there)
  have one : Generation.target e = Generation.target e' :=
    Multiset.inj_on_of_nodup_map ids _ (offers there) _ (offers there') same
  exact congrArg Target.name one

theorem port_entering (fresh : OpensUnused bind)
    (entered : Generations.Entering (ActiveServer.host bind) a g name l (a', g', result))
    (serves : a.targetAt port = some t) : ∃ u, a'.targetAt port = some u ∧ u.name = t.name := by
  cases entered with
  | @replaced old _ found done =>
    rw [ActiveServer.targetAt_replace agrees.sound done, serves]
    refine ⟨_, rfl, ?_⟩
    unfold Target.replacedBy
    split
    · rename_i same
      have entry : (name, old) ∈ g.entries :=
        List.mem_append_right _ (Generation.mem_of_find? found)
      exact (agrees.name_of_id (agrees.entry_of_targetAt serves) entry same).symm
    · rfl
  | unreplaced found refused =>
    exact ⟨t, (ActiveServer.targetAt_after_error refused port).trans serves, rfl⟩
  | attached absent done => exact ⟨t, ActiveServer.targetAt_attach fresh done serves, rfl⟩
  | unattached absent refused =>
    exact ⟨t, (ActiveServer.targetAt_after_error refused port).trans serves, rfl⟩

theorem port_load (fresh : OpensUnused bind) (name : String) (l : Loaded)
    (serves : a.targetAt port = some t) :
    ∃ u, (g.load (ActiveServer.host bind) a name l).1.targetAt port = some u ∧
      u.name = t.name := by
  obtain ⟨known, -, -, again⟩ | ⟨-, entered⟩ | ⟨known, moved, -, -, perm, entered⟩ :=
    Generations.load_cases (ActiveServer.host bind) a agrees.once name l
  · rw [again]
    exact ⟨t, serves, rfl⟩
  · exact agrees.port_entering fresh entered serves
  · have turned : Agrees ActiveServer.Sound ActiveServer.offered a ⟨[], moved⟩ := agrees.perm perm
    exact turned.port_entering fresh entered serves

theorem port_remove (bind : List Nat → Nat → Except String Nat) (name : String)
    (serves : a.targetAt port = some t)
    (tracked : t.name ∈ Generation.names (g.remove (ActiveServer.host bind) a name).2.1.entries) :
    (g.remove (ActiveServer.host bind) a name).1.targetAt port = some t := by
  obtain ⟨l, entry, removed⟩ | same :=
    Generations.remove_cases (ActiveServer.host bind) a agrees.once name
  · have once := ((entry.map Prod.fst).nodup_iff).mp agrees.once
    rw [removed]
    refine ActiveServer.targetAt_detach agrees.sound serves fun same => ?_
    have there : (name, l) ∈ g.entries := entry.symm.subset List.mem_cons_self
    have gone : t.name = name := agrees.name_of_id (agrees.entry_of_targetAt serves) there same
    exact (List.nodup_cons.mp once).1 (gone ▸ tracked)
  · rw [same]
    exact serves

theorem port_expire (fresh : OpensUnused bind) (serves : a.targetAt port = some t)
    (tracked : t.name ∈ Generation.names g.current) :
    (g.expire (ActiveServer.host bind) a).1.targetAt port = some t := by
  refine ActiveServer.targetAt_detachAll fresh agrees.sound serves fun e old same => ?_
  have there : e ∈ g.entries := List.mem_append_right _ old
  have name : t.name = e.1 := agrees.name_of_id (agrees.entry_of_targetAt serves) there same
  have once := agrees.once
  rw [Generations.Once, Generation.names, Generations.entries, List.map_append] at once
  exact (List.nodup_append.mp once).2.2 _ tracked _ (List.mem_map_of_mem old) name

end Agrees

-- ---------------------------------------------------------------------------
-- Runs
-- ---------------------------------------------------------------------------

namespace Reloading

def ServedOn (s : Reloading) (name : String) (port : Nat) : Prop :=
  ∃ t, s.host.targetAt port = some t ∧ t.name = name

def Tracks (s : Reloading) (name : String) : Prop :=
  name ∈ (s.generations.current ++ s.generations.superseded).map Prod.fst

instance (s : Reloading) (name : String) : Decidable (s.Tracks name) :=
  inferInstanceAs (Decidable (_ ∈ (s.generations.current ++ s.generations.superseded).map _))

theorem served_step {s : Reloading} (agree : s.Agree) {m : ReloadMoment}
    (unhindered : m.Unhindered) (serves : s.ServedOn name port)
    (tracked : (s.step m).Tracks name) : (s.step m).ServedOn name port := by
  obtain ⟨t, there, rfl⟩ := serves
  by_cases ends : s.Ends m
  · obtain ⟨host, left⟩ := step_of_ends ends
    rw [Tracks, left, List.append_nil] at tracked
    refine ⟨t, ?_, rfl⟩
    rw [host]
    exact Agrees.port_expire agree unhindered.1 there tracked
  obtain ⟨bind, event⟩ := m
  obtain ⟨fresh, alone⟩ := unhindered
  cases event with
  | load now name loaded => exact Agrees.port_load agree fresh name loaded there
  | remove name => exact ⟨t, Agrees.port_remove agree bind name there tracked, rfl⟩
  | flush now => exact absurd ⟨now, .inl rfl⟩ ends
  | elapse now =>
    simp only [step, Coordinator.elapse]
    split
    · rename_i ended
      exact absurd ⟨now, .inr ⟨rfl, ended⟩⟩ ends
    · exact ⟨t, there, rfl⟩
  | start => exact ⟨t, ActiveServer.targetAt_start agree.sound there, rfl⟩
  | connect place peer =>
    exact ⟨t, (s.host.server.targetAt_connect place peer port).trans there, rfl⟩
  | receive id bytes ended =>
    have same := s.host.server.registry_receive id bytes ended
    exact ⟨t, (congrArg (Registry.targetAt · port) same).trans there, rfl⟩
  | notify key n =>
    have same := s.host.server.registry_notify key n
    exact ⟨t, (congrArg (Registry.targetAt · port) same).trans there, rfl⟩
  | _ => exact alone.elim

theorem served_run {s : Reloading} (agree : s.Agree) {later : List ReloadMoment}
    (unhindered : ∀ m ∈ later, m.Unhindered) (serves : s.ServedOn name port)
    (tracked : ∀ part, part <+: later → (s.run part).Tracks name) :
    (s.run later).ServedOn name port := by
  induction later generalizing s with
  | nil => exact serves
  | cons m later ih =>
    obtain ⟨first, others⟩ := List.forall_mem_cons.mp unhindered
    have next : (s.step m).Tracks name := tracked [m] (List.prefix_iff_eq_append.mpr rfl)
    refine ih (agree_step agree first) others (served_step agree first serves next) ?_
    exact fun part within => tracked (m :: part) (List.cons_prefix_cons.mpr ⟨rfl, within⟩)

theorem Agree.port_unique {s : Reloading} (agree : s.Agree) (serves : s.ServedOn name p)
    (serves' : s.ServedOn name q) : p = q := by
  obtain ⟨t, there, rfl⟩ := serves
  obtain ⟨u, there', same⟩ := serves'
  have entry := Agrees.entry_of_targetAt agree there
  have entry' := Agrees.entry_of_targetAt agree there'
  have one := List.inj_on_of_nodup_map agree.once entry entry' same.symm
  exact Registry.Sound.port_unique agree.sound there there' (congrArg (·.2.id) one)

theorem run_append (s : Reloading) (a b : List ReloadMoment) :
    s.run (a ++ b) = (s.run a).run b := List.foldl_append

end Reloading

/-- However a server that is not disposed is driven by one coordinator: once a name is
served on a port it is served there, and nowhere else, for as long as it is tracked. -/
theorem name_keeps_port {server : Server}
    (created : Server.create settings tracing debuggees = .ok server) (window : Nat)
    (earlier later : List ReloadMoment) (unhindered : ∀ m ∈ earlier ++ later, m.Unhindered)
    (serves : ((Reloading.begin server window).run earlier).ServedOn name port)
    (tracked : ∀ part, part <+: later →
      ((Reloading.begin server window).run (earlier ++ part)).Tracks name) (q : Nat) :
    ((Reloading.begin server window).run (earlier ++ later)).ServedOn name q ↔ q = port := by
  obtain ⟨before, after⟩ := List.forall_mem_append.mp unhindered
  have begins := Reloading.agree_begin (Server.registry_create created) window
  have agree := Reloading.agree_run begins before
  simp only [Reloading.run_append] at tracked ⊢
  have kept := Reloading.served_run agree after serves tracked
  constructor
  · exact fun elsewhere => (Reloading.agree_run agree after).port_unique elsewhere kept
  · rintro rfl
    exact kept

/-- Two names are reloaded twice, each time in another order, while a third one is withdrawn
and comes back; the second name stays where the start has put it. -/
theorem second_name_stays :
    let later : List ReloadMoment := [⟨freePorts, .load 10 "b" ⟨14, 4⟩⟩,
      ⟨freePorts, .load 20 "c" ⟨15, 5⟩⟩, ⟨freePorts, .remove "a"⟩, ⟨freePorts, .flush 30⟩,
      ⟨freePorts, .load 40 "c" ⟨16, 6⟩⟩, ⟨freePorts, .load 50 "a" ⟨17, 7⟩⟩,
      ⟨freePorts, .load 60 "b" ⟨18, 4⟩⟩, ⟨freePorts, .elapse 900⟩]
    let earlier : List ReloadMoment := [⟨freePorts, .load 0 "a" ⟨11, 1⟩⟩,
      ⟨freePorts, .load 0 "b" ⟨12, 2⟩⟩, ⟨freePorts, .start⟩]
    ∀ q, ((Reloading.begin idleServer 500).run (earlier ++ later)).ServedOn "b" q ↔ q = 74680 := by
  intro later earlier
  have unhindered : ∀ m ∈ earlier ++ later, m.Unhindered := by
    simp [earlier, later, ReloadMoment.Unhindered, freePorts_unused, freePorts_any]
  have tracked : ∀ part ∈ later.inits,
      ((Reloading.begin idleServer 500).run (earlier ++ part)).Tracks "b" := by decide +kernel
  exact name_keeps_port create_idleServer 500 earlier later unhindered
    ⟨⟨12, 2, "b"⟩, by decide +kernel, rfl⟩
    fun part within => tracked part ((List.mem_inits ..).mpr within)

end DebugAdapter
