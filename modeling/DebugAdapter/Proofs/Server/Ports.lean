import DebugAdapter.Proofs.Server.Turnover

/-!
# Which port serves which target

Of a registry's listeners others see which target a port serves. Each operation
changes this as its name says: a target more, on a port that served none; one in
the place of another, on the same port; one less.
-/

namespace DebugAdapter

def Target.replacedBy (old : TargetId) (key : InstanceKey) (id : TargetId)
    (name : Option String) (t : Target) : Target :=
  if t.id = old then ⟨key, id, name.getD t.name⟩ else t

namespace Registry

variable {r : Registry}

-- ---------------------------------------------------------------------------
-- Listeners
-- ---------------------------------------------------------------------------

theorem targetAt_of_listener? (found : r.listener? port = some l) :
    r.targetAt port = l.target := by
  rw [targetAt, found]
  rfl

theorem listener?_of_targetAt (serves : r.targetAt port = some t) :
    ∃ l, r.listener? port = some l ∧ l.target = some t := Option.bind_eq_some_iff.mp serves

theorem port_of_listener? (found : r.listener? port = some l) : l.port = port := by
  simpa using List.find?_some found

theorem listener?_map {f : Listener → Listener} (ports : ∀ l, (f l).port = l.port) (port : Nat) :
    listener? { r with listeners := r.listeners.map f } port = (r.listener? port).map f := by
  simp only [listener?, List.find?_map, Function.comp_def, ports]

theorem find?_cons (l : Listener) (ls : List Listener) (port : Nat) :
    (l :: ls).find? (fun m => m.port = port) =
      if l.port = port then some l else ls.find? fun m => m.port = port := by
  by_cases here : l.port = port <;> simp [here]

theorem find?_insertListener (l : Listener) (ls : List Listener) (port : Nat) :
    (insertListener l ls).find? (fun m => m.port = port) =
      if l.port = port then some l else ls.find? fun m => m.port = port := by
  induction ls with
  | nil => exact find?_cons ..
  | cons m ls ih =>
    unfold insertListener
    split
    · exact find?_cons ..
    split
    · rename_i same
      rw [find?_cons, find?_cons, ← same]
      split <;> rfl
    · rename_i apart
      rw [find?_cons, find?_cons, ih]
      by_cases here : l.port = port
      · have other : m.port ≠ port := fun there => apart (here.trans there.symm)
        simp [here, other]
      · simp [here]

theorem targetAt_insert (r : Registry) (port : Nat) (target : Option Target) (q : Nat) :
    targetAt { r with listeners := insertListener ⟨port, target, []⟩ r.listeners } q =
      if port = q then target else r.targetAt q := by
  simp only [targetAt, listener?, find?_insertListener]
  split <;> rfl

theorem targetAt_rebind (found : r.listener? port = some l) (target : Option Target) (q : Nat) :
    (r.rebind port target).registry.targetAt q = if port = q then target else r.targetAt q := by
  have changed : (r.rebind port target).registry = { r with listeners := r.listeners.map fun m =>
      if m.port = port then ⟨m.port, target, []⟩ else m } := by
    simp only [rebind, found]
  rw [changed, targetAt, listener?_map fun l => by split <;> rfl]
  by_cases here : port = q
  · subst here
    simp [found, port_of_listener? found]
  · cases other : r.listener? q with
    | none => simp [here, targetAt, other]
    | some m =>
      have apart : m.port ≠ port := fun same => here (same.symm.trans (port_of_listener? other))
      simp [here, targetAt, other, apart]

theorem targetAt_stopListener (r : Registry) (port q : Nat) :
    (r.stopListener port).registry.targetAt q = if port = q then none else r.targetAt q := by
  rw [targetAt, listener?, stopListener_listeners, List.find?_filter]
  by_cases here : port = q
  · have none : r.listeners.find? (fun m => decide (m.port ≠ port) ∧ decide (m.port = q)) =
        none := List.find?_eq_none.mpr fun m _ => by simp [here]
    rw [none, if_pos here]
    rfl
  · rw [if_neg here, targetAt, listener?]
    congr 2
    funext m
    by_cases there : m.port = q
    · simp [there, Ne.symm here]
    · simp [there]

theorem targetAt_enterSession (entered : r.enterSession port session = some next) (q : Nat) :
    next.targetAt q = r.targetAt q := by
  unfold enterSession at entered
  split at entered <;> cases entered
  rw [targetAt, listener?_map fun l => by split <;> rfl, targetAt]
  cases r.listener? q with
  | none => rfl
  | some l =>
    simp only [Option.map_some, Option.bind_some]
    split <;> rfl

theorem listener?_startEach {net : Network} (fresh : OpensUnused net.bind) (ts : List Target)
    (found : r.listener? port = some l) :
    (startEach net r ts).registry.listener? port = some l := by
  induction ts generalizing r with
  | nil => exact found
  | cons t ts ih =>
    cases opens : r.startListener net 0 (some t) with
    | error failure =>
      simp only [startEach, opens]
      exact ih found
    | ok result =>
      obtain ⟨opened, new⟩ := result
      simp only [startEach, opens]
      obtain ⟨available, rfl⟩ := startListener_cases opens
      have used : port ∈ r.ports := List.mem_map.mpr
        ⟨l, List.mem_of_find?_eq_some found, port_of_listener? found⟩
      have other : new ≠ port := fun same => fresh _ _ _ available (same ▸ used)
      refine ih ?_
      rw [listener?, find?_insertListener, if_neg other]
      exact found

-- ---------------------------------------------------------------------------
-- Masters
-- ---------------------------------------------------------------------------

@[simp] theorem master_rebind (r : Registry) (port : Nat) (target : Option Target) :
    (r.rebind port target).registry.master = r.master := by
  unfold rebind
  split <;> rfl

theorem master_startEach (net : Network) (r : Registry) (ts : List Target) :
    (startEach net r ts).registry.master = r.master := by
  induction ts generalizing r with
  | nil => rfl
  | cons t ts ih =>
    cases opens : r.startListener net 0 (some t) with
    | error failure =>
      simp only [startEach, opens]
      exact ih r
    | ok result =>
      obtain ⟨-, opened⟩ := startListener_cases opens
      simp only [startEach, opens, opened, ih]

theorem freeMaster?_eq_some : r.freeMaster? = some port ↔
    r.master = some port ∧ port ∈ r.ports ∧ r.targetAt port = none := by
  rw [freeMaster?, Option.filter_eq_some_iff]
  refine and_congr_right fun _ => ?_
  cases found : r.listener? port with
  | none =>
    have absent := List.find?_eq_none.mp found
    simp only [Option.any_none, Bool.false_eq_true, false_iff, not_and, ports, List.mem_map]
    rintro ⟨l, hl, here⟩
    simpa [here] using absent l hl
  | some l =>
    have used : port ∈ r.ports := List.mem_map.mpr
      ⟨l, List.mem_of_find?_eq_some found, port_of_listener? found⟩
    simp [used, targetAt, found]

-- ---------------------------------------------------------------------------
-- Ports of targets
-- ---------------------------------------------------------------------------

theorem offered_of_targetAt (serves : r.targetAt port = some t) : t ∈ r.offered := by
  obtain ⟨l, found, target⟩ := listener?_of_targetAt serves
  rw [offered_eq]
  exact Multiset.mem_add.mpr (.inl
    (List.mem_filterMap.mpr ⟨l, List.mem_of_find?_eq_some found, target⟩))

theorem Sound.port_unique (sound : r.Sound) (serves : r.targetAt p = some t)
    (serves' : r.targetAt q = some u) (same : t.id = u.id) : p = q := by
  by_contra apart
  obtain ⟨l, found, target⟩ := listener?_of_targetAt serves
  obtain ⟨m, found', target'⟩ := listener?_of_targetAt serves'
  obtain ⟨a, b, split, here, -⟩ := split_of_listener? sound found
  have there : m ∈ a ++ b := by
    have known : m ∈ a ++ l :: b := split ▸ List.mem_of_find?_eq_some found'
    have other : m ≠ l := by
      rintro rfl
      exact apart (here.symm.trans (port_of_listener? found'))
    simpa [other] using known
  have ids := sound.ids
  rw [offered_eq, split, served_split, target, serving_some, Multiset.singleton_add,
    Multiset.cons_add, Multiset.map_cons, Multiset.nodup_cons] at ids
  refine ids.1 (Multiset.mem_map.mpr ⟨u, ?_, same.symm⟩)
  exact Multiset.mem_add.mpr (.inl (List.mem_filterMap.mpr ⟨m, there, target'⟩))

theorem Sound.targetAt_waiting (sound : r.Sound) (stopped : r.started = false) (port : Nat) :
    r.targetAt port = none := by
  simp [targetAt, listener?, sound.waiting stopped]

-- ---------------------------------------------------------------------------
-- Operations
-- ---------------------------------------------------------------------------

theorem attach_targetAt {net : Network} (fresh : OpensUnused net.bind)
    (ok : r.attach net t = .ok (change, port)) (q : Nat) :
    (port = some q → r.targetAt q = none) ∧
      change.registry.targetAt q = if port = some q then some t else r.targetAt q := by
  obtain ⟨-, -, attaches⟩ := attach_cases ok
  cases attaches with
  | queued => exact ⟨nofun, rfl⟩
  | @rebound master _ free =>
    obtain ⟨l, found, idle⟩ := listener?_of_freeMaster? free
    refine ⟨fun here => ?_, ?_⟩
    · cases here
      rw [targetAt_of_listener? found, idle]
    · simp [targetAt_rebind found]
  | @opened opened new _ _ opens =>
    obtain ⟨available, rfl⟩ := startListener_cases opens
    refine ⟨fun here => ?_, ?_⟩
    · cases here
      cases serves : r.targetAt q with
      | none => rfl
      | some u =>
        obtain ⟨l, found, -⟩ := listener?_of_targetAt serves
        exact absurd (List.mem_map.mpr
          ⟨l, List.mem_of_find?_eq_some found, port_of_listener? found⟩) (fresh _ _ _ available)
    · simp [targetAt_insert]

theorem replace_targetAt {id : TargetId} (sound : r.Sound)
    (ok : r.replace old key id name = .ok (change, port)) (q : Nat) :
    change.registry.targetAt q = (r.targetAt q).map (Target.replacedBy old key id name) := by
  obtain ⟨-, -, replaces⟩ := replace_cases sound ok
  cases replaces with
  | queued a b t split =>
    have stopped : r.started = false := by
      by_contra running
      simp [sound.running (by simpa using running)] at split
    rw [sound.targetAt_waiting stopped]
    exact sound.targetAt_waiting stopped q
  | @rebound port l t serves found target same =>
    have here : r.targetAt port = some t := by rw [targetAt_of_listener? found, target]
    rw [targetAt_rebind found]
    split
    · rename_i there
      rw [← there, here, Option.map_some, Target.replacedBy, if_pos same]
    · rename_i apart
      cases other : r.targetAt q with
      | none => rfl
      | some u =>
        have differ : u.id ≠ old := fun known =>
          apart (sound.port_unique here other (same.trans known.symm))
        rw [Option.map_some, Target.replacedBy, if_neg differ]

theorem detach_targetAt {id : TargetId} (sound : r.Sound) (ok : r.detach id = .ok change)
    (serves : r.targetAt q = some u) (other : u.id ≠ id) :
    change.registry.targetAt q = some u := by
  obtain ⟨-, detaches⟩ := detach_cases sound ok
  cases detaches with
  | unqueued => exact serves
  | @unbound port l t _ _ found target same =>
    have here : r.targetAt port = some t := by rw [targetAt_of_listener? found, target]
    have apart : port ≠ q := by
      rintro rfl
      cases here.symm.trans serves
      exact other same
    rw [targetAt_rebind found, if_neg apart, serves]
  | @stopped port l t _ _ found target same =>
    have here : r.targetAt port = some t := by rw [targetAt_of_listener? found, target]
    have apart : port ≠ q := by
      rintro rfl
      cases here.symm.trans serves
      exact other same
    rw [targetAt_stopListener, if_neg apart, serves]

theorem start_master {net : Network} (fresh : OpensUnused net.bind)
    (ok : r.start net asked = .ok (change, port)) :
    change.registry.master = some port ∧ change.registry.targetAt port = r.pending.head? := by
  obtain ⟨-, stopped, opened, opens, rfl⟩ := start_cases ok
  obtain ⟨-, rfl⟩ := startListener_cases opens
  have found : listener? { r with
      listeners := insertListener ⟨port, r.pending.head?, []⟩ r.listeners
      started := true, pending := [], master := some port } port =
        some ⟨port, r.pending.head?, []⟩ := by
    rw [listener?, find?_insertListener, if_pos rfl]
  exact ⟨master_startEach .., targetAt_of_listener? (listener?_startEach fresh _ found)⟩

end Registry

end DebugAdapter
