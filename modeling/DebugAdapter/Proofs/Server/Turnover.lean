import DebugAdapter.Proofs.Server.Run

/-!
# Which listeners give up their sessions

An operation on the registry leaves every listener as it was, except those on
some ports. These lose their sessions, which are ended: with a restart if the
listener stays and has a new target, without one if it is closed (`Turns`).
-/

namespace DebugAdapter

namespace Registry

/-- The listeners on some ports give up their sessions; they stay if the clients
shall restart. Others stay as they are, and those that are new have no session yet. -/
structure Turns (r : Registry) (change : RegistryChange) (ports : List Nat) (restart : Bool) :
    Prop where
  kept : ∀ l ∈ r.listeners, l.port ∉ ports → l ∈ change.registry.listeners
  turned : ∀ l ∈ r.listeners, l.port ∈ ports → (l.port ∈ change.registry.ports ↔ restart = true)
  entered : ∀ l ∈ change.registry.listeners, l ∈ r.listeners ∧ l.port ∉ ports ∨ l.sessions = []
  endings : ∀ e, e ∈ change.endings ↔
    e.2 = restart ∧ ∃ l ∈ r.listeners, l.port ∈ ports ∧ e.1 ∈ l.sessions

def Rebinds (r : Registry) (port : Nat) : RegistryOperation → Prop
  | .attach net t => r.freeMaster? = some port ∧ ∃ result, r.attach net t = .ok result
  | .replace old key id name =>
    r.portOf? old = some port ∧ ∃ result, r.replace old key id name = .ok result
  | .detach id =>
    r.portOf? id = some port ∧ r.master = some port ∧ ∃ result, r.detach id = .ok result
  | _ => False

variable {r : Registry}

-- ---------------------------------------------------------------------------
-- Listeners
-- ---------------------------------------------------------------------------

theorem listener?_iff (nodup : r.ports.Nodup) :
    r.listener? port = some l ↔ l ∈ r.listeners ∧ l.port = port := by
  constructor
  · intro found
    exact ⟨List.mem_of_find?_eq_some found, by simpa using List.find?_some found⟩
  · rintro ⟨there, rfl⟩
    cases found : r.listener? l.port with
    | none => simpa using List.find?_eq_none.mp found l there
    | some m =>
      have same : m.port = l.port := by simpa using List.find?_some found
      rw [List.inj_on_of_nodup_map nodup (List.mem_of_find?_eq_some found) there same]

theorem enterSession_listeners (nodup : r.ports.Nodup)
    (entered : r.enterSession port session = some next) :
    ∃ l ∈ r.listeners, l.port = port ∧ r.targetAt port = l.target ∧ ∀ m, m ∈ next.listeners ↔
      m ∈ r.listeners ∧ m.port ≠ port ∨ m = { l with sessions := l.sessions ++ [session] } := by
  unfold enterSession at entered
  split at entered <;> cases entered
  rename_i listens
  obtain ⟨l, found⟩ := Option.isSome_iff_exists.mp listens
  obtain ⟨there, here⟩ := (listener?_iff nodup).mp found
  refine ⟨l, there, here, by rw [targetAt, found]; rfl, fun m => ?_⟩
  simp only [List.mem_map]
  constructor
  · rintro ⟨k, hk, rfl⟩
    split
    · rename_i same
      rw [List.inj_on_of_nodup_map nodup hk there (same.trans here.symm)]
      exact .inr rfl
    · rename_i apart
      exact .inl ⟨hk, apart⟩
  · rintro (⟨hm, apart⟩ | rfl)
    · exact ⟨m, hm, if_neg apart⟩
    · exact ⟨l, there, if_pos here⟩

theorem Turns.untouched (same : change.registry.listeners = r.listeners)
    (endings : change.endings = []) (restart : Bool) : r.Turns change [] restart where
  kept l hl _ := same ▸ hl
  turned _ _ none := absurd none List.not_mem_nil
  entered l hl := .inl ⟨same ▸ hl, List.not_mem_nil⟩
  endings e := by simp [endings]

theorem rebind_turns (sound : r.Sound) (found : r.listener? port = some l)
    (target : Option Target) : r.Turns (r.rebind port target) [port] true := by
  obtain ⟨there, here⟩ := (listener?_iff sound.ports).mp found
  have listeners : (r.rebind port target).registry.listeners = r.listeners.map fun m =>
      if m.port = port then ⟨m.port, target, []⟩ else m := by
    simp [rebind, found]
  refine ⟨fun m hm apart => ?_, fun m hm same => ?_, fun m hm => ?_, fun e => ?_⟩
  · rw [listeners]
    exact List.mem_map.mpr ⟨m, hm, if_neg (by simpa using apart)⟩
  · simp only [ports, listeners, List.map_map, List.mem_map, iff_true]
    refine ⟨m, hm, ?_⟩
    dsimp only [Function.comp]
    split <;> rfl
  · rw [listeners] at hm
    obtain ⟨l, hl, rfl⟩ := List.mem_map.mp hm
    split
    · exact .inr rfl
    · exact .inl ⟨hl, by simpa⟩
  · simp only [rebind, found, List.mem_map, List.mem_singleton]
    constructor
    · rintro ⟨id, entered, rfl⟩
      exact ⟨rfl, l, there, here, entered⟩
    · rintro ⟨flag, m, hm, same, entered⟩
      obtain rfl := List.inj_on_of_nodup_map sound.ports hm there (same.trans here.symm)
      exact ⟨e.1, entered, Prod.ext rfl flag.symm⟩

theorem stopListener_endings (nodup : r.ports.Nodup) (port : Nat) (e : SessionId × Bool) :
    e ∈ (r.stopListener port).endings ↔
      e.2 = false ∧ ∃ l ∈ r.listeners, l.port = port ∧ e.1 ∈ l.sessions := by
  cases found : r.listener? port with
  | none =>
    have absent := List.find?_eq_none.mp found
    simp only [stopListener, found, List.not_mem_nil, false_iff, not_and]
    rintro - ⟨l, hl, same, -⟩
    simpa [same] using absent l hl
  | some l =>
    obtain ⟨there, here⟩ := (listener?_iff nodup).mp found
    simp only [stopListener, found, List.mem_map]
    constructor
    · rintro ⟨id, entered, rfl⟩
      exact ⟨rfl, l, there, here, entered⟩
    · rintro ⟨flag, m, hm, same, entered⟩
      obtain rfl := List.inj_on_of_nodup_map nodup hm there (same.trans here.symm)
      exact ⟨e.1, entered, Prod.ext rfl flag.symm⟩

theorem stopEach_endings (nodup : r.ports.Nodup) (ports : List Nat) (e : SessionId × Bool) :
    e ∈ (r.stopEach ports).endings ↔
      e.2 = false ∧ ∃ l ∈ r.listeners, l.port ∈ ports ∧ e.1 ∈ l.sessions := by
  induction ports generalizing r with
  | nil => simp [stopEach]
  | cons port ports ih =>
    have left := stopListener_listeners r port
    have rest : e ∈ ((r.stopListener port).registry.stopEach ports).endings ↔ _ := ih (by
      rw [Registry.ports, left]
      exact (List.filter_sublist.map _).nodup nodup)
    simp only [left, List.mem_filter, decide_eq_true_eq] at rest
    rw [stopEach, List.mem_append, stopListener_endings nodup, rest]
    constructor
    · rintro (⟨flag, l, hl, here, entered⟩ | ⟨flag, l, ⟨hl, -⟩, later, entered⟩)
      · exact ⟨flag, l, hl, here ▸ List.mem_cons_self, entered⟩
      · exact ⟨flag, l, hl, List.mem_cons_of_mem _ later, entered⟩
    · rintro ⟨flag, l, hl, stops, entered⟩
      by_cases here : l.port = port
      · exact .inl ⟨flag, l, hl, here, entered⟩
      · exact .inr ⟨flag, l, ⟨hl, here⟩, (List.mem_cons.mp stops).resolve_left here, entered⟩

theorem stopEach_turns (nodup : r.ports.Nodup) (ports : List Nat) :
    r.Turns (r.stopEach ports) ports false := by
  have left := stopEach_listeners r ports
  refine ⟨fun l hl apart => ?_, fun l hl gone => ?_, fun l hl => ?_, stopEach_endings nodup ports⟩
  · rw [left]
    exact List.mem_filter.mpr ⟨hl, by simpa using apart⟩
  · simp only [Registry.ports, left, Bool.false_eq_true, iff_false, List.mem_map, List.mem_filter]
    rintro ⟨m, ⟨-, apart⟩, same⟩
    simp [same, gone] at apart
  · rw [left] at hl
    obtain ⟨hl, apart⟩ := List.mem_filter.mp hl
    exact .inl ⟨hl, by simpa using apart⟩

theorem stopListener_turns (nodup : r.ports.Nodup) (port : Nat) :
    r.Turns (r.stopListener port) [port] false := by
  have turns := stopEach_turns nodup [port]
  simp only [stopEach, List.append_nil] at turns
  exact turns

theorem mem_insertListener (h : m ∈ insertListener l ls) : m = l ∨ m ∈ ls := by
  induction ls with
  | nil => exact .inl (List.mem_singleton.mp h)
  | cons k ls ih =>
    unfold insertListener at h
    split at h
    · exact List.mem_cons.mp h
    split at h
    · exact (List.mem_cons.mp h).imp_right (List.mem_cons_of_mem k)
    · obtain rfl | h := List.mem_cons.mp h
      · exact .inr List.mem_cons_self
      · exact (ih h).imp_right (List.mem_cons_of_mem k)

theorem opened_turns {net : Network} (fresh : OpensUnused net.bind)
    (opens : r.startListener net asked target = .ok (opened, port))
    (hooks : List (InstanceKey × Call)) (restart : Bool) :
    r.Turns ⟨opened, hooks, []⟩ [] restart := by
  obtain ⟨rfl, perm⟩ := led_opened fresh opens
  refine ⟨fun l hl _ => perm.symm.subset (List.mem_cons_of_mem _ hl),
    fun _ _ none => absurd none List.not_mem_nil, fun l hl => ?_, fun e => by simp⟩
  obtain rfl | hl := mem_insertListener hl
  · exact .inr rfl
  · exact .inl ⟨hl, List.not_mem_nil⟩

theorem startListener_sessions {net : Network} (none : ∀ l ∈ r.listeners, l.sessions = [])
    (opens : r.startListener net asked target = .ok (opened, port)) :
    ∀ l ∈ opened.listeners, l.sessions = [] := by
  obtain ⟨-, rfl⟩ := startListener_cases opens
  intro l hl
  obtain rfl | hl := mem_insertListener hl
  · rfl
  · exact none l hl

theorem startEach_sessions (net : Network) (ts : List Target)
    (none : ∀ l ∈ r.listeners, l.sessions = []) :
    (∀ l ∈ (startEach net r ts).registry.listeners, l.sessions = []) ∧
      (startEach net r ts).endings = [] := by
  induction ts generalizing r with
  | nil => exact ⟨none, rfl⟩
  | cons t ts ih =>
    cases opens : r.startListener net 0 (some t) with
    | ok result =>
      simp only [startEach, opens]
      exact ih (startListener_sessions none opens)
    | error failure =>
      simp only [startEach, opens]
      exact ih none

-- ---------------------------------------------------------------------------
-- Operations
-- ---------------------------------------------------------------------------

def Turned (r : Registry) (op : RegistryOperation) (change : RegistryChange) : Prop :=
  ∃ ports restart, r.Turns change ports restart ∧
    ∀ port, r.Rebinds port op ↔ restart = true ∧ port ∈ ports

theorem Turned.untouched (same : change.registry.listeners = r.listeners)
    (endings : change.endings = []) (binds : ∀ port, ¬r.Rebinds port op) : r.Turned op change :=
  ⟨[], false, .untouched same endings _, by simpa using binds⟩

theorem attach_turned {net : Network} (sound : r.Sound) (fresh : OpensUnused net.bind) :
    r.Turned (.attach net t) (r.outcome (.attach net t)) := by
  simp only [outcome]
  cases result : r.attach net t with
  | error e => exact .untouched (by rfl) (by rfl) (by simp [Rebinds, result])
  | ok success =>
    obtain ⟨change, port⟩ := success
    obtain ⟨-, -, attaches⟩ := attach_cases result
    cases attaches with
    | queued stopped =>
      refine .untouched (by rfl) (by rfl) fun port binds => ?_
      obtain ⟨l, found, -⟩ := listener?_of_freeMaster? binds.1
      cases stopped.symm.trans (sound.started_of_listener? found)
    | @rebound master started free =>
      obtain ⟨l, found, -⟩ := listener?_of_freeMaster? free
      refine ⟨[master], true, rebind_turns sound found _, ?_⟩
      simp [Rebinds, free, result, eq_comm]
    | opened started busy opens =>
      exact ⟨[], false, opened_turns fresh opens _ _, by simp [Rebinds, busy]⟩

theorem Sound.not_waiting {id : TargetId} (sound : r.Sound) (serves : r.portOf? id = some port) :
    r.pending = [] := by
  obtain ⟨l, -, found, -⟩ := listener?_of_portOf? sound serves
  exact sound.running (sound.started_of_listener? found)

theorem replace_turned {id : TargetId} (sound : r.Sound) :
    r.Turned (.replace old key id name) (r.outcome (.replace old key id name)) := by
  simp only [outcome]
  cases result : r.replace old key id name with
  | error e => exact .untouched (by rfl) (by rfl) (by simp [Rebinds, result])
  | ok success =>
    obtain ⟨change, port⟩ := success
    obtain ⟨-, -, replaces⟩ := replace_cases sound result
    cases replaces with
    | queued a b t split same =>
      refine .untouched (by rfl) (by rfl) fun port binds => ?_
      simp [sound.not_waiting binds.1] at split
    | @rebound port l t serves found target same =>
      refine ⟨[port], true, rebind_turns sound found _, ?_⟩
      simp [Rebinds, serves, result, eq_comm]

theorem detach_turned {id : TargetId} (sound : r.Sound) :
    r.Turned (.detach id) (r.outcome (.detach id)) := by
  simp only [outcome]
  cases result : r.detach id with
  | error e => exact .untouched (by rfl) (by rfl) (by simp [Rebinds, result])
  | ok change =>
    obtain ⟨-, detaches⟩ := detach_cases sound result
    cases detaches with
    | unqueued a b t split same =>
      refine .untouched (by rfl) (by rfl) fun port binds => ?_
      simp [sound.not_waiting binds.1] at split
    | @unbound port l t serves master found target same =>
      refine ⟨[port], true, rebind_turns sound found _, fun other => ?_⟩
      simp [Rebinds, serves, result, master, eq_comm]
    | @stopped port l t serves others found target same =>
      refine ⟨[port], false, stopListener_turns sound.ports port, fun master => ?_⟩
      simp only [Rebinds, serves, Option.some.injEq, Bool.false_eq_true, false_and, iff_false]
      rintro ⟨rfl, master, -⟩
      exact others master

theorem start_turned {net : Network} (sound : r.Sound) :
    r.Turned (.start net asked) (r.outcome (.start net asked)) := by
  simp only [outcome]
  cases result : r.start net asked with
  | error e => exact .untouched (by rfl) (by rfl) (by simp [Rebinds])
  | ok success =>
    obtain ⟨change, master⟩ := success
    obtain ⟨-, stopped, opened, opens, rfl⟩ := start_cases result
    have none : r.listeners = [] := sound.waiting stopped
    have first := startListener_sessions (by rw [none]; exact List.forall_mem_nil _) opens
    obtain ⟨sessions, endings⟩ := startEach_sessions (r := { opened with
      started := true, pending := [], master := some master }) net r.pending.tail first
    refine ⟨[], false, ⟨?_, fun _ _ none => absurd none List.not_mem_nil,
      fun l hl => .inr (sessions l hl), fun e => ?_⟩, ?_⟩
    · rw [none]
      exact List.forall_mem_nil _
    · simp [Except.map, RegistryChange.ofResult, endings]
    · simp [Rebinds]

theorem dispose_turned (sound : r.Sound) : r.Turned .dispose r.dispose := by
  by_cases disposed : r.disposed = true
  · simp only [dispose, disposed, if_true]
    exact .untouched rfl rfl (by simp [Rebinds])
  · have turns := stopEach_turns sound.ports r.ports
    refine ⟨r.ports, false, ?_, by simp [Rebinds]⟩
    simp only [dispose, disposed, stopEach_disposed]
    exact ⟨turns.kept, turns.turned, turns.entered, turns.endings⟩

theorem outcome_turned (sound : r.Sound) {op : RegistryOperation} (safe : op.Safe)
    (manages : ∀ port id, op ≠ .enterSession port id) : r.Turned op (r.outcome op) := by
  cases op with
  | attach net t => exact attach_turned sound safe
  | replace old key id name => exact replace_turned sound
  | detach id => exact detach_turned sound
  | start net port => exact start_turned sound
  | dispose => exact dispose_turned sound
  | listenerFailed port =>
    exact ⟨[port], false, stopListener_turns sound.ports port, by simp [Rebinds]⟩
  | enterSession port id => exact absurd rfl (manages port id)

end Registry

end DebugAdapter
