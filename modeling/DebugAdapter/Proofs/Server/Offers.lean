import DebugAdapter.Server.Registry
import Mathlib.Algebra.Order.Group.Multiset

/-!
# What a registry offers

The targets of a registry, whether they have a listener or wait for the start.
In a sound registry no two of them have one identity, and each operation does
to them what its name says: one target more, one in the place of another, one
less. The laws say it as equations between multisets.
-/

namespace DebugAdapter

/-- A port that is opened is not in use. -/
def OpensUnused (bind : List Nat → Nat → Except String Nat) : Prop :=
  ∀ ports asked port, bind ports asked = .ok port → port ∉ ports

/-- Some port opens whenever any port will do. -/
def OpensAny (bind : List Nat → Nat → Except String Nat) : Prop :=
  ∀ ports, ∃ port, bind ports 0 = .ok port

def portAbove (ports : List Nat) : Nat := ports.foldr (· + ·) 32768

theorem lt_portAbove {ports : List Nat} (used : port ∈ ports) : port < portAbove ports := by
  have positive (ports : List Nat) : 0 < portAbove ports := by
    induction ports with
    | nil => decide
    | cons p ports ih => exact Nat.lt_of_lt_of_le ih (Nat.le_add_left ..)
  induction ports with
  | nil => cases used
  | cons p ports ih =>
    have sum : portAbove (p :: ports) = p + portAbove ports := rfl
    have more := positive ports
    obtain rfl | used := List.mem_cons.mp used
    · omega
    · have less := ih used
      omega

/-- A network with endless ports: the one that is asked for, if it is free, or
one above all that are in use. -/
def freePorts (ports : List Nat) (asked : Nat) : Except String Nat :=
  if asked = 0 then .ok (portAbove ports)
  else if asked ∈ ports then .error "Address already in use (os error 98)"
  else .ok asked

theorem freePorts_unused : OpensUnused freePorts := by
  intro ports asked port opened
  unfold freePorts at opened
  split at opened
  · cases opened
    exact fun used => Nat.lt_irrefl _ (lt_portAbove used)
  split at opened <;> cases opened
  assumption

theorem freePorts_any : OpensAny freePorts := fun ports => ⟨portAbove ports, rfl⟩

theorem Target.filter_of_cons {ts rest : Multiset Target} (ids : (ts.map Target.id).Nodup)
    (split : ts = t ::ₘ rest) : (ts.filter fun u => u.id ≠ t.id) = rest := by
  rw [split, Multiset.map_cons, Multiset.nodup_cons] at ids
  rw [split, Multiset.filter_cons_of_neg _ (by simp), Multiset.filter_eq_self]
  exact fun u hu same => ids.1 (Multiset.mem_map.mpr ⟨u, hu, same⟩)

namespace Registry

def serving (target : Option Target) : Multiset Target := target.toList

@[simp] theorem serving_none : serving none = 0 := rfl

@[simp] theorem serving_some (t : Target) : serving (some t) = {t} := rfl

def served (listeners : List Listener) : Multiset Target := listeners.filterMap Listener.target

def offered (r : Registry) : Multiset Target := (r.targets.map Prod.fst : List Target)

theorem offered_eq (r : Registry) : r.offered = served r.listeners + r.pending := by
  have bound : (r.listeners.filterMap fun l => l.target.map fun t => (t, some l.port)).map
      Prod.fst = r.listeners.filterMap Listener.target := by
    rw [List.map_filterMap]
    congr 1
    funext l
    cases l.target <;> rfl
  have queued : (r.pending.map fun t => (t, (none : Option Nat))).map Prod.fst = r.pending := by
    rw [List.map_map]
    exact List.map_id _
  rw [offered, targets, List.map_append, bound, queued]
  rfl

/-- A registry as its operations leave it: every listener has a port of its
own, every target an identity of its own, targets wait only before the start,
when there is no listener yet, and a registry that is disposed is empty. -/
structure Sound (r : Registry) : Prop where
  ports : r.ports.Nodup
  ids : (r.offered.map Target.id).Nodup
  waiting : r.started = false → r.listeners = []
  running : r.started = true → r.pending = []
  closed : r.disposed = true → r.listeners = [] ∧ r.pending = []

theorem sound_empty : empty.Sound := ⟨.nil, .nil, fun _ => rfl, nofun, nofun⟩

theorem Sound.alive_of_mem {r : Registry} (sound : r.Sound) (there : t ∈ r.offered) :
    r.disposed = false := by
  by_contra disposed
  obtain ⟨listeners, pending⟩ := sound.closed (by simpa using disposed)
  simp [offered_eq, listeners, pending, served] at there

-- ---------------------------------------------------------------------------
-- Listeners
-- ---------------------------------------------------------------------------

@[simp] theorem served_nil : served [] = 0 := rfl

theorem served_cons (l : Listener) (ls : List Listener) :
    served (l :: ls) = serving l.target + served ls := by
  cases h : l.target <;> simp [served, serving, h]

theorem served_perm {a b : List Listener} (h : a.Perm b) : served a = served b :=
  Multiset.coe_eq_coe.mpr (h.filterMap _)

theorem served_split (a b : List Listener) (l : Listener) :
    served (a ++ l :: b) = serving l.target + served (a ++ b) := by
  rw [served_perm List.perm_middle, served_cons]

theorem insertListener_perm {l : Listener} {ls : List Listener}
    (new : l.port ∉ ls.map Listener.port) : (insertListener l ls).Perm (l :: ls) := by
  induction ls with
  | nil => exact .refl _
  | cons m rest ih =>
    rw [List.map_cons, List.mem_cons, not_or] at new
    unfold insertListener
    split
    · exact .refl _
    · rw [if_neg new.1]
      exact ((ih new.2).cons m).trans (.swap ..)

theorem split_of_listener? {r : Registry} (sound : r.Sound)
    (found : r.listener? port = some l) :
    ∃ a b, r.listeners = a ++ l :: b ∧ l.port = port ∧ ∀ m ∈ a ++ b, m.port ≠ port := by
  obtain ⟨here, a, b, split, before⟩ := List.find?_eq_some_iff_append.mp found
  have here : l.port = port := by simpa using here
  refine ⟨a, b, split, here, fun m hm => ?_⟩
  have nodup := sound.ports
  rw [ports, split, List.map_append, List.map_cons] at nodup
  have others := (List.nodup_middle.mp nodup).notMem
  rw [← List.map_append] at others
  exact fun same => others (List.mem_map.mpr ⟨m, hm, same.trans here.symm⟩)

theorem listener?_of_portOf? {r : Registry} {id : TargetId} (sound : r.Sound)
    (found : r.portOf? id = some port) :
    ∃ l t, r.listener? port = some l ∧ l.target = some t ∧ t.id = id := by
  obtain ⟨l, serves, rfl⟩ := Option.map_eq_some_iff.mp found
  obtain ⟨t, target, same⟩ := Option.map_eq_some_iff.mp (by simpa using List.find?_some serves)
  refine ⟨l, t, ?_, target, same⟩
  obtain ⟨a, b, split⟩ := List.append_of_mem (List.mem_of_find?_eq_some serves)
  have nodup := sound.ports
  rw [ports, split, List.map_append, List.map_cons] at nodup
  have others := (List.nodup_middle.mp nodup).notMem
  refine List.find?_eq_some_iff_append.mpr ⟨by simp, a, b, split, fun m hm => ?_⟩
  have differ : m.port ≠ l.port := fun same =>
    others (List.mem_append_left _ (List.mem_map.mpr ⟨m, hm, same⟩))
  simpa using differ

-- ---------------------------------------------------------------------------
-- Questions
-- ---------------------------------------------------------------------------

theorem portOf?_isSome (r : Registry) (id : TargetId) :
    (r.portOf? id).isSome = true ↔ id ∈ (served r.listeners).map Target.id := by
  simp only [portOf?, Option.isSome_map, List.find?_isSome, decide_eq_true_eq, Multiset.mem_map,
    served, Multiset.mem_coe, List.mem_filterMap, Option.map_eq_some_iff]
  constructor
  · rintro ⟨l, hl, t, target, same⟩
    exact ⟨t, ⟨l, hl, target⟩, same⟩
  · rintro ⟨t, ⟨l, hl, target⟩, same⟩
    exact ⟨l, hl, t, target, same⟩

theorem isAttached_iff (r : Registry) (id : TargetId) :
    r.isAttached id = true ↔ id ∈ r.offered.map Target.id := by
  rw [isAttached, Bool.or_eq_true, portOf?_isSome, offered_eq, Multiset.map_add, Multiset.mem_add,
    or_comm]
  simp

-- ---------------------------------------------------------------------------
-- Changes of one listener
-- ---------------------------------------------------------------------------

theorem Sound.started_of_listener? {r : Registry} (sound : r.Sound)
    (found : r.listener? port = some l) : r.started = true := by
  by_contra stopped
  have none := sound.waiting (by simpa using stopped)
  simp [listener?, none] at found

theorem Sound.alive_of_listener? {r : Registry} (sound : r.Sound)
    (found : r.listener? port = some l) : r.disposed = false := by
  by_contra disposed
  have none := (sound.closed (by simpa using disposed)).1
  simp [listener?, none] at found

theorem rebind_split {r : Registry} (sound : r.Sound) (found : r.listener? port = some l)
    (target : Option Target) :
    ∃ a b, r.listeners = a ++ l :: b ∧ l.port = port ∧
      (r.rebind port target).registry = { r with listeners := a ++ ⟨port, target, []⟩ :: b } := by
  obtain ⟨a, b, split, here, others⟩ := split_of_listener? sound found
  have kept {ms : List Listener} (h : ∀ m ∈ ms, m.port ≠ port) :
      (ms.map fun m => if m.port = port then (⟨m.port, target, []⟩ : Listener) else m) = ms :=
    (List.map_congr_left fun m hm => if_neg (h m hm)).trans (List.map_id _)
  have before := kept fun m hm => others m (List.mem_append_left _ hm)
  have after := kept fun m hm => others m (List.mem_append_right _ hm)
  exact ⟨a, b, split, here, by simp [rebind, found, split, before, after, here]⟩

theorem stopListener_split {r : Registry} (sound : r.Sound) (found : r.listener? port = some l) :
    ∃ a b, r.listeners = a ++ l :: b ∧ l.port = port ∧
      (r.listeners.filter fun m => m.port ≠ port) = a ++ b := by
  obtain ⟨a, b, split, here, others⟩ := split_of_listener? sound found
  have all : ((a ++ b).filter fun m => m.port ≠ port) = a ++ b :=
    List.filter_eq_self.mpr fun m hm => by simpa using others m hm
  refine ⟨a, b, split, here, ?_⟩
  rw [split, List.filter_append, List.filter_cons_of_neg (by simp [here]), ← List.filter_append,
    all]

theorem rebind_offered {r : Registry} (sound : r.Sound) (found : r.listener? port = some l)
    (target : Option Target) :
    ∃ rest, r.offered = serving l.target + rest ∧
      (r.rebind port target).registry.offered = serving target + rest ∧
      (((r.rebind port target).registry.offered.map Target.id).Nodup →
        (r.rebind port target).registry.Sound) := by
  obtain ⟨a, b, split, here, changed⟩ := rebind_split sound found target
  have started := sound.started_of_listener? found
  have alive := sound.alive_of_listener? found
  rw [changed]
  refine ⟨served (a ++ b) + r.pending, ?_, ?_, fun ids => ?_⟩
  · rw [offered_eq, split, served_split, add_assoc]
  · rw [offered_eq, served_split, add_assoc]
  · refine ⟨?_, ids, fun stopped => ?_, sound.running, fun disposed => ?_⟩
    · simpa [ports, split, here] using sound.ports
    · cases started.symm.trans stopped
    · cases alive.symm.trans disposed

theorem stopListener_offered {r : Registry} (sound : r.Sound)
    (found : r.listener? port = some l) :
    r.offered = serving l.target + (r.stopListener port).registry.offered ∧
      (r.stopListener port).registry.Sound := by
  obtain ⟨a, b, split, here, left⟩ := stopListener_split sound found
  have started := sound.started_of_listener? found
  have alive := sound.alive_of_listener? found
  have offers : r.offered = serving l.target + (served (a ++ b) + r.pending) := by
    rw [offered_eq, split, served_split, add_assoc]
  have remaining : (r.stopListener port).registry.offered = served (a ++ b) + r.pending := by
    simp only [stopListener, found, offered_eq, left]
  refine ⟨by rw [offers, remaining], ?_⟩
  have ids := sound.ids
  rw [offers, Multiset.map_add] at ids
  simp only [stopListener, found, left]
  refine ⟨?_, ?_, fun stopped => ?_, sound.running, fun disposed => ?_⟩
  · have nodup := sound.ports
    rw [ports, split, List.map_append, List.map_cons] at nodup
    simpa [ports] using (List.nodup_middle.mp nodup).of_cons
  · rw [offered_eq]
    exact Multiset.nodup_of_le (Multiset.le_add_left ..) ids
  · cases started.symm.trans stopped
  · cases alive.symm.trans disposed

structure Opened (r : Registry) (ts : Multiset Target) (opened : Registry) : Prop where
  served : served opened.listeners = ts + served r.listeners
  ports : opened.ports.Nodup
  started : opened.started = r.started
  disposed : opened.disposed = r.disposed
  pending : opened.pending = r.pending

theorem startListener_cases {r : Registry} {net : Network}
    (opens : r.startListener net asked target = .ok (opened, port)) :
    net.bind r.ports asked = .ok port ∧
      opened = { r with listeners := insertListener ⟨port, target, []⟩ r.listeners } := by
  unfold startListener at opens
  split at opens <;> cases opens
  rename_i available
  exact ⟨available, rfl⟩

theorem startListener_opened {r : Registry} {net : Network} (fresh : OpensUnused net.bind)
    (ports : r.ports.Nodup) (opens : r.startListener net asked target = .ok (opened, port)) :
    r.Opened (serving target) opened := by
  obtain ⟨available, rfl⟩ := startListener_cases opens
  have unused := fresh _ _ _ available
  have perm := insertListener_perm (l := ⟨port, target, []⟩) unused
  refine ⟨?_, ?_, rfl, rfl, rfl⟩
  · rw [served_perm perm, served_cons]
  · exact ((perm.map Listener.port).nodup_iff).mpr (List.nodup_cons.mpr ⟨unused, ports⟩)

/-- Some of the targets get a listener; the others are lost, and their debuggees
are told. None is lost as long as ports open. -/
theorem startEach_opened {r : Registry} {net : Network} (fresh : OpensUnused net.bind)
    (ports : r.ports.Nodup) (ts : List Target) :
    ∃ started lost : List Target, (ts : Multiset Target) = lost + started ∧
      (OpensAny net.bind → lost = []) ∧ r.Opened started (startEach net r ts).registry ∧
      (startEach net r ts).hooks = lost.map Target.detachHook := by
  induction ts generalizing r with
  | nil => exact ⟨[], [], rfl, fun _ => rfl, ⟨(zero_add _).symm, ports, rfl, rfl, rfl⟩, rfl⟩
  | cons t ts ih =>
    cases opens : r.startListener net 0 (some t) with
    | ok result =>
      obtain ⟨opened, port⟩ := result
      have first := startListener_opened fresh ports opens
      obtain ⟨started, lost, all, none, others, hooks⟩ := ih first.ports
      simp only [startEach, opens]
      refine ⟨t :: started, lost, ?_, none, ?_, hooks⟩
      · rw [← Multiset.cons_coe, all, ← Multiset.cons_coe, Multiset.add_cons]
      refine ⟨?_, others.ports, others.started.trans first.started,
        others.disposed.trans first.disposed, others.pending.trans first.pending⟩
      rw [others.served, first.served, serving_some, ← Multiset.cons_coe,
        ← Multiset.singleton_add, add_left_comm, add_assoc]
    | error failure =>
      obtain ⟨started, lost, all, -, others, hooks⟩ := ih ports
      simp only [startEach, opens]
      refine ⟨started, t :: lost, ?_, fun any => ?_, others, congrArg _ hooks⟩
      · rw [← Multiset.cons_coe, all, ← Multiset.cons_coe, Multiset.cons_add]
      · obtain ⟨port, available⟩ := any r.ports
        simp [startListener, available] at opens

-- ---------------------------------------------------------------------------
-- Operations
-- ---------------------------------------------------------------------------

theorem alive_of_ok {r : Registry} {rest : Unit → Except RegistryFailure α}
    (ok : (r.ensureAlive >>= rest) = .ok a) : r.disposed = false ∧ rest () = .ok a := by
  unfold ensureAlive at ok
  split at ok
  · cases ok
  · rename_i alive
    exact ⟨by simpa using alive, ok⟩

inductive Attaches (r : Registry) (net : Network) (t : Target) :
    RegistryChange → Option Nat → Prop
  | queued : r.started = false →
    Attaches r net t ⟨{ r with pending := r.pending ++ [t] }, [t.attachHook], []⟩ none
  | rebound : r.started = true → r.freeMaster? = some port →
    Attaches r net t (r.rebind port (some t)) (some port)
  | opened : r.started = true → r.freeMaster? = none →
    r.startListener net 0 (some t) = .ok (opened, port) →
    Attaches r net t ⟨opened, [t.attachHook], []⟩ (some port)

theorem attach_cases {r : Registry} {net : Network} (ok : r.attach net t = .ok (change, port)) :
    r.disposed = false ∧ r.isAttached t.id = false ∧ r.Attaches net t change port := by
  obtain ⟨alive, ok⟩ := alive_of_ok ok
  simp only [bind, Except.bind, pure, Except.pure, throw, throwThe, MonadExceptOf.throw] at ok
  split at ok
  · cases ok
  rename_i unknown
  refine ⟨alive, by simpa using unknown, ?_⟩
  split at ok
  · rename_i stopped
    cases ok
    exact .queued (by simpa using stopped)
  rename_i started
  replace started : r.started = true := by simpa using started
  split at ok
  · rename_i free
    cases ok
    exact .rebound started free
  · rename_i busy
    split at ok
    · rename_i opens
      cases ok
      exact .opened started busy opens
    · cases ok

inductive Replaces (r : Registry) (old : TargetId) (key : InstanceKey) (id : TargetId)
    (name : Option String) : RegistryChange → Option Nat → Prop
  | queued (a b : List Target) (t : Target) : r.pending = a ++ t :: b → t.id = old →
    Replaces r old key id name ⟨{ r with pending := a ++ ⟨key, id, name.getD t.name⟩ :: b },
      [t.detachHook, Target.attachHook ⟨key, id, name.getD t.name⟩], []⟩ none
  | rebound : r.portOf? old = some port →
    r.listener? port = some l → l.target = some t → t.id = old →
    Replaces r old key id name (r.rebind port (some ⟨key, id, name.getD t.name⟩)) (some port)

theorem replace_cases {r : Registry} {id : TargetId} (sound : r.Sound)
    (ok : r.replace old key id name = .ok (change, port)) :
    r.disposed = false ∧ (id = old ∨ r.isAttached id = false) ∧
      r.Replaces old key id name change port := by
  obtain ⟨alive, ok⟩ := alive_of_ok ok
  simp only [bind, Except.bind, pure, Except.pure, throw, throwThe, MonadExceptOf.throw] at ok
  split at ok
  · cases ok
  rename_i unknown
  refine ⟨alive, by simpa [Decidable.or_iff_not_imp_left] using unknown, ?_⟩
  split at ok
  · rename_i place t placed found
    cases ok
    obtain ⟨here, a, b, split, before⟩ := List.find?_eq_some_iff_append.mp found
    have skipped : a.findIdx? (fun t => t.id = old) = none :=
      List.findIdx?_eq_none_iff.mpr fun u hu => by simpa using before u hu
    have position : place = a.length := by
      rw [split, List.findIdx?_append, skipped] at placed
      simpa [List.findIdx?_cons, here] using placed.symm
    have left (u : Target) : r.pending.set place u = a ++ u :: b := by
      rw [split, position]
      simp
    rw [left]
    exact .queued a b t split (by simpa using here)
  · split at ok
    · cases ok
    rename_i port serves
    cases ok
    obtain ⟨l, t, found, target, same⟩ := listener?_of_portOf? sound serves
    have shown : Target.shownName ((r.listener? port).bind Listener.target) = t.name := by
      simp [found, target, Target.shownName]
    rw [shown]
    exact .rebound serves found target same

inductive Detaches (r : Registry) (id : TargetId) : RegistryChange → Prop
  | unqueued (a b : List Target) (t : Target) : r.pending = a ++ t :: b → t.id = id →
    Detaches r id ⟨{ r with pending := a ++ b }, [t.detachHook], []⟩
  | unbound : r.portOf? id = some port → r.master = some port →
    r.listener? port = some l → l.target = some t → t.id = id →
    Detaches r id (r.rebind port none)
  | stopped : r.portOf? id = some port → r.master ≠ some port →
    r.listener? port = some l → l.target = some t → t.id = id →
    Detaches r id (r.stopListener port)

theorem detach_cases {r : Registry} {id : TargetId} (sound : r.Sound)
    (ok : r.detach id = .ok change) : r.disposed = false ∧ r.Detaches id change := by
  obtain ⟨alive, ok⟩ := alive_of_ok ok
  refine ⟨alive, ?_⟩
  simp only [pure, Except.pure, throw, throwThe, MonadExceptOf.throw] at ok
  split at ok
  · rename_i t found
    cases ok
    obtain ⟨here, a, b, split, before⟩ := List.find?_eq_some_iff_append.mp found
    have left : (r.pending.eraseP fun t => t.id = id) = a ++ b := by
      rw [split, List.eraseP_append_right _ fun u hu => by simpa using before u hu]
      simp [here]
    rw [left]
    exact .unqueued a b t split (by simpa using here)
  · split at ok
    · cases ok
    rename_i port serves
    obtain ⟨l, t, found, target, same⟩ := listener?_of_portOf? sound serves
    split at ok <;> cases ok
    · rename_i master
      exact .unbound serves master found target same
    · rename_i others
      exact .stopped serves others found target same

theorem start_cases {r : Registry} {net : Network} (ok : r.start net asked = .ok (change, port)) :
    r.disposed = false ∧ r.started = false ∧ ∃ opened,
      r.startListener net asked r.pending.head? = .ok (opened, port) ∧
        change = startEach net { opened with started := true, pending := [], master := some port }
          r.pending.tail := by
  obtain ⟨alive, ok⟩ := alive_of_ok ok
  simp only [bind, Except.bind, pure, Except.pure, throw, throwThe, MonadExceptOf.throw] at ok
  split at ok
  · cases ok
  rename_i stopped
  refine ⟨alive, by simpa using stopped, ?_⟩
  split at ok
  · cases ok
  rename_i opened master opens
  cases ok
  exact ⟨opened, opens, rfl⟩

theorem nodup_cons_ids {rest : Multiset Target} {t : Target} (new : t.id ∉ rest.map Target.id)
    (ids : (rest.map Target.id).Nodup) : ((t ::ₘ rest).map Target.id).Nodup := by
  rw [Multiset.map_cons]
  exact Multiset.nodup_cons.mpr ⟨new, ids⟩

theorem listener?_of_freeMaster? {r : Registry} (free : r.freeMaster? = some port) :
    ∃ l, r.listener? port = some l ∧ l.target = none := by
  obtain ⟨-, idle⟩ := Option.filter_eq_some_iff.mp free
  obtain ⟨l, found, unbound⟩ := (Option.any_eq_true ..).mp idle
  exact ⟨l, found, by simpa using unbound⟩

theorem attach_offered {r : Registry} {net : Network} (sound : r.Sound)
    (fresh : OpensUnused net.bind) (ok : r.attach net t = .ok (change, port)) :
    t.id ∉ r.offered.map Target.id ∧ change.registry.offered = t ::ₘ r.offered ∧
      change.registry.Sound := by
  obtain ⟨alive, unknown, attaches⟩ := attach_cases ok
  have new : t.id ∉ r.offered.map Target.id := fun known => by
    simp [(r.isAttached_iff t.id).mpr known] at unknown
  have ids := nodup_cons_ids new sound.ids
  refine ⟨new, ?_⟩
  cases attaches with
  | queued stopped =>
    have offers : offered { r with pending := r.pending ++ [t] } = t ::ₘ r.offered := by
      simp only [offered_eq, ← Multiset.coe_add, Multiset.coe_singleton, add_comm _ {t},
        Multiset.singleton_add, Multiset.add_cons]
    refine ⟨offers, sound.ports, offers ▸ ids, sound.waiting, fun started => ?_,
      fun disposed => ?_⟩
    · cases stopped.symm.trans started
    · cases alive.symm.trans disposed
  | @rebound master started free =>
    obtain ⟨l, found, unbound⟩ := listener?_of_freeMaster? free
    obtain ⟨rest, before, after, keeps⟩ := rebind_offered sound found (some t)
    rw [unbound] at before
    have offers : (r.rebind master (some t)).registry.offered = t ::ₘ r.offered := by
      rw [after, before, serving_some, serving_none, zero_add, Multiset.singleton_add]
    exact ⟨offers, keeps (offers ▸ ids)⟩
  | @opened opened bound started busy opens =>
    have more := startListener_opened fresh sound.ports opens
    have offers : opened.offered = t ::ₘ r.offered := by
      rw [offered_eq, offered_eq, more.served, more.pending, serving_some, add_assoc,
        Multiset.singleton_add]
    refine ⟨offers, more.ports, offers ▸ ids, fun stopped => ?_,
      fun _ => more.pending.trans (sound.running started), fun disposed => ?_⟩
    · cases started.symm.trans (more.started.symm.trans stopped)
    · cases alive.symm.trans (more.disposed.symm.trans disposed)

theorem detach_offered {r : Registry} {id : TargetId} (sound : r.Sound)
    (ok : r.detach id = .ok change) :
    ∃ t, t.id = id ∧ r.offered = t ::ₘ change.registry.offered ∧ change.registry.Sound ∧
      change.hooks = [t.detachHook] := by
  obtain ⟨alive, detaches⟩ := detach_cases sound ok
  cases detaches with
  | unqueued a b t split same =>
    have offers : r.offered = t ::ₘ offered { r with pending := a ++ b } := by
      simp only [offered_eq, split, ← Multiset.coe_add, ← Multiset.cons_coe,
        Multiset.add_cons]
    refine ⟨t, same, offers, ?_, rfl⟩
    have ids := sound.ids
    rw [offers, Multiset.map_cons] at ids
    refine ⟨sound.ports, (Multiset.nodup_cons.mp ids).2, sound.waiting, fun started => ?_,
      fun disposed => ?_⟩
    · have none := sound.running started
      simp [split] at none
    · cases alive.symm.trans disposed
  | @unbound port l t serves master found target same =>
    obtain ⟨rest, before, after, keeps⟩ := rebind_offered sound found none
    rw [target] at before
    have offers : r.offered = t ::ₘ (r.rebind port none).registry.offered := by
      rw [before, after, serving_some, serving_none, zero_add, Multiset.singleton_add]
    have ids := sound.ids
    rw [offers, Multiset.map_cons] at ids
    exact ⟨t, same, offers, keeps (Multiset.nodup_cons.mp ids).2, by simp [rebind, found, target]⟩
  | @stopped port l t serves others found target same =>
    obtain ⟨offers, keeps⟩ := stopListener_offered sound found
    rw [target] at offers
    exact ⟨t, same, offers, keeps, by simp [stopListener, found, target]⟩

theorem detach_of_offered {r : Registry} {id : TargetId} (sound : r.Sound)
    (there : id ∈ r.offered.map Target.id) : ∃ change, r.detach id = .ok change := by
  obtain ⟨t, offers, -⟩ := Multiset.mem_map.mp there
  have alive : r.ensureAlive = .ok () := if_neg (by simp [sound.alive_of_mem offers])
  simp only [detach, alive, bind, Except.bind, pure, Except.pure, throw, throwThe,
    MonadExceptOf.throw]
  split
  · exact ⟨_, rfl⟩
  · rename_i absent
    rw [offered_eq, Multiset.map_add, Multiset.mem_add] at there
    obtain serves | waits := there
    · obtain ⟨port, serves⟩ := Option.isSome_iff_exists.mp ((r.portOf?_isSome id).mpr serves)
      simp only [serves]
      split <;> exact ⟨_, rfl⟩
    · obtain ⟨t, ht, same⟩ := Multiset.mem_map.mp waits
      have differ := List.find?_eq_none.mp absent t ht
      simp [same] at differ

theorem detach_filter {r : Registry} (sound : r.Sound) (id : TargetId) :
    (∀ change, r.detach id = .ok change →
        change.registry.Sound ∧ change.registry.offered = r.offered.filter fun t => t.id ≠ id) ∧
      ∀ e, r.detach id = .error e → (r.offered.filter fun t => t.id ≠ id) = r.offered := by
  refine ⟨fun change ok => ?_, fun e error => ?_⟩
  · obtain ⟨t, rfl, offers, kept, -⟩ := detach_offered sound ok
    exact ⟨kept, (Target.filter_of_cons sound.ids offers).symm⟩
  · refine Multiset.filter_eq_self.mpr fun t ht same => ?_
    obtain ⟨change, ok⟩ := detach_of_offered sound (Multiset.mem_map.mpr ⟨t, ht, same⟩)
    cases error.symm.trans ok

theorem replace_offered {r : Registry} {id : TargetId} (sound : r.Sound)
    (ok : r.replace old key id name = .ok (change, port)) :
    ∃ t rest, t.id = old ∧ r.offered = t ::ₘ rest ∧
      change.registry.offered = ⟨key, id, name.getD t.name⟩ ::ₘ rest ∧ change.registry.Sound := by
  obtain ⟨alive, unknown, replaces⟩ := replace_cases sound ok
  have new {t : Target} {rest : Multiset Target} (same : t.id = old)
      (offers : r.offered = t ::ₘ rest) (name : String) :
      (((⟨key, id, name⟩ : Target) ::ₘ rest).map Target.id).Nodup := by
    have ids := sound.ids
    rw [offers, Multiset.map_cons, Multiset.nodup_cons] at ids
    refine nodup_cons_ids (fun known => ?_) ids.2
    have attached : r.isAttached id = true :=
      (r.isAttached_iff id).mpr (by
        rw [offers, Multiset.map_cons]
        exact Multiset.mem_cons_of_mem known)
    have differ : id ≠ old := fun h => ids.1 (by rw [same, ← h]; exact known)
    simp [differ, attached] at unknown
  cases replaces with
  | queued a b t split same =>
    have offers (u : Target) : offered { r with pending := a ++ u :: b } =
        u ::ₘ (served r.listeners + (a ++ b : List Target)) := by
      simp only [offered_eq, ← Multiset.coe_add, ← Multiset.cons_coe, Multiset.add_cons]
    have before : r.offered = t ::ₘ (served r.listeners + (a ++ b : List Target)) := by
      rw [← offers t, ← split]
    refine ⟨t, _, same, before, offers _, sound.ports, offers _ ▸ new same before _,
      sound.waiting, fun started => ?_, fun disposed => ?_⟩
    · have none := sound.running started
      simp [split] at none
    · cases alive.symm.trans disposed
  | @rebound port l t serves found target same =>
    obtain ⟨rest, before, after, keeps⟩ :=
      rebind_offered sound found (some ⟨key, id, name.getD t.name⟩)
    rw [target, serving_some, Multiset.singleton_add] at before
    rw [serving_some, Multiset.singleton_add] at after
    exact ⟨t, rest, same, before, after, keeps (after ▸ new same before _)⟩

theorem start_lost {r : Registry} {net : Network} (sound : r.Sound) (fresh : OpensUnused net.bind)
    (ok : r.start net asked = .ok (change, port)) :
    ∃ lost : List Target, r.offered = lost + change.registry.offered ∧
      (OpensAny net.bind → lost = []) ∧ change.hooks = lost.map Target.detachHook ∧
      change.registry.Sound := by
  obtain ⟨alive, stopped, opened, opensMaster, rfl⟩ := start_cases ok
  have first := startListener_opened fresh sound.ports opensMaster
  obtain ⟨started, lost, all, none, others, hooks⟩ := startEach_opened (r := { opened with
    started := true, pending := [], master := some port }) fresh first.ports r.pending.tail
  have offers : (startEach net { opened with started := true, pending := [], master := some port }
      r.pending.tail).registry.offered = serving r.pending.head? + started := by
    simp only [offered_eq, others.served, others.pending, first.served, sound.waiting stopped,
      served_nil, Multiset.coe_nil, add_zero]
    exact add_comm ..
  have waited : serving r.pending.head? + (r.pending.tail : Multiset Target) = r.offered := by
    rw [offered_eq, sound.waiting stopped, served_nil, zero_add]
    cases r.pending <;> rfl
  have split : r.offered = lost + (serving r.pending.head? + started) := by
    rw [← waited, all, add_left_comm]
  refine ⟨lost, by rw [offers, split], none, hooks, ⟨others.ports, ?_, fun not => ?_,
    fun _ => others.pending, fun disposed => ?_⟩⟩
  · rw [offers]
    exact Multiset.nodup_of_le (Multiset.map_le_map (split ▸ Multiset.le_add_left ..)) sound.ids
  · cases others.started.symm.trans not
  · cases alive.symm.trans (first.disposed.symm.trans (others.disposed.symm.trans disposed))

theorem start_offered {r : Registry} {net : Network} (sound : r.Sound)
    (fresh : OpensUnused net.bind) (ok : r.start net asked = .ok (change, port)) :
    change.registry.Sound ∧ (OpensAny net.bind → change.registry.offered = r.offered) := by
  obtain ⟨lost, split, none, -, kept⟩ := start_lost sound fresh ok
  refine ⟨kept, fun any => ?_⟩
  rw [split, none any, Multiset.coe_nil, zero_add]

-- ---------------------------------------------------------------------------
-- Ends
-- ---------------------------------------------------------------------------

theorem listenerFailed_sound {r : Registry} (sound : r.Sound) (port : Nat) :
    (r.listenerFailed port).registry.Sound := by
  cases found : r.listener? port with
  | some l => exact (stopListener_offered sound found).2
  | none =>
    simp only [listenerFailed, stopListener, found]
    exact sound

theorem stopListener_listeners (r : Registry) (port : Nat) :
    (r.stopListener port).registry.listeners = r.listeners.filter fun l => l.port ≠ port := by
  cases found : r.listener? port with
  | none =>
    have absent := List.find?_eq_none.mp found
    simp only [stopListener, found]
    exact (List.filter_eq_self.mpr fun l hl => by simpa using absent l hl).symm
  | some l => simp only [stopListener, found]

theorem stopEach_listeners (r : Registry) (ports : List Nat) :
    (r.stopEach ports).registry.listeners = r.listeners.filter fun l => l.port ∉ ports := by
  induction ports generalizing r with
  | nil => exact (List.filter_eq_self.mpr fun l _ => by simp).symm
  | cons port rest ih =>
    refine (ih (r.stopListener port).registry).trans ?_
    rw [stopListener_listeners, List.filter_filter]
    refine List.filter_congr fun l _ => ?_
    by_cases here : l.port = port <;> simp [here]

theorem stopEach_disposed (r : Registry) (ports : List Nat) :
    stopEach { r with disposed := true } ports =
      let stopped := r.stopEach ports
      { stopped with registry := { stopped.registry with disposed := true } } := by
  have one (r : Registry) (port : Nat) :
      stopListener { r with disposed := true } port =
        let stopped := r.stopListener port
        { stopped with registry := { stopped.registry with disposed := true } } := by
    cases found : r.listener? port with
    | none =>
      have absent : listener? { r with disposed := true } port = none := found
      simp only [stopListener, found, absent]
    | some l =>
      have there : listener? { r with disposed := true } port = some l := found
      simp only [stopListener, found, there]
  induction ports generalizing r with
  | nil => rfl
  | cons port ports ih => simp only [stopEach, one, ih]

theorem dispose_sound {r : Registry} (sound : r.Sound) : r.dispose.registry.Sound := by
  unfold dispose
  split
  · exact sound
  have none : (stopEach { r with disposed := true } r.ports).registry.listeners = [] := by
    rw [stopEach_listeners, List.filter_eq_nil_iff]
    intro l hl
    have here : l.port ∈ r.ports := List.mem_map_of_mem hl
    simp [here]
  refine ⟨?_, ?_, fun _ => none, fun _ => rfl, fun _ => ⟨none, rfl⟩⟩
  · rw [ports, none]
    exact .nil
  · rw [offered_eq, none]
    exact Multiset.nodup_zero

-- ---------------------------------------------------------------------------
-- Sessions
-- ---------------------------------------------------------------------------

theorem enterSession_offered {r : Registry} (sound : r.Sound)
    (entered : r.enterSession port session = some after) :
    after.offered = r.offered ∧ after.Sound := by
  unfold enterSession at entered
  split at entered <;> cases entered
  have ports : (r.listeners.map fun m =>
      if m.port = port then { m with sessions := m.sessions ++ [session] } else m).map
        Listener.port = r.listeners.map Listener.port := by
    rw [List.map_map]
    refine List.map_congr_left fun m _ => ?_
    dsimp only [Function.comp]
    split <;> rfl
  have targets : served (r.listeners.map fun m =>
      if m.port = port then { m with sessions := m.sessions ++ [session] } else m) =
        served r.listeners := by
    rw [served, List.filterMap_map]
    refine congrArg _ (List.filterMap_congr fun m _ => ?_)
    dsimp only [Function.comp]
    split <;> rfl
  have offers : offered { r with listeners := r.listeners.map fun m =>
      if m.port = port then { m with sessions := m.sessions ++ [session] } else m } =
        r.offered := by
    rw [offered_eq, offered_eq, targets]
  refine ⟨offers, ?_, offers ▸ sound.ids, fun stopped => ?_, sound.running, fun disposed => ?_⟩
  · rw [Registry.ports, ports]
    exact sound.ports
  · rw [sound.waiting stopped]
    rfl
  · obtain ⟨none, pending⟩ := sound.closed disposed
    exact ⟨by rw [none]; rfl, pending⟩

end Registry

end DebugAdapter
