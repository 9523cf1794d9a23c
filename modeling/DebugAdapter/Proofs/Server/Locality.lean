import DebugAdapter.Proofs.Server.Lineup
import DebugAdapter.Proofs.Server.Restarts

/-!
# Operations on one target

An attachment, a replacement or a withdrawal that succeeds changes the list of
targets at one place: a target comes, a target goes, or one takes the place of
another (`Touches`). The sessions that it ends are those of the target that
goes, so that other targets and their clients do not notice (`Spares`).
-/

namespace DebugAdapter

namespace Registry

variable {r : Registry}

-- ---------------------------------------------------------------------------
-- The list of targets
-- ---------------------------------------------------------------------------

def bound (ls : List Listener) : List (Target × Option Nat) :=
  ls.filterMap fun l => l.target.map fun t => (t, some l.port)

theorem targets_eq (r : Registry) :
    r.targets = bound r.listeners ++ r.pending.map fun t => (t, none) := rfl

theorem bound_append (a b : List Listener) : bound (a ++ b) = bound a ++ bound b :=
  List.filterMap_append

theorem bound_cons (l : Listener) (ls : List Listener) :
    bound (l :: ls) = (l.target.toList.map fun t => (t, some l.port)) ++ bound ls := by
  cases target : l.target <;> simp [bound, target]

theorem insertListener_split {l : Listener} {ls : List Listener}
    (new : l.port ∉ ls.map Listener.port) :
    ∃ a b, ls = a ++ b ∧ insertListener l ls = a ++ l :: b := by
  induction ls with
  | nil => exact ⟨[], [], rfl, rfl⟩
  | cons m rest ih =>
    rw [List.map_cons, List.mem_cons, not_or] at new
    unfold insertListener
    split
    · exact ⟨[], m :: rest, rfl, rfl⟩
    · obtain ⟨a, b, rfl, inserted⟩ := ih new.2
      rw [if_neg new.1, inserted]
      exact ⟨m :: a, b, rfl, rfl⟩

/-- At one place in the list of targets some go and some come; the listeners that
give up their sessions serve none but those that go. -/
structure Touches (r : Registry) (change : RegistryChange)
    (gone come : List (Target × Option Nat)) : Prop where
  place : ∃ a b, r.targets = a ++ (gone ++ b) ∧ change.registry.targets = a ++ (come ++ b)
  turns : ∃ ports restart, r.Turns change ports restart ∧
    ∀ l ∈ r.listeners, l.port ∈ ports → ∀ t, l.target = some t → (t, some l.port) ∈ gone

theorem Touches.others (touches : r.Touches change gone come) {named : List TargetId}
    (goes : ∀ e ∈ gone, e.1.id ∈ named) (comes : ∀ e ∈ come, e.1.id ∈ named) :
    (change.registry.targets.filter fun e => e.1.id ∉ named) =
      r.targets.filter fun e => e.1.id ∉ named := by
  have none {es : List (Target × Option Nat)} (all : ∀ e ∈ es, e.1.id ∈ named) :
      (es.filter fun e => e.1.id ∉ named) = [] :=
    List.filter_eq_nil_iff.mpr fun e he => by simp [all e he]
  obtain ⟨a, b, before, after⟩ := touches.place
  simp only [before, after, List.filter_append, none goes, none comes]

theorem queue_touches {a b : List Target} (gone come : List Target)
    (split : r.pending = a ++ (gone ++ b)) (hooks : List (InstanceKey × Call)) :
    r.Touches ⟨{ r with pending := a ++ (come ++ b) }, hooks, []⟩
      (gone.map fun t => (t, none)) (come.map fun t => (t, none)) where
  place := by
    refine ⟨bound r.listeners ++ a.map fun t => (t, none), b.map fun t => (t, none), ?_, ?_⟩
    · simp [targets_eq, split]
    · simp [targets_eq]
  turns := ⟨[], false, .untouched (by rfl) (by rfl) _,
    fun _ _ none => absurd none List.not_mem_nil⟩

theorem rebind_touches (sound : r.Sound) (found : r.listener? port = some l)
    (target : Option Target) :
    r.Touches (r.rebind port target) (l.target.toList.map fun t => (t, some port))
      (target.toList.map fun t => (t, some port)) := by
  obtain ⟨a, b, split, here, changed⟩ := rebind_split sound found target
  refine ⟨⟨bound a, bound b ++ r.pending.map fun t => (t, none), ?_, ?_⟩,
    [port], true, rebind_turns sound found target, fun m hm turned t serves => ?_⟩
  · simp [targets_eq, split, bound_append, bound_cons, here]
  · simp [targets_eq, changed, bound_append, bound_cons]
  · have there := ((listener?_iff sound.ports).mp found).1
    have same : m.port = port := List.mem_singleton.mp turned
    obtain rfl := List.inj_on_of_nodup_map sound.ports hm there (same.trans here.symm)
    simp [serves, same]

theorem stopListener_touches (sound : r.Sound) (found : r.listener? port = some l) :
    r.Touches (r.stopListener port) (l.target.toList.map fun t => (t, some port)) [] := by
  obtain ⟨a, b, split, here, left⟩ := stopListener_split sound found
  refine ⟨⟨bound a, bound b ++ r.pending.map fun t => (t, none), ?_, ?_⟩,
    [port], false, stopListener_turns sound.ports port, fun m hm turned t serves => ?_⟩
  · simp [targets_eq, split, bound_append, bound_cons, here]
  · simp only [stopListener, found, targets_eq, left, bound_append, List.append_assoc]
    rfl
  · have there := ((listener?_iff sound.ports).mp found).1
    have same : m.port = port := List.mem_singleton.mp turned
    obtain rfl := List.inj_on_of_nodup_map sound.ports hm there (same.trans here.symm)
    simp [serves, same]

theorem opened_touches {net : Network} (fresh : OpensUnused net.bind)
    (opens : r.startListener net asked (some t) = .ok (opened, port))
    (hooks : List (InstanceKey × Call)) :
    r.Touches ⟨opened, hooks, []⟩ [] [(t, some port)] := by
  refine ⟨?_, [], false, opened_turns fresh opens hooks _,
    fun _ _ none => absurd none List.not_mem_nil⟩
  obtain ⟨available, rfl⟩ := startListener_cases opens
  obtain ⟨a, b, split, inserted⟩ :=
    insertListener_split (l := ⟨port, some t, []⟩) (fresh _ _ _ available)
  refine ⟨bound a, bound b ++ r.pending.map fun t => (t, none), ?_, ?_⟩
  · simp [targets_eq, split, bound_append]
  · simp [targets_eq, inserted, bound_append, bound_cons]

-- ---------------------------------------------------------------------------
-- Operations
-- ---------------------------------------------------------------------------

theorem ports_rebind (r : Registry) (port : Nat) (target : Option Target) :
    (r.rebind port target).registry.ports = r.ports := by
  unfold rebind
  split
  · rfl
  · simp only [ports, List.map_map]
    refine List.map_congr_left fun m _ => ?_
    dsimp only [Function.comp]
    split <;> rfl

theorem attach_touches {net : Network} (sound : r.Sound) (fresh : OpensUnused net.bind)
    (ok : r.attach net t = .ok (change, port)) : r.Touches change [] [(t, port)] := by
  obtain ⟨-, -, attaches⟩ := attach_cases ok
  cases attaches with
  | queued stopped =>
    have queue := queue_touches (r := r) (a := r.pending) (b := []) [] [t] (by simp) [t.attachHook]
    simpa using queue
  | rebound started free =>
    obtain ⟨l, found, idle⟩ := listener?_of_freeMaster? free
    simpa [idle] using rebind_touches sound found (some t)
  | opened started busy opens => exact opened_touches fresh opens _

theorem attach_ports {net : Network} (fresh : OpensUnused net.bind)
    (ok : r.attach net t = .ok (change, port)) :
    if r.started = true ∧ r.freeMaster? = none then
      ∃ new, port = some new ∧ new ∉ r.ports ∧ change.registry.ports.Perm (new :: r.ports)
    else change.registry.ports = r.ports := by
  obtain ⟨-, -, attaches⟩ := attach_cases ok
  cases attaches with
  | queued stopped => rw [if_neg (by simp [stopped]), ports, ports]
  | rebound started free => rw [if_neg (by simp [free]), ports_rebind]
  | @opened opened new started busy opens =>
    rw [if_pos ⟨started, busy⟩]
    obtain ⟨available, -⟩ := startListener_cases opens
    obtain ⟨rfl, perm⟩ := led_opened fresh opens
    exact ⟨new, rfl, fresh _ _ _ available, perm.map Listener.port⟩

theorem replace_touches {id : TargetId} (sound : r.Sound)
    (ok : r.replace old key id name = .ok (change, port)) :
    ∃ u, u.id = old ∧ r.Touches change [(u, port)] [(⟨key, id, name.getD u.name⟩, port)] ∧
      change.registry.ports = r.ports := by
  obtain ⟨-, -, replaces⟩ := replace_cases sound ok
  cases replaces with
  | queued a b u split same =>
    exact ⟨u, same, queue_touches [u] [_] split _, rfl⟩
  | @rebound port l u serves found target same =>
    refine ⟨u, same, ?_, ports_rebind ..⟩
    simpa [target] using rebind_touches sound found (some ⟨key, id, name.getD u.name⟩)

theorem detach_touches {id : TargetId} (sound : r.Sound) (ok : r.detach id = .ok change) :
    ∃ u port, u.id = id ∧ r.Touches change [(u, port)] [] ∧
      change.registry.ports = r.ports.filter fun p => some p ≠ port ∨ some p = r.master := by
  have all {port : Option Nat} (kept : ∀ p, some p ≠ port ∨ some p = r.master) :
      r.ports = r.ports.filter fun p => some p ≠ port ∨ some p = r.master :=
    (List.filter_eq_self.mpr fun p _ => by simpa using kept p).symm
  obtain ⟨-, detaches⟩ := detach_cases sound ok
  cases detaches with
  | unqueued a b u split same =>
    exact ⟨u, none, same, queue_touches [u] [] split _, all (by simp)⟩
  | @unbound port l u serves master found target same =>
    refine ⟨u, some port, same, ?_, (ports_rebind ..).trans (all fun p => ?_)⟩
    · simpa [target] using rebind_touches sound found none
    · rw [master]
      exact (em _).symm
  | @stopped port l u serves others found target same =>
    refine ⟨u, some port, same, ?_, ?_⟩
    · simpa [target] using stopListener_touches sound found
    · rw [ports, stopListener_listeners, ports, List.filter_map]
      refine congrArg (List.map Listener.port) (List.filter_congr fun m _ => ?_)
      have other : m.port = port → some m.port ≠ r.master := fun here leads =>
        others (leads.symm.trans (congrArg some here))
      by_cases here : m.port = port
      · simp [here, here ▸ other here]
      · simp [here]

theorem detach_master {id : TargetId} (sound : r.Sound) (ok : r.detach id = .ok change) :
    change.registry.master = r.master := by
  obtain ⟨-, detaches⟩ := detach_cases sound ok
  cases detaches with
  | unqueued => rfl
  | unbound => exact master_rebind ..
  | @stopped port l u serves others found => simp [stopListener, found, others]

end Registry

namespace Server

variable {s : Server}

/-- Targets other than those named stay what they are and where they are, and nothing
happens to their sessions. -/
structure Spares (named : List TargetId) (s t : Server) (a : Activity) : Prop where
  targets : (t.registry.targets.filter fun e => e.1.id ∉ named) =
    s.registry.targets.filter fun e => e.1.id ∉ named
  sessions : ∀ j session u, s.hub.session? j = some session → session.target = some u →
    u.id ∉ named → t.hub.session? j = some session ∧ itemsFor j a.sent = []

theorem applyResult_ok {result : Except RegistryFailure (RegistryChange × α)}
    (ok : s.applyResult result = (after, activity, .ok a)) :
    ∃ change, result = .ok (change, a) ∧ s.apply change = (after, activity) := by
  cases result with
  | error e => cases ok
  | ok success =>
    cases ok
    exact ⟨_, rfl, rfl⟩

theorem apply_others (serving : s.Serving) (turns : s.registry.Turns change ports restart)
    (its : s.hub.session? j = some session)
    (apart : session.terminated = false → session.port ∉ ports) :
    (s.apply change).1.hub.session? j = some session ∧
      itemsFor j (s.apply change).2.sent = [] := by
  have flags : ∀ e ∈ change.endings, e.2 = restart := fun e he => ((turns.endings e).mp he).1
  obtain ⟨left, queued⟩ := Hub.terminateAll_session flags its
  have sent := (deliverAll_connection
    { s with registry := change.registry, hub := (s.hub.terminateAll change.endings).1 }
    (s.hub.terminateAll change.endings).2.queued j).2
  have ended : session.terminated = false → decide (j ∈ change.endings.map Prod.fst) = false :=
    fun live => by simpa using mt (serving.ending turns its live).mp (apart live)
  generalize decide (j ∈ change.endings.map Prod.fst) = ending at left queued ended
  have flag : (session.terminated || ending) = session.terminated := by
    cases live : session.terminated with
    | true => rfl
    | false => exact ended live
  have nothing : (!session.terminated && ending) = false := by
    cases live : session.terminated with
    | true => rfl
    | false => exact ended live
  rw [flag] at left
  rw [queued, nothing] at sent
  refine ⟨(congrArg (Hub.session? · j) (settle_hub ..)).trans left, sent.trans ?_⟩
  cases connection? { s with registry := change.registry
                             hub := (s.hub.terminateAll change.endings).1 } j <;> rfl

theorem spares_of_touches (named : List TargetId) (serving : s.Serving)
    (touches : s.registry.Touches change gone come) (goes : ∀ e ∈ gone, e.1.id ∈ named)
    (comes : ∀ e ∈ come, e.1.id ∈ named) (applied : s.apply change = (after, activity)) :
    Spares named s after activity ∧ after.registry = change.registry := by
  have registry : after.registry = change.registry := by
    rw [← registry_apply s change, applied]
  refine ⟨⟨?_, fun j session u its target other => ?_⟩, registry⟩
  · rw [registry]
    exact touches.others goes comes
  · obtain ⟨ports, restart, turns, those⟩ := touches.turns
    have kept := apply_others serving turns its
    rw [applied] at kept
    refine kept fun live turned => other ?_
    obtain ⟨l, hl, -, port, served⟩ := serving.listener its live
    exact goes _ (those l hl (port ▸ turned) u (served.trans target))

/-- Whatever has been done to a server before, an operation that succeeds touches the
targets that it names and no others. A target that comes in place of another has its
place, its port and, unless one is given, its name. The ports stay the same, except
that an attachment opens one if the server runs and its master is taken, and a
withdrawal closes the target's own. -/
theorem operations_touch_one_target {chosen : Settings} {traced : Tracing}
    (created : create chosen traced debuggees = .ok s) (events : List ServerEvent)
    (safe : ∀ e ∈ events, e.Safe) :
    let before := (s.run events).1
    (∀ bind t after activity port, OpensUnused bind →
      before.attach (before.network bind) t = (after, activity, .ok port) →
        Spares [t.id] before after activity ∧
        (∃ a b, before.registry.targets = a ++ b ∧
          after.registry.targets = a ++ (t, port) :: b) ∧
        after.registry.master = before.registry.master ∧
        if before.registry.started = true ∧ before.registry.freeMaster? = none then
          ∃ new, port = some new ∧ new ∉ before.registry.ports ∧
            after.registry.ports.Perm (new :: before.registry.ports)
        else after.registry.ports = before.registry.ports) ∧
    (∀ old key id name after activity port,
      before.replace old key id name = (after, activity, .ok port) →
        Spares [old, id] before after activity ∧
        (∃ a u b, u.id = old ∧ before.registry.targets = a ++ (u, port) :: b ∧
          after.registry.targets = a ++ (⟨key, id, name.getD u.name⟩, port) :: b) ∧
        after.registry.master = before.registry.master ∧
        after.registry.ports = before.registry.ports) ∧
    (∀ id after activity, before.detach id = (after, activity, .ok ()) →
      Spares [id] before after activity ∧
      (∃ a u port b, u.id = id ∧ before.registry.targets = a ++ (u, port) :: b ∧
        after.registry.targets = a ++ b ∧
        after.registry.ports = before.registry.ports.filter fun p =>
          some p ≠ port ∨ some p = before.registry.master) ∧
      after.registry.master = before.registry.master) := by
  intro before
  have serving : before.Serving := ((serving_create created).run safe).1
  have sound := serving.regular.sound
  refine ⟨fun bind t after activity port fresh ok => ?_,
    fun old key id name after activity port ok => ?_, fun id after activity ok => ?_⟩
  · obtain ⟨change, made, applied⟩ := applyResult_ok ok
    have touches := Registry.attach_touches sound fresh made
    obtain ⟨spares, registry⟩ := spares_of_touches [t.id] serving touches (by simp) (by simp) applied
    obtain ⟨a, b, place, place'⟩ := touches.place
    rw [registry]
    exact ⟨spares, ⟨a, b, place, place'⟩, Registry.attach_master made,
      Registry.attach_ports fresh made⟩
  · obtain ⟨change, made, applied⟩ := applyResult_ok ok
    obtain ⟨u, its, touches, ports⟩ := Registry.replace_touches sound made
    obtain ⟨spares, registry⟩ :=
      spares_of_touches [old, id] serving touches (by simp [its]) (by simp) applied
    obtain ⟨a, b, place, place'⟩ := touches.place
    rw [registry]
    exact ⟨spares, ⟨a, u, b, its, place, place'⟩, Registry.replace_master sound made, ports⟩
  · obtain ⟨change, made, applied⟩ := applyResult_ok ok
    obtain ⟨_, made, same⟩ := Registry.map_eq_ok.mp made
    cases same
    obtain ⟨u, port, its, touches, ports⟩ := Registry.detach_touches sound made
    obtain ⟨spares, registry⟩ :=
      spares_of_touches [id] serving touches (by simp [its]) (by simp) applied
    obtain ⟨a, b, place, place'⟩ := touches.place
    rw [registry]
    exact ⟨spares, ⟨a, u, port, b, its, place, place', ports⟩, Registry.detach_master sound made⟩

/-- Beside a target on the master's port another one comes, or the second one is
replaced or withdrawn; the client of the first does not notice. -/
theorem neighbour_not_noticed :
    let opening : List ServerEvent := [.attach freePorts ⟨11, 1, "a"⟩,
      .attach freePorts ⟨12, 2, "b"⟩, .start freePorts, .connect 41912 "1st", .connect 74680 "2nd"]
    let before := (idleServer.run opening).1
    let attached := before.attach (before.network freePorts) ⟨13, 3, "c"⟩
    let replaced := before.replace 2 13 7 none
    let detached := before.detach 2
    before.registry.ports = [41912, 74680] ∧
      (itemsFor 0 attached.2.1.sent = [] ∧
        ∃ new, attached.1.registry.ports.Perm [new, 41912, 74680]) ∧
      (itemsFor 0 replaced.2.1.sent = [] ∧ replaced.1.registry.ports = [41912, 74680]) ∧
      itemsFor 0 detached.2.1.sent = [] ∧ detached.1.registry.master = some 41912 := by
  intro opening before attached replaced detached
  have safe : ∀ e ∈ opening, e.Safe := by simp [opening, ServerEvent.Safe, freePorts_unused]
  obtain ⟨attaches, replaces, detaches⟩ :=
    operations_touch_one_target create_idleServer opening safe
  have ports : before.registry.ports = [41912, 74680] := by decide +kernel
  have silent {named : List TargetId} {after : Server} {activity : Activity}
      (spares : Spares named before after activity) (other : 1 ∉ named) :
      itemsFor 0 activity.sent = [] :=
    (spares.sessions 0 _ ⟨11, 1, "a"⟩ rfl rfl other).2
  have busy : before.registry.started = true ∧ before.registry.freeMaster? = none := by
    decide +kernel
  obtain ⟨spares, -, -, opens⟩ := attaches freePorts ⟨13, 3, "c"⟩ _ _ _ freePorts_unused rfl
  rw [if_pos busy] at opens
  obtain ⟨new, -, -, perm⟩ := opens
  obtain ⟨spares', -, -, stay⟩ := replaces 2 13 7 none _ _ _ rfl
  obtain ⟨spares'', -, master⟩ := detaches 2 _ _ rfl
  exact ⟨ports, ⟨silent spares (by decide), new, ports ▸ perm⟩,
    ⟨silent spares' (by decide), stay.trans ports⟩, silent spares'' (by decide),
    master.trans (by decide +kernel)⟩

end Server

end DebugAdapter
