import DebugAdapter.Proofs.Server.Offers

/-!
# Runs of a registry

Operations on a registry in any order, each with success or failure. Between
the start and the end of a server they change one listener at a time (`Step`).
`regular_run`: whatever is done, targets differ, the master listens, and no
other listener is without a target.
-/

namespace DebugAdapter

inductive RegistryOperation where
  | attach (net : Network) (t : Target)
  | replace (old : TargetId) (key : InstanceKey) (id : TargetId) (name : Option String)
  | detach (id : TargetId)
  | start (net : Network) (port : Nat)
  | dispose
  | listenerFailed (port : Nat)
  | enterSession (port : Nat) (session : SessionId)

def RegistryOperation.Safe : RegistryOperation → Prop
  | .attach net _ => OpensUnused net.bind
  | .start net _ => OpensUnused net.bind
  | _ => True

namespace Registry

def attempt (r : Registry) : RegistryOperation → Except RegistryFailure Registry
  | .attach net t => (r.attach net t).map fun result => result.1.registry
  | .replace old key id name => (r.replace old key id name).map fun result => result.1.registry
  | .detach id => (r.detach id).map RegistryChange.registry
  | .start net port => (r.start net port).map fun result => result.1.registry
  | .dispose => .ok r.dispose.registry
  | .listenerFailed port => .ok (r.listenerFailed port).registry
  | .enterSession port session => .ok ((r.enterSession port session).getD r)

def after (r : Registry) (op : RegistryOperation) : Registry :=
  match r.attempt op with
  | .ok next => next
  | .error _ => r

def run (r : Registry) (ops : List RegistryOperation) : Registry := ops.foldl after r

def StartsIn (r : Registry) (ops : List RegistryOperation) : Prop :=
  ∃ earlier net port later next, ops = earlier ++ .start net port :: later ∧
    (r.run earlier).attempt (.start net port) = .ok next

inductive Step (r : Registry) : Registry → Prop
  | queue (pending : List Target) : Step r { r with pending }
  | rebind : target.isSome ∨ r.master = some port → Step r (r.rebind port target).registry
  | stop (port : Nat) : Step r (r.stopListener port).registry
  | opens : OpensUnused net.bind → r.startListener net asked (some t) = .ok (opened, port) →
    Step r opened
  | enter : r.enterSession port session = some entered → Step r entered

/-- The master listens, and of all listeners only the master may serve no target. -/
structure Led (r : Registry) : Prop where
  listens : ∀ port, r.master = some port → port ∈ r.ports
  idle : ∀ l ∈ r.listeners, l.target = none → r.master = some l.port

-- ---------------------------------------------------------------------------
-- Steps
-- ---------------------------------------------------------------------------

theorem led_empty : empty.Led := ⟨nofun, nofun⟩

variable {r next : Registry}

theorem Led.map (led : r.Led) {f : Listener → Listener} (ports : ∀ l, (f l).port = l.port)
    (idle : ∀ l ∈ r.listeners, (f l).target = none → l.target = none ∨ r.master = some l.port) :
    Led { r with listeners := r.listeners.map f } where
  listens port master := by
    obtain ⟨l, hl, rfl⟩ := List.mem_map.mp (led.listens port master)
    exact List.mem_map.mpr ⟨f l, List.mem_map_of_mem hl, ports l⟩
  idle m hm none := by
    obtain ⟨l, hl, rfl⟩ := List.mem_map.mp hm
    show r.master = some (f l).port
    rw [ports]
    obtain none | master := idle l hl none
    · exact led.idle l hl none
    · exact master

theorem led_opened {net : Network} (fresh : OpensUnused net.bind)
    (opens : r.startListener net asked target = .ok (opened, port)) :
    opened = { r with listeners := insertListener ⟨port, target, []⟩ r.listeners } ∧
      (insertListener ⟨port, target, []⟩ r.listeners).Perm (⟨port, target, []⟩ :: r.listeners) := by
  obtain ⟨available, rfl⟩ := startListener_cases opens
  exact ⟨rfl, insertListener_perm (fresh _ _ _ available)⟩

theorem Step.led (step : r.Step next) (led : r.Led) : next.Led := by
  cases step with
  | queue pending => exact ⟨led.listens, led.idle⟩
  | rebind serves =>
    rename_i port target
    unfold Registry.rebind
    split
    · exact led
    · refine led.map (fun l => by split <;> rfl) fun l _ none => ?_
      split at none
      · rename_i here
        obtain serves | master := serves
        · simp [show target = Option.none from none] at serves
        · exact .inr (here ▸ master)
      · exact .inl none
  | stop port =>
    unfold stopListener
    split
    · exact led
    · constructor
      · intro p master
        split at master
        · cases master
        · rename_i other
          obtain ⟨l, hl, rfl⟩ := List.mem_map.mp (led.listens p master)
          have apart : l.port ≠ port := fun same => other (same ▸ master)
          exact List.mem_map_of_mem (List.mem_filter.mpr ⟨hl, by simpa using apart⟩)
      · intro l hl none
        obtain ⟨hl, apart⟩ := List.mem_filter.mp hl
        have master := led.idle l hl none
        have others : l.port ≠ port := by simpa using apart
        simp [master, others]
  | opens fresh opens =>
    obtain ⟨rfl, perm⟩ := led_opened fresh opens
    constructor
    · intro p master
      obtain ⟨l, hl, rfl⟩ := List.mem_map.mp (led.listens p master)
      exact List.mem_map.mpr ⟨l, perm.symm.subset (List.mem_cons_of_mem _ hl), rfl⟩
    · intro l hl none
      obtain rfl | hl := List.mem_cons.mp (perm.subset hl)
      · cases none
      · exact led.idle l hl none
  | enter entered =>
    unfold enterSession at entered
    split at entered <;> cases entered
    refine led.map (fun l => by split <;> rfl) fun l _ none => .inl ?_
    split at none <;> exact none

theorem Step.flags (step : r.Step next) :
    next.started = r.started ∧ next.disposed = r.disposed := by
  cases step with
  | queue pending => exact ⟨rfl, rfl⟩
  | rebind _ =>
    unfold Registry.rebind
    split <;> exact ⟨rfl, rfl⟩
  | stop port =>
    unfold stopListener
    split <;> exact ⟨rfl, rfl⟩
  | opens fresh opens =>
    obtain ⟨rfl, -⟩ := led_opened fresh opens
    exact ⟨rfl, rfl⟩
  | enter entered =>
    unfold enterSession at entered
    split at entered <;> cases entered
    exact ⟨rfl, rfl⟩

-- ---------------------------------------------------------------------------
-- Operations
-- ---------------------------------------------------------------------------

theorem attach_step {net : Network} (fresh : OpensUnused net.bind)
    (ok : r.attach net t = .ok (change, port)) : r.Step change.registry := by
  obtain ⟨-, -, attaches⟩ := attach_cases ok
  cases attaches with
  | queued => exact .queue _
  | rebound => exact .rebind (.inl rfl)
  | opened _ _ opens => exact .opens fresh opens

theorem replace_step {id : TargetId} (sound : r.Sound)
    (ok : r.replace old key id name = .ok (change, port)) : r.Step change.registry := by
  obtain ⟨-, -, replaces⟩ := replace_cases sound ok
  cases replaces with
  | queued => exact .queue _
  | rebound => exact .rebind (.inl rfl)

theorem detach_step {id : TargetId} (sound : r.Sound) (ok : r.detach id = .ok change) :
    r.Step change.registry := by
  obtain ⟨-, detaches⟩ := detach_cases sound ok
  cases detaches with
  | unqueued => exact .queue _
  | unbound _ master => exact .rebind (.inr master)
  | stopped => exact .stop _

theorem startEach_keeps {net : Network} (fresh : OpensUnused net.bind) {P : Registry → Prop}
    (keeps : ∀ {r next : Registry}, r.Step next → P r → P next) (ts : List Target) (h : P r) :
    P (startEach net r ts).registry := by
  induction ts generalizing r with
  | nil => exact h
  | cons t ts ih =>
    cases opens : r.startListener net 0 (some t) with
    | ok result =>
      simp only [startEach, opens]
      exact ih (keeps (.opens fresh opens) h)
    | error failure =>
      simp only [startEach, opens]
      exact ih h

theorem stopEach_keeps {P : Registry → Prop}
    (keeps : ∀ {r next : Registry}, r.Step next → P r → P next) (ports : List Nat) (h : P r) :
    P (r.stopEach ports).registry := by
  induction ports generalizing r with
  | nil => exact h
  | cons port ports ih => exact ih (keeps (.stop port) h)

theorem start_led {net : Network} (sound : r.Sound) (fresh : OpensUnused net.bind)
    (ok : r.start net asked = .ok (change, port)) :
    change.registry.Led ∧ change.registry.started = true ∧
      change.registry.disposed = r.disposed := by
  obtain ⟨-, stopped, opened, opens, rfl⟩ := start_cases ok
  have none : r.listeners = [] := sound.waiting stopped
  obtain ⟨rfl, -⟩ := led_opened fresh opens
  have single : Led { r with
      listeners := insertListener ⟨port, r.pending.head?, []⟩ r.listeners
      started := true, pending := [], master := some port } := by
    rw [none]
    constructor
    · intro p master
      cases master
      exact List.mem_singleton_self _
    · intro l hl _
      obtain rfl := List.mem_singleton.mp hl
      rfl
  refine ⟨startEach_keeps fresh Step.led _ single, ?_⟩
  refine startEach_keeps fresh (P := fun next => next.started = true ∧
    next.disposed = r.disposed) (fun step flags => ?_) _ ⟨rfl, rfl⟩
  obtain ⟨started, disposed⟩ := step.flags
  rwa [started, disposed]

theorem dispose_led (led : r.Led) :
    r.dispose.registry.Led ∧ r.dispose.registry.started = r.started ∧
      r.dispose.registry.disposed = true := by
  unfold dispose
  split
  · rename_i disposed
    exact ⟨led, rfl, disposed⟩
  · have closed : Led { r with disposed := true } := ⟨led.listens, led.idle⟩
    have stopped := stopEach_keeps Step.led r.ports closed
    refine ⟨⟨stopped.listens, stopped.idle⟩, ?_⟩
    refine stopEach_keeps (P := fun next => next.started = r.started ∧ next.disposed = true)
      (fun step flags => ?_) r.ports ⟨rfl, rfl⟩
    obtain ⟨started, disposed⟩ := step.flags
    rwa [started, disposed]

/-- A registry between two operations, of which is known whether it has been
started and whether it has been disposed. -/
structure Regular (r : Registry) (begun ended : Prop) : Prop where
  sound : r.Sound
  led : r.Led
  started : r.started = true ↔ begun
  disposed : r.disposed = true ↔ ended

theorem regular_empty : empty.Regular False False :=
  ⟨sound_empty, led_empty, by simp [empty], by simp [empty]⟩

variable {begun ended : Prop}

theorem Regular.step (regular : r.Regular begun ended) (sound : next.Sound)
    (step : r.Step next) : next.Regular begun ended := by
  obtain ⟨same, ends⟩ := step.flags
  exact ⟨sound, step.led regular.led, same ▸ regular.started, ends ▸ regular.disposed⟩

theorem map_eq_ok {x : Except ε α} {f : α → β} : x.map f = .ok b ↔ ∃ a, x = .ok a ∧ f a = b := by
  cases x <;> simp [Except.map]

theorem attempt_regular (regular : r.Regular begun ended) {op : RegistryOperation}
    (safe : op.Safe) (ok : r.attempt op = .ok next) :
    next.Regular (begun ∨ ∃ net port, op = .start net port) (ended ∨ op = .dispose) := by
  have sound := regular.sound
  cases op with
  | attach net t =>
    obtain ⟨⟨change, port⟩, made, rfl⟩ := map_eq_ok.mp ok
    obtain ⟨-, -, kept⟩ := attach_offered sound safe made
    simpa using regular.step kept (attach_step safe made)
  | replace old key id name =>
    obtain ⟨⟨change, port⟩, made, rfl⟩ := map_eq_ok.mp ok
    obtain ⟨_, _, -, -, -, kept⟩ := replace_offered sound made
    simpa using regular.step kept (replace_step sound made)
  | detach id =>
    obtain ⟨change, made, rfl⟩ := map_eq_ok.mp ok
    obtain ⟨_, -, -, kept, -⟩ := detach_offered sound made
    simpa using regular.step kept (detach_step sound made)
  | start net asked =>
    obtain ⟨⟨change, port⟩, made, rfl⟩ := map_eq_ok.mp ok
    obtain ⟨kept, -⟩ := start_offered sound safe made
    obtain ⟨led, started, same⟩ := start_led sound safe made
    refine ⟨kept, led, by simpa using started, ?_⟩
    rw [same, regular.disposed]
    simp
  | dispose =>
    cases ok
    obtain ⟨led, same, disposed⟩ := dispose_led regular.led
    exact ⟨dispose_sound sound, led, by simp [same, regular.started], by simp [disposed]⟩
  | listenerFailed port =>
    cases ok
    simpa using regular.step (listenerFailed_sound sound port) (.stop port)
  | enterSession port session =>
    cases ok
    cases entered : r.enterSession port session with
    | none => simpa using regular
    | some left => simpa using regular.step (enterSession_offered sound entered).2 (.enter entered)

theorem after_regular (regular : r.Regular begun ended) {op : RegistryOperation} (safe : op.Safe) :
    (r.after op).Regular
      (begun ∨ ∃ net port next, op = .start net port ∧ r.attempt op = .ok next)
      (ended ∨ op = .dispose) := by
  unfold after
  cases outcome : r.attempt op with
  | ok next => simpa [outcome] using attempt_regular regular safe outcome
  | error failure =>
    have others : op ≠ .dispose := by
      rintro rfl
      cases outcome
    simpa [outcome, others] using regular

-- ---------------------------------------------------------------------------
-- Runs
-- ---------------------------------------------------------------------------

theorem startsIn_nil (r : Registry) : ¬r.StartsIn [] := by
  rintro ⟨earlier, net, port, later, next, split, -⟩
  simp at split

theorem startsIn_cons (r : Registry) (op : RegistryOperation) (ops : List RegistryOperation) :
    r.StartsIn (op :: ops) ↔
      (∃ net port next, op = .start net port ∧ r.attempt op = .ok next) ∨
        (r.after op).StartsIn ops := by
  constructor
  · rintro ⟨earlier, net, port, later, next, split, ok⟩
    cases earlier with
    | nil =>
      cases split
      exact .inl ⟨net, port, next, rfl, ok⟩
    | cons first earlier =>
      cases split
      exact .inr ⟨earlier, net, port, later, next, rfl, ok⟩
  · rintro (⟨net, port, next, rfl, ok⟩ | ⟨earlier, net, port, later, next, rfl, ok⟩)
    · exact ⟨[], net, port, ops, next, rfl, ok⟩
    · exact ⟨op :: earlier, net, port, later, next, rfl, ok⟩

theorem regular_run {ops : List RegistryOperation} (regular : r.Regular begun ended)
    (safe : ∀ op ∈ ops, op.Safe) :
    (r.run ops).Regular (begun ∨ r.StartsIn ops) (ended ∨ .dispose ∈ ops) := by
  induction ops generalizing r begun ended with
  | nil => simpa [startsIn_nil, run] using regular
  | cons op ops ih =>
    obtain ⟨first, others⟩ := List.forall_mem_cons.mp safe
    have tail := ih (after_regular regular first) others
    rw [or_assoc, ← startsIn_cons] at tail
    show ((r.after op).run ops).Regular _ _
    simpa [or_assoc, eq_comm] using tail

/-- Whatever is done to a registry from its beginning, with whatever outcome:
targets that wait or are served all differ; the master listens, and no other
listener is without a target; there are no listeners before the start and
nothing waits after it; at the end there is nothing left. -/
theorem registry_invariant (ops : List RegistryOperation) (safe : ∀ op ∈ ops, op.Safe) :
    let r := empty.run ops
    ((r.pending ++ r.listeners.filterMap Listener.target).map Target.id).Nodup ∧
      (∀ port, r.master = some port → port ∈ r.ports) ∧
      (∀ l ∈ r.listeners, l.target = none → r.master = some l.port) ∧
      (¬empty.StartsIn ops → r.listeners = []) ∧
      (empty.StartsIn ops → r.pending = []) ∧
      (.dispose ∈ ops → r.listeners = [] ∧ r.pending = [] ∧ r.master = none) := by
  intro r
  have regular : r.Regular (False ∨ empty.StartsIn ops) (False ∨ .dispose ∈ ops) :=
    regular_run regular_empty safe
  simp only [false_or] at regular
  obtain ⟨sound, led, started, disposed⟩ := regular
  refine ⟨?_, led.listens, led.idle, fun before => ?_, fun begins => ?_, fun ends => ?_⟩
  · have ids := sound.ids
    rw [offered_eq, add_comm] at ids
    exact Multiset.coe_nodup.mp ids
  · refine sound.waiting ?_
    simpa using fun running => before (started.mp running)
  · exact sound.running (started.mpr begins)
  · obtain ⟨closed, pending⟩ := sound.closed (disposed.mpr ends)
    refine ⟨closed, pending, ?_⟩
    cases master : r.master with
    | none => rfl
    | some port =>
      have listens := led.listens port master
      rw [ports, closed] at listens
      cases listens

/-- A target comes twice and is refused once; the other one has a listener of its
own, and the master stays open when its target is withdrawn. -/
theorem master_outlives_target :
    let net : Network := ⟨.v4 127 0 0 1, freePorts⟩
    let ops : List RegistryOperation := [.attach net ⟨11, 1, "a"⟩, .attach net ⟨12, 2, "b"⟩,
      .attach net ⟨13, 1, "c"⟩, .start net 4711, .detach 1]
    let r := empty.run ops
    r.listeners = [⟨4711, none, []⟩, ⟨37479, some ⟨12, 2, "b"⟩, []⟩] ∧
      r.master = some 4711 ∧ r.pending = [] := by
  intro net ops r
  have safe : ∀ op ∈ ops, op.Safe := by
    simp [ops, RegistryOperation.Safe, net, freePorts_unused]
  obtain ⟨-, -, idle, -, started, -⟩ := registry_invariant ops safe
  have listeners : r.listeners = [⟨4711, none, []⟩, ⟨37479, some ⟨12, 2, "b"⟩, []⟩] := by
    decide +kernel
  refine ⟨listeners, ?_, ?_⟩
  · refine idle ⟨4711, none, []⟩ ?_ rfl
    rw [show (empty.run ops).listeners = _ from listeners]
    exact List.mem_cons_self ..
  · exact started ⟨[.attach net ⟨11, 1, "a"⟩, .attach net ⟨12, 2, "b"⟩,
      .attach net ⟨13, 1, "c"⟩], net, 4711, [.detach 1], _, rfl, rfl⟩

end Registry

end DebugAdapter
