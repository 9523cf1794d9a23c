import DebugAdapter.Proofs.InPlace
import DebugAdapter.Proofs.Server.Disposal

/-!
# Operations that fail

An operation works on the one registry that there is. The start takes the queue
apart before it knows whether the master's port opens, and an attachment tells
the debuggee before there is a listener for it. Written down step by step
(`RegistryWork`), an operation that fails has put back what it had taken, wherever it
stops, and what the debuggee was told has been taken back.
-/

namespace DebugAdapter

abbrev RegistryWork := InPlace RegistryChange

namespace RegistryWork

def registry : RegistryWork Registry := return (← get).registry

def update (f : Registry → Registry) : RegistryWork Unit :=
  modify fun done => { done with registry := f done.registry }

def tell (hook : InstanceKey × Call) : RegistryWork Unit :=
  modify fun done => { done with hooks := done.hooks ++ [hook] }

def carryOut (f : Registry → RegistryChange) : RegistryWork Unit :=
  modify fun done =>
    let change := f done.registry
    ⟨change.registry, done.hooks ++ change.hooks, done.endings ++ change.endings⟩

def ensureAlive : RegistryWork Unit := do
  if (← registry).disposed then throw .disposed

def listen (net : Network) (port : Nat) (target : Option Target) : RegistryWork Nat := do
  match (← registry).startListener net port target with
  | .error failure => throw failure
  | .ok (opened, bound) =>
    update fun _ => opened
    return bound

def attach (net : Network) (t : Target) : RegistryWork (Option Nat) := do
  ensureAlive
  if (← registry).isAttached t.id then throw (.alreadyAttached t.id t.name)
  if !(← registry).started then
    tell t.attachHook
    update fun r => { r with pending := r.pending ++ [t] }
    return none
  match (← registry).freeMaster? with
  | some port =>
    carryOut fun r => r.rebind port (some t)
    return some port
  | none =>
    tell t.attachHook
    let port ← try listen net 0 (some t) catch failure =>
      tell t.detachHook
      throw failure
    return some port

def replace (old : TargetId) (key : InstanceKey) (id : TargetId) (name : Option String) :
    RegistryWork (Option Nat) := do
  ensureAlive
  if id ≠ old && (← registry).isAttached id then throw (.alreadyAttached id (name.getD ""))
  let queue := (← registry).pending
  match queue.findIdx? fun t => t.id = old, queue.find? fun t => t.id = old with
  | some place, some previous =>
    let t : Target := ⟨key, id, name.getD previous.name⟩
    tell previous.detachHook
    tell t.attachHook
    update fun r => { r with pending := r.pending.set place t }
    return none
  | _, _ =>
    match (← registry).portOf? old with
    | none => throw (.notAttached old)
    | some port =>
      let shown := Target.shownName (((← registry).listener? port).bind Listener.target)
      carryOut fun r => r.rebind port (some ⟨key, id, name.getD shown⟩)
      return some port

def detach (id : TargetId) : RegistryWork Unit := do
  ensureAlive
  match (← registry).pending.find? fun t => t.id = id with
  | some t =>
    update fun r => { r with pending := r.pending.eraseP fun t => t.id = id }
    tell t.detachHook
  | none =>
    match (← registry).portOf? id with
    | none => throw (.notAttached id)
    | some port =>
      if (← registry).master = some port then carryOut fun r => r.rebind port none
      else carryOut fun r => r.stopListener port

def listenEach (net : Network) : List Target → RegistryWork Unit
  | [] => return
  | t :: rest => do
    try discard (listen net 0 (some t)) catch _ => tell t.detachHook
    listenEach net rest

def start (net : Network) (port : Nat) : RegistryWork Nat := do
  ensureAlive
  if (← registry).started then throw .alreadyStarted
  let queue := (← registry).pending
  update fun r => { r with pending := [] }
  let master ← try listen net port queue.head? catch failure =>
    update fun r => { r with pending := queue.head?.toList ++ queue.tail }
    throw failure
  update fun r => { r with master := some master, started := true }
  listenEach net queue.tail
  return master

-- ---------------------------------------------------------------------------
-- Single steps
-- ---------------------------------------------------------------------------

section
variable (done : RegistryChange)

@[simp] theorem registry_apply : registry done = .ok done.registry done := rfl

@[simp] theorem update_apply (f : Registry → Registry) :
    update f done = .ok () { done with registry := f done.registry } := rfl

@[simp] theorem tell_apply (hook : InstanceKey × Call) :
    tell hook done = .ok () { done with hooks := done.hooks ++ [hook] } := rfl

@[simp] theorem carryOut_apply (f : Registry → RegistryChange) :
    carryOut f done = .ok () ⟨(f done.registry).registry, done.hooks ++ (f done.registry).hooks,
      done.endings ++ (f done.registry).endings⟩ := rfl

@[simp] theorem ensureAlive_apply :
    ensureAlive done = if done.registry.disposed then .error .disposed done else .ok () done := by
  simp only [ensureAlive, InPlace.bind_apply, registry_apply]
  split <;> rfl

@[simp] theorem listen_apply (net : Network) (port : Nat) (target : Option Target) :
    listen net port target done = match done.registry.startListener net port target with
      | .error failure => .error failure done
      | .ok (opened, bound) => .ok bound { done with registry := opened } := by
  simp only [listen, InPlace.bind_apply, registry_apply]
  cases done.registry.startListener net port target <;> rfl

end

end RegistryWork

namespace Registry

variable {r : Registry}

/-- What an operation leads to in place, told from its outcome. -/
def inPlace (r : Registry) : Except RegistryFailure (RegistryChange × α) →
    EStateM.Result Failure RegistryChange α
  | .ok (change, a) => .ok a change
  | .error e => .error e.failure ⟨r, e.hooks, []⟩

theorem attach_inPlace (r : Registry) (net : Network) (t : Target) :
    RegistryWork.attach net t ⟨r, [], []⟩ = r.inPlace (r.attach net t) := by
  unfold RegistryWork.attach attach ensureAlive inPlace RegistryFailure.atOnce
  cases disposed : r.disposed with
  | true => simp [disposed]
  | false =>
  cases known : r.isAttached t.id with
  | true => simp [disposed, known]
  | false =>
  cases started : r.started with
  | false => simp [disposed, known, started]
  | true =>
  cases free : r.freeMaster? with
  | some port => simp [disposed, known, started, free]
  | none =>
    cases opens : r.startListener net 0 (some t) <;>
      simp [disposed, known, started, free, opens]

theorem replace_inPlace (r : Registry) (old : TargetId) (key : InstanceKey) (id : TargetId)
    (name : Option String) :
    RegistryWork.replace old key id name ⟨r, [], []⟩ = r.inPlace (r.replace old key id name) := by
  unfold RegistryWork.replace replace ensureAlive inPlace RegistryFailure.atOnce
  cases disposed : r.disposed with
  | true => simp [disposed]
  | false =>
  by_cases known : id ≠ old ∧ r.isAttached id = true
  · simp [disposed, known]
  cases placed : r.pending.findIdx? (fun t => t.id = old) with
  | none => cases serves : r.portOf? old <;> simp [disposed, known, placed, serves]
  | some place =>
  cases found : r.pending.find? (fun t => t.id = old) with
  | none => cases serves : r.portOf? old <;> simp [disposed, known, placed, found, serves]
  | some previous => simp [disposed, known, placed, found]

theorem detach_inPlace (r : Registry) (id : TargetId) :
    RegistryWork.detach id ⟨r, [], []⟩ =
      r.inPlace ((r.detach id).map fun change => (change, ())) := by
  unfold RegistryWork.detach detach ensureAlive inPlace RegistryFailure.atOnce
  cases disposed : r.disposed with
  | true => simp [disposed, Except.map]
  | false =>
  cases found : r.pending.find? (fun t => t.id = id) with
  | some t => simp [disposed, found, Except.map]
  | none =>
  cases serves : r.portOf? id with
  | none => simp [disposed, found, serves, Except.map]
  | some port =>
    by_cases master : r.master = some port
    · simp [disposed, found, serves, master, Except.map]
    · simp [disposed, found, serves, master, Except.map]

theorem startListener_pending (r : Registry) (net : Network) (port : Nat) (target : Option Target)
    (pending : List Target) :
    { r with pending }.startListener net port target =
      (r.startListener net port target).map fun e => ({ e.1 with pending }, e.2) := by
  unfold startListener
  have ports : Registry.ports { r with pending } = r.ports := rfl
  rw [ports]
  cases net.bind r.ports port <;> rfl

theorem listenEach_inPlace (net : Network) (ts : List Target) (done : RegistryChange) :
    RegistryWork.listenEach net ts done = .ok ()
      ⟨(startEach net done.registry ts).registry,
        done.hooks ++ (startEach net done.registry ts).hooks,
        done.endings ++ (startEach net done.registry ts).endings⟩ := by
  induction ts generalizing done with
  | nil => simp [RegistryWork.listenEach, startEach]
  | cons t ts ih =>
    cases opens : done.registry.startListener net 0 (some t) <;>
      simp [RegistryWork.listenEach, startEach, opens, ih]

theorem start_inPlace (r : Registry) (net : Network) (port : Nat) :
    RegistryWork.start net port ⟨r, [], []⟩ = r.inPlace (r.start net port) := by
  obtain ⟨started, disposed, listeners, pending, master⟩ := r
  unfold RegistryWork.start start ensureAlive inPlace RegistryFailure.atOnce
  cases disposed with
  | true => simp
  | false =>
  cases started with
  | true => simp
  | false =>
  have queue : pending.head?.toList ++ pending.tail = pending := by cases pending <;> rfl
  have taken := startListener_pending ⟨false, false, listeners, pending, master⟩ net port
    pending.head? []
  cases opens : startListener ⟨false, false, listeners, pending, master⟩ net port pending.head? with
  | error failure =>
    rw [opens] at taken
    simp [taken, queue, Except.map]
  | ok success =>
    rw [opens] at taken
    simp [taken, Except.map, listenEach_inPlace]

end Registry

-- ---------------------------------------------------------------------------
-- Events that fail
-- ---------------------------------------------------------------------------

namespace ServerEvent

def failureOf : Except Failure α → Option Failure
  | .ok _ => none
  | .error failure => some failure

def failure? (s : Server) : ServerEvent → Option Failure
  | .attach bind t => failureOf (s.attach (s.network bind) t).2.2
  | .replace old key id name => failureOf (s.replace old key id name).2.2
  | .detach id => failureOf (s.detach id).2.2
  | .start bind => failureOf (s.start (s.network bind)).2.2
  | _ => none

def inPlace? (s : Server) : ServerEvent → Option (RegistryWork Unit)
  | .attach bind t => some (discard (RegistryWork.attach (s.network bind) t))
  | .replace old key id name => some (discard (RegistryWork.replace old key id name))
  | .detach id => some (RegistryWork.detach id)
  | .start bind => some (discard (RegistryWork.start (s.network bind) s.settings.port))
  | _ => none

end ServerEvent

def engaged (key : InstanceKey) (calls : List (InstanceKey × Call)) : Bool :=
  (heard key calls).getLast? = some .attachDebugger

theorem InTurn.engaged (turns : InTurn false (heard key calls) there) :
    engaged key calls = there := by
  have last := turns.last
  rw [Bool.eq_iff_iff, ← last]
  simp [DebugAdapter.engaged]

namespace Server

inductive Fails (s : Server) : ServerEvent → RegistryFailure → Prop
  | attach {bind : List Nat → Nat → Except String Nat} :
    s.registry.attach (s.network bind) t = .error e → Fails s (.attach bind t) e
  | replace {id : TargetId} : s.registry.replace old key id name = .error e →
    Fails s (.replace old key id name) e
  | detach {id : TargetId} : s.registry.detach id = .error e → Fails s (.detach id) e
  | start {bind : List Nat → Nat → Except String Nat} :
    s.registry.start (s.network bind) s.settings.port = .error e → Fails s (.start bind) e

variable {s : Server} {event : ServerEvent} {failure : Failure}

theorem applyResult_failed {α : Type} {result : Except RegistryFailure (RegistryChange × α)}
    (failed : ServerEvent.failureOf (s.applyResult result).2.2 = some failure) :
    ∃ e, result = .error e ∧ e.failure = failure := by
  cases result with
  | ok success => cases failed
  | error e =>
    cases failed
    exact ⟨e, rfl, rfl⟩

theorem fails_of_failure? (failed : event.failure? s = some failure) :
    ∃ e : RegistryFailure, e.failure = failure ∧ s.Fails event e := by
  cases event with
  | attach bind t =>
    obtain ⟨e, error, its⟩ := applyResult_failed failed
    exact ⟨e, its, .attach error⟩
  | replace old key id name =>
    obtain ⟨e, error, its⟩ := applyResult_failed failed
    exact ⟨e, its, .replace error⟩
  | detach id =>
    obtain ⟨e, error, its⟩ := applyResult_failed failed
    refine ⟨e, its, .detach ?_⟩
    cases result : s.registry.detach id with
    | ok change => simp [result, Except.map] at error
    | error e' => simpa [result, Except.map] using error
  | start bind =>
    obtain ⟨e, error, its⟩ := applyResult_failed failed
    exact ⟨e, its, .start error⟩
  | _ => cases failed

theorem Fails.operation (fails : s.Fails event e) :
    ∃ op, event.operation? s = some op ∧ s.registry.outcome op = ⟨s.registry, e.hooks, []⟩ ∧
      s.registry.Tells op ⟨s.registry, e.hooks, []⟩ := by
  cases fails with
  | attach error =>
    refine ⟨_, rfl, by simp [Registry.outcome, error, Except.map, RegistryChange.ofResult], ?_⟩
    obtain none | ⟨vain, unknown⟩ := Registry.attach_error_hooks error
    · exact .nobody none rfl
    · exact vain ▸ .inVain _ unknown rfl
  | replace error =>
    exact ⟨_, rfl, by simp [Registry.outcome, error, Except.map, RegistryChange.ofResult],
      .nobody (Registry.replace_error_hooks error) rfl⟩
  | detach error =>
    exact ⟨_, rfl, by simp [Registry.outcome, error, RegistryChange.ofResult],
      .nobody (Registry.detach_error_hooks error) rfl⟩
  | start error =>
    exact ⟨_, rfl, by simp [Registry.outcome, error, Except.map, RegistryChange.ofResult],
      .nobody (Registry.start_error_hooks error) rfl⟩

theorem Fails.step (fails : s.Fails event e) : s.step event = (s, ⟨e.hooks, [], []⟩) := by
  obtain ⟨op, is, outcome, -⟩ := fails.operation
  rw [step_operation is, outcome, apply_unchanged]

/-- Whatever has been taken is back in its place when an operation gives up. -/
theorem Fails.inPlace (fails : s.Fails event e) : ∃ work, event.inPlace? s = some work ∧
    work ⟨s.registry, [], []⟩ = .error e.failure ⟨s.registry, e.hooks, []⟩ := by
  cases fails with
  | attach error =>
    refine ⟨_, rfl, ?_⟩
    rw [InPlace.discard_apply, Registry.attach_inPlace, error]
    rfl
  | replace error =>
    refine ⟨_, rfl, ?_⟩
    rw [InPlace.discard_apply, Registry.replace_inPlace, error]
    rfl
  | detach error =>
    refine ⟨_, rfl, ?_⟩
    rw [Registry.detach_inPlace, error]
    rfl
  | start error =>
    refine ⟨_, rfl, ?_⟩
    rw [InPlace.discard_apply, Registry.start_inPlace, error]
    rfl

theorem run_failed (failed : event.failure? s = some failure) (later : List ServerEvent) :
    (s.run (event :: later)).1 = (s.run later).1 ∧
      (s.run (event :: later)).2.sent = (s.run later).2.sent := by
  obtain ⟨e, -, fails⟩ := fails_of_failure? failed
  rw [run_cons, fails.step]
  exact ⟨rfl, rfl⟩

/-- The events of a run that do not fail when their turn comes. -/
def succeeding (s : Server) : List ServerEvent → List ServerEvent
  | [] => []
  | event :: rest =>
    let others := (s.step event).1.succeeding rest
    if (event.failure? s).isSome then others else event :: others

theorem run_succeeding (s : Server) (events : List ServerEvent) :
    (s.run (s.succeeding events)).1 = (s.run events).1 ∧
      (s.run (s.succeeding events)).2.sent = (s.run events).2.sent := by
  induction events generalizing s with
  | nil => exact ⟨rfl, rfl⟩
  | cons event rest ih =>
    cases failed : event.failure? s with
    | some failure =>
      obtain ⟨same, sent⟩ := run_failed failed rest
      obtain ⟨e, -, fails⟩ := fails_of_failure? failed
      simp only [succeeding, failed, fails.step, Option.isSome_some, if_true, same, sent]
      exact ih s
    | none =>
      obtain ⟨same, sent⟩ := ih (s.step event).1
      simp only [succeeding, failed, Option.isSome_none, Bool.false_eq_true, if_false, run_cons,
        Activity.sent_append, same, sent, and_self]

/-- Whatever has been done to a server before, an operation that fails leaves it as it
was, with its sessions; carried out step by step it gives up with the registry that it
began with. Nothing is written, each debuggee has the debugger exactly if it had it
before, and all that is done later, the same operation included, goes as if the first
attempt had not been made. -/
theorem failed_operations_leave_no_trace {chosen : Settings} {traced : Tracing}
    (created : create chosen traced debuggees = .ok s) (events : List ServerEvent)
    (safe : ∀ e ∈ events, e.Safe) (identity : InstanceKey → TargetId)
    (event : ServerEvent)
    (constant : ∀ e ∈ events ++ [event], ∀ i ∈ e.instance?, i.2 = identity i.1)
    (failed : event.failure? (s.run events).1 = some failure) :
    let before := (s.run events).1
    let calls := (s.run events).2.calls
    let attempt := before.step event
    attempt.1 = before ∧ attempt.2.sent = [] ∧
    (∀ key, engaged key (calls ++ attempt.2.calls) = engaged key calls) ∧
    (∃ work, event.inPlace? before = some work ∧
      work ⟨before.registry, [], []⟩ =
        .error failure ⟨before.registry, attempt.2.calls, []⟩) ∧
    (∀ later, (before.run (event :: later)).1 = (before.run later).1 ∧
      (before.run (event :: later)).2.sent = (before.run later).2.sent) ∧
    ∀ bind, event = .start bind →
      ∀ later, before.run (event :: later) = before.run later := by
  intro before calls attempt
  obtain ⟨e, rfl, fails⟩ := fails_of_failure? failed
  obtain ⟨op, is, -, tells⟩ := fails.operation
  have step : attempt = (before, ⟨e.hooks, [], []⟩) := fails.step
  obtain ⟨known, alone⟩ := List.forall_mem_append.mp constant
  have start : s.registry = .empty := registry_create created
  have identified : s.Identified identity :=
    ⟨regular_create created, by rw [start]; exact List.forall_mem_nil _⟩
  have now : before.Identified identity := identified.run_identified safe known
  refine ⟨by rw [step], by rw [step], fun key => ?_, ?_, run_failed failed, ?_⟩
  · have turns := identified.run safe known key
    rw [start] at turns
    have constant := ServerEvent.instance?_operation is ▸ List.forall_mem_singleton.mp alone
    have told := (tells.inTurn now.regular.sound now.regular.sound now.identified constant).2 key
    -- what the attempt tells the debuggee ends where the calls before it ended
    have both := turns.append told
    rw [← heard_append] at both
    rw [step, both.engaged, turns.engaged]
  · rw [step]
    exact fails.inPlace
  · rintro bind rfl later
    have silent : e.hooks = [] := by
      cases fails with
      | start error => exact Registry.start_error_hooks error
    rw [silent] at step
    rw [run_cons, show before.step (.start bind) = (before, .none) from step]
    rfl

/-- While two targets wait, the master's port is taken at first; with both served, no port
is left for a third target. -/
theorem start_tried_again :
    let taken : List Nat → Nat → Except String Nat := fun _ _ =>
      .error "Address already in use (os error 98)"
    let waiting : List ServerEvent := [.attach freePorts ⟨11, 1, "a"⟩,
      .attach freePorts ⟨12, 2, "b"⟩]
    let s := (idleServer.run waiting).1
    let crowded := idleServer.run (waiting ++ [.start freePorts])
    let third := crowded.1.step (.attach taken ⟨13, 3, "c"⟩)
    s.run [.start taken, .start freePorts] = s.run [.start freePorts] ∧
    (s.run [.start freePorts]).1.registry.targets =
      [(⟨11, 1, "a"⟩, some 41912), (⟨12, 2, "b"⟩, some 74680)] ∧
    third.1 = crowded.1 ∧
    third.2.calls = [(13, .attachDebugger), (13, .detachDebugger)] ∧
    engaged 13 (crowded.2.calls ++ third.2.calls) = engaged 13 crowded.2.calls := by
  intro taken waiting s crowded third
  have safe : ∀ e ∈ waiting ++ [.start freePorts], e.Safe := by
    simp [waiting, ServerEvent.Safe, freePorts_unused]
  obtain ⟨-, -, -, -, -, again⟩ := failed_operations_leave_no_trace create_idleServer
    waiting (fun e he => safe e (List.mem_append_left _ he)) (fun key => key - 10) (.start taken)
    (by simp [waiting, ServerEvent.instance?]) rfl
  obtain ⟨same, -, engaged, -⟩ := failed_operations_leave_no_trace create_idleServer
    (waiting ++ [.start freePorts]) safe (fun key => key - 10) (.attach taken ⟨13, 3, "c"⟩)
    (by simp [waiting, ServerEvent.instance?]) rfl
  exact ⟨again taken rfl [.start freePorts], by decide +kernel, same, by decide +kernel,
    engaged 13⟩

end Server

end DebugAdapter
