import DebugAdapter.Proofs.Server.Hooks
import DebugAdapter.Proofs.Server.Restarts

/-!
# The end of a server

A server that is disposed gives up all it has: each debuggee on offer is told once that the
debugger is gone, and every session ends. What is over is `Silent`: nobody is told anything any
more, whatever is asked of the server, sent to it or reported (`Silent.step`).
-/

namespace DebugAdapter

namespace Registry

variable {r : Registry}

-- ---------------------------------------------------------------------------
-- Refusals
-- ---------------------------------------------------------------------------

theorem attach_disposed (disposed : r.disposed = true) (net : Network) (t : Target) :
    r.attach net t = .error (.atOnce .disposed) := by
  simp only [attach, ensureAlive, disposed, if_true]
  rfl

theorem replace_disposed (disposed : r.disposed = true) (old : TargetId) (key : InstanceKey)
    (id : TargetId) (name : Option String) :
    r.replace old key id name = .error (.atOnce .disposed) := by
  simp only [replace, ensureAlive, disposed, if_true]
  rfl

theorem detach_disposed (disposed : r.disposed = true) (id : TargetId) :
    r.detach id = .error (.atOnce .disposed) := by
  simp only [detach, ensureAlive, disposed, if_true]
  rfl

theorem start_disposed (disposed : r.disposed = true) (net : Network) (port : Nat) :
    r.start net port = .error (.atOnce .disposed) := by
  simp only [start, ensureAlive, disposed, if_true]
  rfl

theorem enterSession_closed (closed : r.listeners = []) (port : Nat) (session : SessionId) :
    r.enterSession port session = none := by
  simp [enterSession, listener?, closed]

theorem outcome_disposed (disposed : r.disposed = true) (closed : r.listeners = [])
    (op : RegistryOperation) : r.outcome op = ⟨r, [], []⟩ := by
  cases op with
  | attach net t => simp only [outcome, attach_disposed disposed]; rfl
  | replace old key id name => simp only [outcome, replace_disposed disposed]; rfl
  | detach id => simp only [outcome, detach_disposed disposed]; rfl
  | start net port => simp only [outcome, start_disposed disposed]; rfl
  | dispose => simp only [outcome, dispose, disposed, if_true]
  | listenerFailed port =>
    simp [outcome, listenerFailed, stopListener, listener?, closed]
  | enterSession port session => simp only [outcome, enterSession_closed closed]; rfl

-- ---------------------------------------------------------------------------
-- Disposal
-- ---------------------------------------------------------------------------

theorem Led.master_eq_none (led : r.Led) (closed : r.listeners = []) : r.master = none := by
  cases master : r.master with
  | none => rfl
  | some port =>
    have listens := led.listens port master
    simp [ports, closed] at listens

theorem disposed_dispose (r : Registry) : r.dispose.registry.disposed = true := by
  by_cases disposed : r.disposed = true
  · simp [dispose, disposed]
  · simp [dispose, disposed, stopEach_disposed]

theorem dispose_hooks (sound : r.Sound) :
    r.dispose.hooks.Perm (r.targets.map fun e => e.1.detachHook) := by
  obtain ⟨closed, pending⟩ := (dispose_sound sound).closed r.disposed_dispose
  have nothing : r.dispose.registry.offered = 0 := by rw [offered_eq, closed, pending]; rfl
  have told := dispose_tells sound
  generalize r.dispose = change at told nothing
  rcases told with ⟨gone, come, rest, before, after, brings, hooks⟩ | ⟨t, -, brings⟩
  · have nobody : come = [] := List.eq_nil_iff_forall_not_mem.mpr fun t ht => nomatch brings t ht
    subst nobody
    rw [nothing, Multiset.coe_nil, zero_add] at after
    have all : (r.targets.map Prod.fst).Perm gone := by
      simpa [offered, ← after] using before
    have each := (all.map Target.detachHook).symm
    rw [List.map_map] at each
    rw [hooks, List.map_nil, List.append_nil]
    exact each
  · cases brings

end Registry

namespace Hub

theorem act_isOver {h : Hub} (ends : ∀ j s, h.session? j = some s → s.terminated = true)
    (id : SessionId) (event : Event) :
    (h.act id fun s d => s.step ⟨d, event⟩).1.sessions = h.sessions ∧
      (h.act id fun s d => s.step ⟨d, event⟩).2.calls = [] := by
  cases its : h.session? id with
  | none => rw [act_absent its]; exact ⟨rfl, rfl⟩
  | some s =>
    have same : h.sessions.set id s = h.sessions := by
      obtain ⟨bound, rfl⟩ := List.getElem?_eq_some_iff.mp its
      exact List.set_getElem_self bound
    simp only [act, its, Session.step_ended (ends id s its), same]
    split <;> exact ⟨rfl, rfl⟩

end Hub

namespace Server

variable {s t u : Server} {a b : Activity}

/-- Listeners, targets and sessions stay as they are, and nobody gets to know of anything. -/
structure Still (s t : Server) (a : Activity) : Prop where
  registry : t.registry = s.registry
  sessions : t.hub.sessions = s.hub.sessions
  calls : a.calls = []
  sent : a.sent = []

theorem Still.rest (s : Server) : s.Still s .none := ⟨rfl, rfl, rfl, rfl⟩

theorem Still.trans (first : s.Still t a) (second : t.Still u b) : s.Still u (a ++ b) where
  registry := second.registry.trans first.registry
  sessions := second.sessions.trans first.sessions
  calls := by rw [Activity.calls_append, first.calls, second.calls]; rfl
  sent := congrArg₂ (· ++ ·) first.sent second.sent

structure Silent (s : Server) : Prop where
  disposed : s.registry.disposed = true
  closed : s.registry.listeners = []
  paired : s.Paired
  ends : ∀ j session, s.hub.session? j = some session → session.terminated = true

theorem Silent.keeps (silent : s.Silent) (still : s.Still t a) (paired : t.Paired) : t.Silent where
  disposed := still.registry ▸ silent.disposed
  closed := still.registry ▸ silent.closed
  paired := paired
  ends j session its := silent.ends j session (by rwa [Hub.session?, ← still.sessions])

-- ---------------------------------------------------------------------------
-- Steps
-- ---------------------------------------------------------------------------

theorem deliver_closed {id : SessionId} (there : s.connection? id = some c)
    (closed : c.closed = true) (item : Outgoing) : s.deliver id item = (s, .none) := by
  obtain ⟨bound, rfl⟩ := List.getElem?_eq_some_iff.mp there
  simp [deliver, there, Connection.write, closed, setConnection]

theorem deliverAll_closed (closed : ∀ j c, s.connection? j = some c → c.closed = true)
    (items : List (SessionId × Outgoing)) : s.deliverAll items = (s, .none) := by
  induction items with
  | nil => rfl
  | cons e items ih =>
    rcases e with ⟨id, item⟩
    have first : s.deliver id item = (s, .none) := by
      cases there : s.connection? id with
      | none => simp [deliver, there]
      | some c => exact deliver_closed there (closed id c there) item
    simp only [deliverAll, first, ih, Activity.none_append]

theorem Silent.connection (silent : s.Silent) (there : s.connection? j = some c) :
    c.closed = true := by
  obtain ⟨bound, -⟩ := List.getElem?_eq_some_iff.mp there
  have its := List.getElem?_eq_getElem (silent.paired.count ▸ bound)
  exact (silent.paired.closes j _ c its there).trans (silent.ends j _ its)

theorem Silent.acts (silent : s.Silent) (id : SessionId) (event : Event) :
    s.Still (s.settle (s.hub.act id fun session d => session.step ⟨d, event⟩)).1
      (s.settle (s.hub.act id fun session d => session.step ⟨d, event⟩)).2 := by
  obtain ⟨sessions, calls⟩ := Hub.act_isOver silent.ends id event
  generalize s.hub.act id _ = result at sessions calls
  have unwritten := deliverAll_closed (s := { s with hub := result.1 })
    (fun j c there => silent.connection there) result.2.queued
  simp only [settle, unwritten, calls]
  exact ⟨rfl, sessions, rfl, rfl⟩

theorem Serves.still (serves : Serves s t a) (silent : s.Silent) : s.Still t a ∧ t.Silent := by
  induction serves with
  | @traces s lines => exact ⟨⟨rfl, rfl, rfl, rfl⟩, silent⟩
  | @reads s id c received ended there =>
    have still : s.Still (s.setConnection id { c with received, ended }) .none :=
      ⟨rfl, rfl, rfl, rfl⟩
    exact ⟨still, silent.keeps still ((Serves.reads received ended there).ages silent.paired).1⟩
  | acts id event is =>
    subst is
    have still := silent.acts id event
    exact ⟨still, silent.keeps still ((Serves.acts id event rfl).ages silent.paired).1⟩
  | trans _ _ first second =>
    obtain ⟨still, middle⟩ := first silent
    obtain ⟨still', last⟩ := second middle
    exact ⟨still.trans still', last⟩

theorem Silent.connect (silent : s.Silent) (port : Nat) (peer : String) :
    s.connect port peer = (s, .none, none) := by
  simp only [Server.connect, Registry.enterSession_closed silent.closed]

theorem Silent.refusals (silent : s.Silent) :
    (∀ net target, s.attach net target = (s, .none, .error .disposed)) ∧
    (∀ old key id name, s.replace old key id name = (s, .none, .error .disposed)) ∧
    (∀ id, s.detach id = (s, .none, .error .disposed)) ∧
    (∀ net, s.start net = (s, .none, .error .disposed)) ∧
    s.dispose = (s, .none) ∧
    ∀ port peer, s.connect port peer = (s, .none, none) := by
  have disposed := silent.disposed
  refine ⟨?_, ?_, ?_, ?_, ?_, silent.connect⟩
  · intro net target
    simp only [attach, Registry.attach_disposed disposed]
    rfl
  · intro old key id name
    simp only [replace, Registry.replace_disposed disposed]
    rfl
  · intro id
    simp only [detach, Registry.detach_disposed disposed]
    rfl
  · intro net
    simp only [start, Registry.start_disposed disposed]
    rfl
  · simp only [dispose, Registry.dispose, disposed, if_true]
    exact s.apply_unchanged []

theorem Silent.step (silent : s.Silent) (e : ServerEvent) :
    s.Still (s.step e).1 (s.step e).2 ∧ (s.step e).1.Silent := by
  rcases s.step_proceeds e with ⟨-, step⟩ | ⟨port, peer⟩ | ⟨key, answers⟩ | ⟨-, serves⟩
  · rw [step, Registry.outcome_disposed silent.disposed silent.closed, apply_unchanged]
    exact ⟨.rest s, silent⟩
  · have nobody : s.step (.connect port peer) = (s, .none) := by
      simp only [Server.step, silent.connect]
    rw [nobody]
    exact ⟨.rest s, silent⟩
  · have still : s.Still (s.step (.refresh key answers)).1 .none := ⟨rfl, rfl, rfl, rfl⟩
    exact ⟨still, silent.keeps still ⟨silent.paired.count, silent.paired.closes⟩⟩
  · exact serves.still silent

theorem Silent.run (silent : s.Silent) (events : List ServerEvent) :
    s.Still (s.run events).1 (s.run events).2 ∧ (s.run events).1.Silent := by
  induction events generalizing s with
  | nil => exact ⟨.rest s, silent⟩
  | cons e events ih =>
    obtain ⟨still, next⟩ := silent.step e
    obtain ⟨still', last⟩ := ih next
    exact ⟨still.trans still', last⟩

-- ---------------------------------------------------------------------------
-- Disposal
-- ---------------------------------------------------------------------------

theorem Serving.silent (serving : s.Serving) (disposed : s.registry.disposed = true) :
    s.Silent := by
  obtain ⟨closed, -⟩ := serving.regular.sound.closed disposed
  refine ⟨disposed, closed, serving.paired, fun j session its => ?_⟩
  by_contra live
  obtain ⟨l, hl, -⟩ := serving.listener its (by simpa using live)
  simp [closed] at hl

theorem dispose_session (serving : s.Serving) (its : s.hub.session? j = some session) :
    s.dispose.1.hub.IsOver j ∧
      s.dispose.2.farewells j = if session.terminated then [] else [false] := by
  have next : s.dispose.1.Serving ∧ Ages s s.dispose.1 s.dispose.2 :=
    serving.step (e := .dispose) trivial
  cases dead : session.terminated with
  | true =>
    have closed : s.hub.IsOver j := ⟨session, its, dead⟩
    exact ⟨next.2.ended closed, next.2.untold_of_isOver closed⟩
  | false =>
    have unheard : session.port ∉ s.dispose.1.registry.ports := by
      have disposed : s.dispose.1.registry.disposed = true := by
        rw [dispose, registry_apply]
        exact s.registry.disposed_dispose
      simp [Registry.ports, (next.1.silent disposed).closed]
    exact (step_session serving (e := .dispose) trivial rfl its dead).2.1 unheard

theorem hooks_dispose (sound : s.registry.Sound) :
    (s.dispose.2.calls.filter fun c => c.2.isHook).Perm
      (s.registry.targets.map fun e => e.1.detachHook) := by
  have told := Registry.dispose_hooks sound
  have hooks : ∀ c ∈ s.registry.dispose.hooks, c.2.isHook = true := by
    intro c hc
    obtain ⟨e, -, rfl⟩ := List.mem_map.mp (told.subset hc)
    rfl
  have others : ∀ c ∈ (s.hub.terminateAll s.registry.dispose.endings).2.calls,
      ¬c.2.isHook = true := by
    intro c hc
    simp [s.hub.calls_terminateAll _ c hc, Call.isHook]
  rw [dispose, calls_apply, List.filter_append, List.filter_eq_self.mpr hooks,
    List.filter_eq_nil_iff.mpr others, List.append_nil]
  exact told

variable {identity : InstanceKey → TargetId}

theorem Identified.run_identified (h : s.Identified identity) {events : List ServerEvent}
    (safe : ∀ e ∈ events, e.Safe)
    (constant : ∀ e ∈ events, ∀ i ∈ e.instance?, i.2 = identity i.1) :
    (s.run events).1.Identified identity := by
  induction events generalizing s with
  | nil => exact h
  | cons e events ih =>
    obtain ⟨safe, others⟩ := List.forall_mem_cons.mp safe
    obtain ⟨constant, rest⟩ := List.forall_mem_cons.mp constant
    exact ih (h.step safe constant).1 others rest

theorem Identified.heard_dispose (h : s.Identified identity) (there : e ∈ s.registry.targets) :
    heard e.1.key s.dispose.2.calls = [.detachDebugger] := by
  have told := Registry.dispose_hooks h.regular.sound
  have keys : ((s.registry.targets.map Prod.fst).map Target.key).Nodup := by
    simpa [Registry.offered] using h.regular.sound.keys h.identified
  have here : e.1.key ∈ (s.registry.targets.map Prod.fst).map Target.key :=
    List.mem_map_of_mem (List.mem_map_of_mem there)
  have once := heard_each keys (rfl : Call.isHook .detachDebugger = true) e.1.key
  rw [if_pos here, List.map_map] at once
  have heards := (told.filter fun c => c.1 = e.1.key && c.2.isHook).map Prod.snd
  rw [dispose, heard_apply, ← List.perm_singleton]
  exact once ▸ heards

/-- Whatever has been done to a server from its beginning, its disposal leaves no listener, no
target and no master. Each debuggee on offer is told once that the debugger is gone, and
debuggees are told nothing else; every session ends, and the client of one that was live is
told so, and not to restart. From then on every operation is refused, or does nothing, and
nobody hears of it. -/
theorem disposal_final {chosen : Settings} {traced : Tracing}
    (created : create chosen traced debuggees = .ok first) (events : List ServerEvent)
    (safe : ∀ e ∈ events, e.Safe) :
    let s := (first.run events).1
    let t := s.dispose.1
    let activity := s.dispose.2
    (t.registry.listeners = [] ∧ t.registry.targets = [] ∧ t.registry.master = none) ∧
    (activity.calls.filter fun c => c.2.isHook).Perm
      (s.registry.targets.map fun e => e.1.detachHook) ∧
    (∀ identity : InstanceKey → TargetId,
      (∀ e ∈ events, ∀ i ∈ e.instance?, i.2 = identity i.1) →
      ∀ e ∈ s.registry.targets, heard e.1.key activity.calls = [.detachDebugger]) ∧
    (∀ i session, s.hub.session? i = some session → t.hub.IsOver i ∧
      activity.farewells i = if session.terminated then [] else [false]) ∧
    ∀ later, let u := (t.run later).1
      t.Still u (t.run later).2 ∧
      (∀ net target, u.attach net target = (u, .none, .error .disposed)) ∧
      (∀ old key id name, u.replace old key id name = (u, .none, .error .disposed)) ∧
      (∀ id, u.detach id = (u, .none, .error .disposed)) ∧
      (∀ net, u.start net = (u, .none, .error .disposed)) ∧
      u.dispose = (u, .none) ∧
      ∀ port peer, u.connect port peer = (u, .none, none) := by
  intro s t activity
  have serving : s.Serving := ((serving_create created).run safe).1
  have ended : t.Serving := (serving.step (e := .dispose) trivial).1
  have silent : t.Silent := ended.silent (by
    rw [show t.registry = _ from s.registry_apply _]
    exact s.registry.disposed_dispose)
  refine ⟨⟨silent.closed, ?_, ?_⟩, hooks_dispose serving.regular.sound, ?_, ?_, ?_⟩
  · obtain ⟨closed, pending⟩ := ended.regular.sound.closed silent.disposed
    simp [Registry.targets, closed, pending]
  · obtain ⟨_, _, regular⟩ := ended.regular
    exact regular.led.master_eq_none silent.closed
  · intro identity constant e there
    have begins : first.Identified identity := by
      refine ⟨regular_create created, ?_⟩
      rw [registry_create created]
      exact List.forall_mem_nil _
    exact (begins.run_identified safe constant).heard_dispose there
  · exact fun i session its => dispose_session serving its
  · intro later u
    obtain ⟨still, last⟩ := silent.run later
    exact ⟨still, last.refusals⟩

/-- The master has lost its target, and its first client with it; then a client comes to the
free master, another one is with the second target, and the server is disposed. -/
theorem disposed_with_free_master :
    let events : List ServerEvent := [.attach freePorts ⟨11, 1, "a"⟩,
      .attach freePorts ⟨12, 2, "b"⟩, .start freePorts, .connect 41912 "1st", .detach 1,
      .connect 74680 "2nd", .connect 41912 "3rd"]
    let s := (idleServer.run events).1
    s.dispose.2.farewells 0 = [] ∧ s.dispose.2.farewells 1 = [false] ∧
      s.dispose.2.farewells 2 = [false] ∧
      heard 12 s.dispose.2.calls = [.detachDebugger] ∧
      (s.dispose.1.run [.attach freePorts ⟨11, 1, "a"⟩, .connect 41912 "4th",
        .receive 1 [10] true]).2.sent = [] := by
  intro events s
  have safe : ∀ e ∈ events, e.Safe := by simp [events, ServerEvent.Safe, freePorts_unused]
  obtain ⟨-, -, told, ended, silent⟩ := disposal_final create_idleServer events safe
  refine ⟨(ended 0 _ rfl).2, (ended 1 _ rfl).2, (ended 2 _ rfl).2, ?_, (silent _).1.sent⟩
  refine told (fun key => key - 10) ?_ (⟨12, 2, "b"⟩, some 74680) (by decide +kernel)
  simp [events, ServerEvent.instance?]

end Server

end DebugAdapter
