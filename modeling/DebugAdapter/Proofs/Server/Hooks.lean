import DebugAdapter.Proofs.Server.Run
import DebugAdapter.Proofs.Session.Conduct
import Mathlib.Data.List.Chain

/-!
# What debuggees are told of the debugger

A debuggee is told when a debugger is there and when it is gone. Each operation
on the registry takes some targets away and brings others (`Tells`), and tells
the debuggees of exactly these.
-/

namespace DebugAdapter

def RegistryOperation.instance? : RegistryOperation → Option (InstanceKey × TargetId)
  | .attach _ t => some (t.key, t.id)
  | .replace _ key id _ => some (key, id)
  | _ => none

def ServerEvent.instance? : ServerEvent → Option (InstanceKey × TargetId)
  | .attach _ t => some (t.key, t.id)
  | .replace _ key id _ => some (key, id)
  | _ => none

theorem ServerEvent.instance?_operation {e : ServerEvent} (is : e.operation? s = some op) :
    op.instance? = e.instance? := by
  cases e <;> cases is <;> rfl

namespace Registry

/-- The debuggees that are told are those of targets that go and of targets
that come; the debuggee of a target that gets no listener is told that the
debugger is there, and then that it is gone again. -/
inductive Tells (r : Registry) (op : RegistryOperation) : RegistryChange → Prop
  | exchanges (gone come : List Target) (rest : Multiset Target) :
    r.offered = gone + rest → change.registry.offered = come + rest →
    (∀ t ∈ come, op.instance? = some (t.key, t.id)) →
    change.hooks = gone.map Target.detachHook ++ come.map Target.attachHook → Tells r op change
  | inVain (t : Target) : t.id ∉ r.offered.map Target.id → op.instance? = some (t.key, t.id) →
    Tells r op ⟨r, [t.attachHook, t.detachHook], []⟩

variable {r : Registry}

theorem Tells.leave (gone : List Target) (split : r.offered = gone + change.registry.offered)
    (hooks : change.hooks = gone.map Target.detachHook) : r.Tells op change :=
  .exchanges gone [] change.registry.offered split (zero_add _).symm (List.forall_mem_nil _)
    (hooks.trans (List.append_nil _).symm)

theorem Tells.nobody (hooks : change.hooks = []) (same : change.registry.offered = r.offered) :
    r.Tells op change := .leave [] (same ▸ (zero_add _).symm) hooks

theorem alive_of_error {rest : Unit → Except RegistryFailure α}
    (error : (r.ensureAlive >>= rest) = .error e) : e.hooks = [] ∨ rest () = .error e := by
  unfold ensureAlive at error
  split at error
  · cases error
    exact .inl rfl
  · exact .inr error

-- ---------------------------------------------------------------------------
-- Operations
-- ---------------------------------------------------------------------------

theorem attach_hooks {net : Network} (ok : r.attach net t = .ok (change, port)) :
    change.hooks = [t.attachHook] := by
  obtain ⟨-, -, attaches⟩ := attach_cases ok
  cases attaches with
  | queued => rfl
  | rebound _ free =>
    obtain ⟨l, found, unbound⟩ := listener?_of_freeMaster? free
    simp [rebind, found, unbound]
  | opened => rfl

theorem attach_error_hooks {net : Network} (error : r.attach net t = .error e) :
    e.hooks = [] ∨ e.hooks = [t.attachHook, t.detachHook] ∧ t.id ∉ r.offered.map Target.id := by
  obtain none | error := alive_of_error error
  · exact .inl none
  simp only [bind, Except.bind, pure, Except.pure, throw, throwThe, MonadExceptOf.throw] at error
  split at error
  · cases error
    exact .inl rfl
  rename_i unknown
  split at error
  · cases error
  split at error
  · cases error
  · split at error <;> cases error
    exact .inr ⟨rfl, fun known => unknown ((r.isAttached_iff t.id).mpr known)⟩

theorem attach_tells {net : Network} (sound : r.Sound) (fresh : OpensUnused net.bind) :
    r.Tells (.attach net t) (r.outcome (.attach net t)) := by
  simp only [outcome]
  cases result : r.attach net t with
  | ok success =>
    obtain ⟨change, port⟩ := success
    obtain ⟨-, offers, -⟩ := attach_offered sound fresh result
    refine .exchanges [] [t] r.offered (zero_add _).symm offers ?_ (attach_hooks result)
    exact fun u hu => by rw [List.mem_singleton.mp hu]; rfl
  | error e =>
    obtain none | ⟨vain, unknown⟩ := attach_error_hooks result
    · exact .nobody none rfl
    · simp only [Except.map, RegistryChange.ofResult, vain]
      exact .inVain t unknown rfl

theorem replace_hooks {id : TargetId} (sound : r.Sound)
    (ok : r.replace old key id name = .ok (change, port)) :
    ∃ t ∈ r.offered, t.id = old ∧ change.hooks = [t.detachHook, (key, .attachDebugger)] := by
  obtain ⟨-, -, replaces⟩ := replace_cases sound ok
  cases replaces with
  | queued a b t split same =>
    refine ⟨t, ?_, same, rfl⟩
    rw [offered_eq, split]
    simp
  | @rebound port l t serves found target same =>
    refine ⟨t, ?_, same, by simp [rebind, found, target, Target.attachHook]⟩
    rw [offered_eq]
    refine Multiset.mem_add.mpr (.inl (List.mem_filterMap.mpr ⟨l, ?_, target⟩))
    exact List.mem_of_find?_eq_some found

theorem replace_error_hooks {id : TargetId} (error : r.replace old key id name = .error e) :
    e.hooks = [] := by
  obtain none | error := alive_of_error error
  · exact none
  simp only [bind, Except.bind, pure, Except.pure, throw, throwThe, MonadExceptOf.throw] at error
  split at error
  · cases error
    rfl
  split at error
  · cases error
  · split at error <;> cases error
    rfl

theorem replace_tells {id : TargetId} (sound : r.Sound) :
    r.Tells (.replace old key id name) (r.outcome (.replace old key id name)) := by
  simp only [outcome]
  cases result : r.replace old key id name with
  | ok success =>
    obtain ⟨change, port⟩ := success
    obtain ⟨t, rest, same, before, after, -⟩ := replace_offered sound result
    obtain ⟨u, offered, its, hooks⟩ := replace_hooks sound result
    obtain rfl : t = u := Multiset.inj_on_of_nodup_map sound.ids t
      (before ▸ Multiset.mem_cons_self ..) u offered (same.trans its.symm)
    refine .exchanges [t] [⟨key, id, name.getD t.name⟩] rest before after ?_ hooks
    exact fun v hv => by rw [List.mem_singleton.mp hv]; rfl
  | error e => exact .nobody (replace_error_hooks result) rfl

theorem detach_error_hooks {id : TargetId} (error : r.detach id = .error e) : e.hooks = [] := by
  obtain none | error := alive_of_error error
  · exact none
  simp only [pure, Except.pure, throw, throwThe, MonadExceptOf.throw] at error
  split at error
  · cases error
  · split at error <;> cases error
    rfl

theorem detach_tells {id : TargetId} (sound : r.Sound) :
    r.Tells (.detach id) (r.outcome (.detach id)) := by
  simp only [outcome]
  cases result : r.detach id with
  | ok change =>
    obtain ⟨t, -, offers, -, hooks⟩ := detach_offered sound result
    exact .leave [t] offers hooks
  | error e => exact .nobody (detach_error_hooks result) rfl

theorem start_error_hooks {net : Network} (error : r.start net port = .error e) :
    e.hooks = [] := by
  obtain none | error := alive_of_error error
  · exact none
  simp only [bind, Except.bind, pure, Except.pure, throw, throwThe, MonadExceptOf.throw] at error
  split at error
  · cases error
    rfl
  · split at error <;> cases error
    rfl

theorem start_tells {net : Network} (sound : r.Sound) (fresh : OpensUnused net.bind) :
    r.Tells (.start net port) (r.outcome (.start net port)) := by
  simp only [outcome]
  cases result : r.start net port with
  | ok success =>
    obtain ⟨change, master⟩ := success
    obtain ⟨lost, split, -, hooks, -⟩ := start_lost sound fresh result
    exact .leave lost split hooks
  | error e => exact .nobody (start_error_hooks result) rfl

-- ---------------------------------------------------------------------------
-- Ends
-- ---------------------------------------------------------------------------

theorem stopListener_told (sound : r.Sound) (port : Nat) :
    ∃ gone : List Target, r.offered = gone + (r.stopListener port).registry.offered ∧
      (r.stopListener port).registry.pending = r.pending ∧
      (r.stopListener port).hooks = gone.map Target.detachHook := by
  cases found : r.listener? port with
  | none => exact ⟨[], by simp [stopListener, found]⟩
  | some l =>
    refine ⟨l.target.toList, (stopListener_offered sound found).1, ?_⟩
    simp only [stopListener, found, true_and]

theorem stopEach_told (sound : r.Sound) (ports : List Nat) :
    ∃ gone : List Target, r.offered = gone + (r.stopEach ports).registry.offered ∧
      (r.stopEach ports).registry.pending = r.pending ∧
      (r.stopEach ports).hooks = gone.map Target.detachHook := by
  induction ports generalizing r with
  | nil => exact ⟨[], (zero_add _).symm, rfl, rfl⟩
  | cons port ports ih =>
    obtain ⟨first, before, same, told⟩ := stopListener_told sound port
    obtain ⟨others, after, kept, hooks⟩ := ih (listenerFailed_sound sound port)
    refine ⟨first ++ others, ?_, kept.trans same, ?_⟩
    · rw [before, ← Multiset.coe_add, add_assoc]
      exact congrArg _ after
    · rw [List.map_append, ← told, ← hooks]
      rfl

theorem dispose_tells (sound : r.Sound) : r.Tells .dispose r.dispose := by
  by_cases disposed : r.disposed = true
  · simp only [dispose, disposed, if_true]
    exact .nobody rfl rfl
  have empty : r.dispose.registry.offered = 0 := by
    have dead : r.dispose.registry.disposed = true := by simp [dispose, disposed, stopEach_disposed]
    obtain ⟨closed, pending⟩ := (dispose_sound sound).closed dead
    rw [offered_eq, closed, pending, served_nil]
    rfl
  obtain ⟨gone, before, kept, hooks⟩ := stopEach_told sound r.ports
  have left : (r.stopEach r.ports).registry.offered = r.pending := by
    have closed : (r.stopEach r.ports).registry.listeners = [] := by
      rw [stopEach_listeners, List.filter_eq_nil_iff]
      exact fun l hl => by simp [show l.port ∈ r.ports from List.mem_map_of_mem hl]
    rw [offered_eq, closed, kept, served_nil, zero_add]
  refine .leave (gone ++ r.pending) ?_ ?_
  · rw [empty, before, left, add_zero, Multiset.coe_add]
  · simp [dispose, disposed, stopEach_disposed, hooks]

theorem outcome_tells (sound : r.Sound) {op : RegistryOperation} (safe : op.Safe) :
    r.Tells op (r.outcome op) := by
  cases op with
  | attach net t => exact attach_tells sound safe
  | replace old key id name => exact replace_tells sound
  | detach id => exact detach_tells sound
  | start net port => exact start_tells sound safe
  | dispose => exact dispose_tells sound
  | listenerFailed port =>
    obtain ⟨gone, before, -, hooks⟩ := stopListener_told sound port
    exact .leave gone before hooks
  | enterSession port session =>
    refine .nobody rfl ?_
    simp only [outcome]
    cases entered : r.enterSession port session with
    | none => rfl
    | some after => exact (enterSession_offered sound entered).1

end Registry

-- ---------------------------------------------------------------------------
-- What one debuggee hears
-- ---------------------------------------------------------------------------

def Call.isHook : Call → Bool
  | .attachDebugger | .detachDebugger => true
  | _ => false

def heard (key : InstanceKey) (calls : List (InstanceKey × Call)) : List Call :=
  (calls.filter fun c => c.1 = key && c.2.isHook).map Prod.snd

/-- The debugger comes and goes in turn, given whether it is there at first;
the last part tells whether it is there in the end. -/
inductive InTurn : Bool → List Call → Bool → Prop
  | rest (there : Bool) : InTurn there [] there
  | attach : InTurn true calls there → InTurn false (.attachDebugger :: calls) there
  | detach : InTurn false calls there → InTurn true (.detachDebugger :: calls) there

theorem InTurn.append (first : InTurn a xs b) (second : InTurn b ys c) : InTurn a (xs ++ ys) c := by
  induction first with
  | rest => exact second
  | attach _ ih => exact .attach (ih second)
  | detach _ ih => exact .detach (ih second)

theorem InTurn.head (turns : InTurn there calls after) :
    ∀ c ∈ calls.head?, c = if there then .detachDebugger else .attachDebugger := by
  cases turns <;> simp

theorem InTurn.alternates (turns : InTurn there calls after) : calls.IsChain (· ≠ ·) := by
  induction turns with
  | rest => exact .nil
  | attach rest ih => exact ih.cons fun c hc => by simp [rest.head c hc]
  | detach rest ih => exact ih.cons fun c hc => by simp [rest.head c hc]

theorem InTurn.last (turns : InTurn there calls after) :
    (calls.getLast? = some .attachDebugger ∨ calls = [] ∧ there = true) ↔ after = true := by
  induction turns with
  | rest => simp
  | attach rest ih =>
    rw [← ih]
    cases rest <;> simp
  | detach rest ih =>
    rw [← ih]
    cases rest <;> simp

theorem heard_append (key : InstanceKey) (a b : List (InstanceKey × Call)) :
    heard key (a ++ b) = heard key a ++ heard key b := by
  simp [heard]

theorem heard_nothing {key : InstanceKey} {calls : List (InstanceKey × Call)}
    (silent : ∀ c ∈ calls, c.2.isHook = false) : heard key calls = [] := by
  simp only [heard, List.map_eq_nil_iff, List.filter_eq_nil_iff]
  exact fun c hc => by simp [silent c hc]

theorem heard_each {ts : List Target} (keys : (ts.map Target.key).Nodup) {call : Call}
    (hook : call.isHook = true) (key : InstanceKey) :
    heard key (ts.map fun t => (t.key, call)) =
      if key ∈ ts.map Target.key then [call] else [] := by
  induction ts with
  | nil => rfl
  | cons t ts ih =>
    obtain ⟨new, keys⟩ := List.nodup_cons.mp keys
    have rest := ih keys
    by_cases here : t.key = key
    · subst here
      rw [if_neg new] at rest
      simpa [heard, hook] using rest
    · simpa [heard, here, Ne.symm here] using rest

theorem inTurn_exchange {gone come : List Target} {rest : Multiset Target}
    (before : ((gone + rest : Multiset Target).map Target.key).Nodup)
    (after : ((come + rest : Multiset Target).map Target.key).Nodup) (key : InstanceKey) :
    InTurn (decide (key ∈ (gone + rest : Multiset Target).map Target.key))
      (heard key (gone.map Target.detachHook ++ come.map Target.attachHook))
      (decide (key ∈ (come + rest : Multiset Target).map Target.key)) := by
  rw [Multiset.map_add, Multiset.nodup_add] at before after
  obtain ⟨goes, -, apart⟩ := before
  obtain ⟨comes, -, apart'⟩ := after
  have told : heard key (gone.map Target.detachHook ++ come.map Target.attachHook) =
      (if key ∈ gone.map Target.key then [.detachDebugger] else []) ++
        if key ∈ come.map Target.key then [.attachDebugger] else [] := by
    rw [heard_append]
    exact congr (congrArg _ (heard_each goes rfl key)) (heard_each comes rfl key)
  have left : key ∈ gone.map Target.key → key ∉ rest.map Target.key := fun h h' =>
    Multiset.disjoint_left.mp apart h h'
  have entered : key ∈ come.map Target.key → key ∉ rest.map Target.key := fun h h' =>
    Multiset.disjoint_left.mp apart' h h'
  simp only [told, Multiset.map_add, Multiset.mem_add, Multiset.map_coe, Multiset.mem_coe]
  -- an instance that goes and comes back is told both, in this order
  by_cases goes : key ∈ gone.map Target.key <;> by_cases comes : key ∈ come.map Target.key
  · simpa [goes, comes] using InTurn.detach (.attach (.rest true))
  · simpa [goes, comes, left goes] using InTurn.detach (.rest false)
  · simpa [goes, comes, entered comes] using InTurn.attach (.rest true)
  · simpa [goes, comes] using InTurn.rest _

namespace Registry

def engages (r : Registry) (key : InstanceKey) : Bool := r.targets.any fun e => e.1.key = key

theorem engages_eq (r : Registry) (key : InstanceKey) :
    r.engages key = decide (key ∈ r.offered.map Target.key) := by
  rw [Bool.eq_iff_iff, decide_eq_true_iff]
  simp [engages, offered]

theorem Sound.keys {r : Registry} (sound : r.Sound) {identity : InstanceKey → TargetId}
    (identified : ∀ t ∈ r.offered, t.id = identity t.key) : (r.offered.map Target.key).Nodup := by
  have ids := sound.ids
  rw [Multiset.map_congr rfl identified] at ids
  refine Multiset.Nodup.of_map identity ?_
  rwa [Multiset.map_map]

theorem Tells.inTurn {r : Registry} {identity : InstanceKey → TargetId} {op : RegistryOperation}
    (tells : r.Tells op change) (sound : r.Sound) (kept : change.registry.Sound)
    (identified : ∀ t ∈ r.offered, t.id = identity t.key)
    (constant : ∀ i ∈ op.instance?, i.2 = identity i.1) :
    (∀ t ∈ change.registry.offered, t.id = identity t.key) ∧ ∀ key,
      InTurn (r.engages key) (heard key change.hooks) (change.registry.engages key) := by
  simp only [engages_eq]
  cases tells with
  | exchanges gone come rest before after brings hooks =>
    have same : ∀ t ∈ change.registry.offered, t.id = identity t.key := by
      rw [after]
      intro t ht
      obtain ht | ht := Multiset.mem_add.mp ht
      · exact constant _ (brings t ht)
      · exact identified t (before ▸ Multiset.mem_add.mpr (.inr ht))
    have keys := sound.keys identified
    have keys' := kept.keys same
    rw [before] at keys
    rw [after] at keys'
    rw [before, after, hooks]
    exact ⟨after ▸ same, inTurn_exchange keys keys'⟩
  | inVain t unknown brings =>
    refine ⟨identified, fun key => ?_⟩
    by_cases here : t.key = key
    · -- the instance is not on offer under its one identity, so not at all
      have absent : key ∉ r.offered.map Target.key := by
        intro there
        obtain ⟨u, hu, rfl⟩ := Multiset.mem_map.mp there
        refine unknown (Multiset.mem_map.mpr ⟨u, hu, ?_⟩)
        rw [identified u hu, ← here]
        exact (constant _ brings).symm
      simpa [absent, heard, Target.attachHook, Target.detachHook, here, Call.isHook] using
        InTurn.attach (.detach (.rest false))
    · simpa [heard, Target.attachHook, Target.detachHook, here] using InTurn.rest _

end Registry

-- ---------------------------------------------------------------------------
-- Runs
-- ---------------------------------------------------------------------------

theorem Session.Conduct.isHook {s : Session} (conduct : s.Conduct d introduced outcome) :
    ∀ c ∈ outcome.calls, c.isHook = false := by
  cases conduct with
  | ended => exact List.forall_mem_nil _
  | claims state queued live ordinary =>
    cases s.target with
    | none => exact List.forall_mem_nil _
    | some t => exact List.forall_mem_singleton.mpr rfl
  | works state calls queued live work ordinary =>
    intro c hc
    have work := work c hc
    cases c <;> first | rfl | exact work.elim
  | ends queued live closes =>
    unfold unbind
    split
    · exact List.forall_mem_singleton.mpr rfl
    · exact List.forall_mem_nil _

theorem Hub.calls_act {h : Hub} {i : SessionId} {step : Session → Debuggee → Outcome}
    {P : Call → Prop} (each : ∀ s d, ∀ c ∈ (step s d).calls, P c) :
    ∀ c ∈ (h.act i step).2.calls, P c.2 := by
  unfold act
  split
  · exact List.forall_mem_nil _
  · rename_i s _
    dsimp only
    split
    · exact List.forall_mem_nil _
    · intro c hc
      obtain ⟨call, made, rfl⟩ := List.mem_map.mp hc
      exact each s _ call made

namespace Server

theorem Serves.isHook (serves : Serves s t a) : ∀ c ∈ a.calls, c.2.isHook = false := by
  induction serves with
  | traces => exact List.forall_mem_nil _
  | reads => exact List.forall_mem_nil _
  | acts id event result =>
    rw [(settle_keeps ..).2, result]
    exact Hub.calls_act fun session d => (session.step_conduct ⟨d, event⟩).isHook
  | trans _ _ first second => exact List.forall_mem_append.mpr ⟨first, second⟩

theorem heard_apply (s : Server) (change : RegistryChange) (key : InstanceKey) :
    heard key (s.apply change).2.calls = heard key change.hooks := by
  have given := s.hub.calls_terminateAll change.endings
  have nobody : heard key (s.hub.terminateAll change.endings).2.calls = [] :=
    heard_nothing fun c hc => by simp [given c hc, Call.isHook]
  rw [calls_apply, heard_append, nobody, List.append_nil]

theorem calls_connect (s : Server) (port : Nat) (peer : String) :
    (s.connect port peer).2.1.calls = [] := by
  unfold connect
  dsimp only
  split
  · rfl
  · split <;> rfl

/-- What has been on offer since the beginning are instances that never change
their identity. -/
structure Identified (s : Server) (identity : InstanceKey → TargetId) : Prop where
  regular : s.Regular
  identified : ∀ t ∈ s.registry.offered, t.id = identity t.key

variable {s : Server} {identity : InstanceKey → TargetId}

theorem Identified.quiet {next : Server} {calls : List (InstanceKey × Call)}
    (h : s.Identified identity) (regular : next.Regular)
    (same : next.registry.offered = s.registry.offered)
    (silent : ∀ c ∈ calls, c.2.isHook = false) :
    next.Identified identity ∧ ∀ key,
      InTurn (s.registry.engages key) (heard key calls) (next.registry.engages key) := by
  refine ⟨⟨regular, same ▸ h.identified⟩, fun key => ?_⟩
  rw [Registry.engages_eq, Registry.engages_eq, same, heard_nothing silent]
  exact .rest _

theorem Identified.step (h : s.Identified identity) {e : ServerEvent} (safe : e.Safe)
    (constant : ∀ i ∈ e.instance?, i.2 = identity i.1) :
    (s.step e).1.Identified identity ∧ ∀ key,
      InTurn (s.registry.engages key) (heard key (s.step e).2.calls)
        ((s.step e).1.registry.engages key) := by
  have regular := h.regular.step safe
  have sound := h.regular.sound
  obtain ⟨is, step⟩ | ⟨port, peer⟩ | ⟨key, answers⟩ | ⟨-, serves⟩ := s.step_proceeds e
  · have kept := regular.sound
    rw [step, registry_apply] at kept
    obtain ⟨same, told⟩ := (Registry.outcome_tells sound (safe.operation is)).inTurn sound kept
      h.identified (ServerEvent.instance?_operation is ▸ constant)
    rw [step] at regular ⊢
    refine ⟨⟨regular, registry_apply s _ ▸ same⟩, fun key => ?_⟩
    rw [registry_apply, heard_apply]
    exact told key
  · have silent : (s.step (.connect port peer)).2.calls = [] := s.calls_connect ..
    exact h.quiet regular (connect_offered sound port peer).1
      (silent ▸ List.forall_mem_nil _)
  · exact h.quiet regular rfl (List.forall_mem_nil _)
  · exact h.quiet regular (congrArg Registry.offered serves.registry) serves.isHook

theorem Identified.run (h : s.Identified identity) {events : List ServerEvent}
    (safe : ∀ e ∈ events, e.Safe)
    (constant : ∀ e ∈ events, ∀ i ∈ e.instance?, i.2 = identity i.1) (key : InstanceKey) :
    InTurn (s.registry.engages key) (heard key (s.run events).2.calls)
      ((s.run events).1.registry.engages key) := by
  induction events generalizing s with
  | nil => exact .rest _
  | cons e events ih =>
    obtain ⟨safe, others⟩ := List.forall_mem_cons.mp safe
    obtain ⟨constant, rest⟩ := List.forall_mem_cons.mp constant
    obtain ⟨next, first⟩ := h.step safe constant
    simp only [run, Activity.calls_append, heard_append]
    exact (first key).append (ih next others rest)

/-- Whatever is done to a server from its beginning, with whatever outcome, a
debuggee is told in turn that a debugger is there and that it is gone again,
beginning with the former, and it was told last that a debugger is there
exactly if its instance waits for the start or is served. -/
theorem hooks_in_turn {chosen : Settings} {traced : Tracing}
    (created : create chosen traced debuggees = .ok s) (events : List ServerEvent)
    (safe : ∀ e ∈ events, e.Safe) (identity : InstanceKey → TargetId)
    (constant : ∀ e ∈ events, ∀ i ∈ e.instance?, i.2 = identity i.1) (key : InstanceKey) :
    let calls := heard key (s.run events).2.calls
    calls.IsChain (· ≠ ·) ∧ (∀ c ∈ calls.head?, c = .attachDebugger) ∧
      (calls.getLast? = some .attachDebugger ↔
        ∃ e ∈ (s.run events).1.registry.targets, e.1.key = key) := by
  have start : s.registry = .empty := registry_create created
  have identified : s.Identified identity :=
    ⟨regular_create created, by rw [start]; exact List.forall_mem_nil _⟩
  have turns := identified.run safe constant key
  rw [start, show Registry.empty.engages key = false from rfl] at turns
  refine ⟨turns.alternates, by simpa using turns.head, ?_⟩
  simpa [Registry.engages] using turns.last

/-- An instance waits for the start, takes its own place, is lost when no port
opens for it, comes back in vain, and then is served after all. -/
theorem lost_instance_comes_back :
    let closed : List Nat → Nat → Except String Nat := fun ports asked =>
      if asked = 0 then .error "Too many open files (os error 24)" else freePorts ports asked
    let events : List ServerEvent := [.attach freePorts ⟨11, 1, "a"⟩,
      .attach freePorts ⟨12, 2, "b"⟩, .replace 2 12 2 none, .start closed,
      .attach closed ⟨12, 2, "b"⟩, .attach freePorts ⟨12, 2, "b"⟩]
    let activity := (idleServer.run events).2
    heard 12 activity.calls = [.attachDebugger, .detachDebugger, .attachDebugger, .detachDebugger,
      .attachDebugger, .detachDebugger, .attachDebugger] ∧
    ∃ e ∈ (idleServer.run events).1.registry.targets, e.1.key = 12 := by
  intro closed events activity
  have unused : OpensUnused closed := by
    intro ports asked port opened
    simp only [closed] at opened
    split at opened
    · cases opened
    · exact freePorts_unused _ _ _ opened
  have told : heard 12 activity.calls = [.attachDebugger, .detachDebugger, .attachDebugger,
      .detachDebugger, .attachDebugger, .detachDebugger, .attachDebugger] := by
    decide +kernel
  obtain ⟨-, -, last⟩ := hooks_in_turn create_idleServer events
    (by simp [events, ServerEvent.Safe, freePorts_unused, unused]) (fun key => key - 10)
    (by simp [events, ServerEvent.instance?]) 12
  exact ⟨told, last.mp (by rw [show heard 12 (idleServer.run events).2.calls = _ from told]; rfl)⟩

end Server

end DebugAdapter
