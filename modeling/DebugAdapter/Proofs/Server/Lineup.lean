import DebugAdapter.Proofs.Server.Hooks
import DebugAdapter.Proofs.Server.Ports

/-!
# The time of the start

Before the start targets wait in a queue, and after it they have listeners. Both
ways the targets can be lined up in one order, that of their coming, and what a
call leads to depends on this line alone (`LinesUp.offer`): whether it fails and
with what, who is told, and the line after it. The master serves the head of the
line. So it does not matter to anybody when the server is started.
-/

namespace DebugAdapter

inductive OfferCall where
  | attach (t : Target)
  | replace (old : TargetId) (key : InstanceKey) (id : TargetId) (name : Option String)
  deriving Repr, DecidableEq

structure Offer where
  bind : List Nat → Nat → Except String Nat
  call : OfferCall

/-- No listener fails to be opened, and none gets a port that is in use. -/
def Offer.Opens (o : Offer) : Prop := OpensUnused o.bind ∧ OpensAny o.bind

def OfferCall.on (ts : List Target) : OfferCall →
    Except Failure (List Target × List (InstanceKey × Call))
  | .attach t =>
    if t.id ∈ ts.map Target.id then .error (.alreadyAttached t.id t.name)
    else .ok (ts ++ [t], [t.attachHook])
  | .replace old key id name =>
    if id ≠ old ∧ id ∈ ts.map Target.id then .error (.alreadyAttached id (name.getD ""))
    else match ts.find? fun t => t.id = old with
      | none => .error (.notAttached old)
      | some t => .ok (ts.map (Target.replacedBy old key id name),
        [t.detachHook, (key, .attachDebugger)])

-- ---------------------------------------------------------------------------
-- Lines
-- ---------------------------------------------------------------------------

namespace Registry

/-- The targets of a registry, in the order of their coming. -/
structure LinesUp (r : Registry) (begun : Prop) (ts : List Target) : Prop where
  regular : r.Regular begun False
  offers : r.offered = ts
  waits : ¬begun → r.pending = ts
  leads : begun → ∃ port, r.master = some port ∧ r.targetAt port = ts.head?

variable {r : Registry} {begun : Prop} {ts : List Target}

theorem linesUp_empty : empty.LinesUp False [] := ⟨regular_empty, rfl, fun _ => rfl, False.elim⟩

theorem LinesUp.attached (h : r.LinesUp begun ts) (id : TargetId) :
    r.isAttached id = true ↔ id ∈ ts.map Target.id := by
  rw [isAttached_iff, h.offers, Multiset.map_coe, Multiset.mem_coe]

theorem LinesUp.ids (h : r.LinesUp begun ts) : (ts.map Target.id).Nodup := by
  have ids := h.regular.sound.ids
  rwa [h.offers, Multiset.map_coe, Multiset.coe_nodup] at ids

theorem LinesUp.find? (h : r.LinesUp begun ts) (there : t ∈ ts) (same : t.id = old) :
    (ts.find? fun t => t.id = old) = some t := by
  cases found : ts.find? fun t => t.id = old with
  | none => simpa [same] using List.find?_eq_none.mp found t there
  | some u =>
    have its : u.id = old := by simpa using List.find?_some found
    rw [List.inj_on_of_nodup_map h.ids (List.mem_of_find?_eq_some found) there
      (its.trans same.symm)]

theorem LinesUp.alive (h : r.LinesUp begun ts) : r.disposed = false := by
  simpa using h.regular.disposed

-- ---------------------------------------------------------------------------
-- Attachments
-- ---------------------------------------------------------------------------

theorem attach_error_cases {net : Network} (error : r.attach net t = .error e) :
    r.disposed = true ∨
      (r.isAttached t.id = true ∧ e = .atOnce (.alreadyAttached t.id t.name)) ∨
      r.isAttached t.id = false ∧ ∃ cause, net.bind r.ports 0 = .error cause := by
  cases disposed : r.disposed with
  | true => exact .inl rfl
  | false =>
    have alive : r.ensureAlive = .ok () := if_neg (by simp [disposed])
    refine .inr ?_
    simp only [attach, alive, bind, Except.bind, pure, Except.pure, throw, throwThe,
      MonadExceptOf.throw] at error
    split at error
    · rename_i known
      cases error
      exact .inl ⟨known, rfl⟩
    rename_i unknown
    refine .inr ⟨by simpa using unknown, ?_⟩
    split at error
    · cases error
    split at error
    · cases error
    · split at error
      · cases error
      · rename_i opens
        unfold startListener at opens
        split at opens
        · exact ⟨_, ‹_›⟩
        · cases opens

theorem attach_master {net : Network} (ok : r.attach net t = .ok (change, port)) :
    change.registry.master = r.master := by
  obtain ⟨-, -, attaches⟩ := attach_cases ok
  cases attaches with
  | queued => rfl
  | rebound => exact master_rebind ..
  | opened _ _ opens =>
    obtain ⟨-, rfl⟩ := startListener_cases opens
    rfl

theorem LinesUp.attach {net : Network} (h : r.LinesUp begun ts) (fresh : OpensUnused net.bind)
    (ok : r.attach net t = .ok (change, port)) : change.registry.LinesUp begun (ts ++ [t]) := by
  obtain ⟨-, offers, kept⟩ := attach_offered h.regular.sound fresh ok
  refine ⟨h.regular.step kept (attach_step fresh ok), ?_, fun before => ?_, fun runs => ?_⟩
  · rw [offers, h.offers, Multiset.cons_coe]
    exact Multiset.coe_eq_coe.mpr (List.perm_append_singleton t ts).symm
  · obtain ⟨-, -, attaches⟩ := attach_cases ok
    cases attaches with
    | queued => exact congrArg (· ++ [t]) (h.waits before)
    | rebound started => exact absurd (h.regular.started.mp started) before
    | opened started => exact absurd (h.regular.started.mp started) before
  · obtain ⟨master, leads, head⟩ := h.leads runs
    obtain ⟨free, after⟩ := attach_targetAt fresh ok master
    refine ⟨master, (attach_master ok).trans leads, ?_⟩
    rw [after]
    cases ts with
    | nil =>
      -- a master without a target takes the next one
      have idle : r.freeMaster? = some master :=
        freeMaster?_eq_some.mpr ⟨leads, h.regular.led.listens _ leads, head⟩
      obtain ⟨-, -, attaches⟩ := attach_cases ok
      cases attaches with
      | queued stopped =>
        exact absurd (stopped.symm.trans (h.regular.started.mpr runs)) (by decide)
      | rebound _ takes =>
        cases takes.symm.trans idle
        rw [if_pos rfl]
        rfl
      | opened _ busy => cases busy.symm.trans idle
    | cons u us =>
      have elsewhere : port ≠ some master := fun here => nomatch (free here).symm.trans head
      rw [if_neg elsewhere, head]
      rfl

-- ---------------------------------------------------------------------------
-- Replacements
-- ---------------------------------------------------------------------------

theorem replace_error_cases {id : TargetId} (error : r.replace old key id name = .error e) :
    r.disposed = true ∨
      (id ≠ old ∧ r.isAttached id = true ∧ e = .atOnce (.alreadyAttached id (name.getD ""))) ∨
      ¬(id ≠ old ∧ r.isAttached id = true) ∧ r.isAttached old = false ∧
        e = .atOnce (.notAttached old) := by
  cases disposed : r.disposed with
  | true => exact .inl rfl
  | false =>
    have alive : r.ensureAlive = .ok () := if_neg (by simp [disposed])
    refine .inr ?_
    simp only [replace, alive, bind, Except.bind, pure, Except.pure, throw, throwThe,
      MonadExceptOf.throw] at error
    split at error
    · rename_i known
      cases error
      obtain ⟨other, known⟩ : id ≠ old ∧ r.isAttached id = true := by simpa using known
      exact .inl ⟨other, known, rfl⟩
    rename_i unknown
    refine .inr ⟨by simpa using unknown, ?_⟩
    split at error
    · cases error
    rename_i absent
    split at error
    · rename_i unserved
      cases error
      refine ⟨?_, rfl⟩
      have waits : (r.pending.any fun t => t.id = old) = false := by
        by_contra there
        replace there : (r.pending.any fun t => t.id = old) = true := by simpa using there
        obtain ⟨place, placed⟩ := Option.isSome_iff_exists.mp
          ((List.findIdx?_isSome ..).trans there)
        obtain ⟨t, found⟩ := Option.isSome_iff_exists.mp ((List.isSome_find? ..).trans there)
        exact absent place t placed found
      rw [isAttached, waits, unserved]
      rfl
    · cases error

theorem replace_master {id : TargetId} (sound : r.Sound)
    (ok : r.replace old key id name = .ok (change, port)) :
    change.registry.master = r.master := by
  obtain ⟨-, -, replaces⟩ := replace_cases sound ok
  cases replaces with
  | queued => rfl
  | rebound => exact master_rebind ..

theorem map_replacedBy {a b : List Target} {t : Target} {id : TargetId}
    (ids : ((a ++ t :: b).map Target.id).Nodup) (same : t.id = old) :
    (a ++ t :: b).map (Target.replacedBy old key id name) =
      a ++ ⟨key, id, name.getD t.name⟩ :: b := by
  rw [List.map_append, List.map_cons] at ids
  have others := (List.nodup_middle.mp ids).notMem
  rw [← List.map_append] at others
  have kept : ∀ u ∈ a ++ b, Target.replacedBy old key id name u = u := fun u hu =>
    if_neg fun its => others (List.mem_map.mpr ⟨u, hu, its.trans same.symm⟩)
  have before := List.map_congr_left fun u hu => kept u (List.mem_append_left b hu)
  have after := List.map_congr_left fun u hu => kept u (List.mem_append_right a hu)
  rw [List.map_id'] at before after
  rw [List.map_append, List.map_cons, before, after, Target.replacedBy, if_pos same]

theorem LinesUp.replace {id : TargetId} (h : r.LinesUp begun ts)
    (ok : r.replace old key id name = .ok (change, port)) :
    change.registry.LinesUp begun (ts.map (Target.replacedBy old key id name)) := by
  have sound := h.regular.sound
  obtain ⟨t, rest, same, before, offers, kept⟩ := replace_offered sound ok
  refine ⟨h.regular.step kept (replace_step sound ok), ?_, fun waits => ?_, fun runs => ?_⟩
  · have there : t ∈ ts := Multiset.mem_coe.mp
      (h.offers ▸ before ▸ Multiset.mem_cons_self t rest)
    obtain ⟨a, b, rfl⟩ := List.append_of_mem there
    have others : rest = (a ++ b : List Target) := by
      have split := before.symm.trans h.offers
      rw [← Multiset.coe_eq_coe.mpr List.perm_middle.symm, ← Multiset.cons_coe] at split
      exact (Multiset.cons_inj_right t).mp split
    rw [offers, others, map_replacedBy h.ids same, Multiset.cons_coe]
    exact Multiset.coe_eq_coe.mpr List.perm_middle.symm
  · obtain ⟨-, -, replaces⟩ := replace_cases sound ok
    cases replaces with
    | queued a b t split same =>
      have line := h.waits waits
      rw [split] at line
      subst line
      exact (map_replacedBy h.ids same).symm
    | rebound _ found =>
      exact absurd (h.regular.started.mp (sound.started_of_listener? found)) waits
  · obtain ⟨master, leads, head⟩ := h.leads runs
    refine ⟨master, (replace_master sound ok).trans leads, ?_⟩
    rw [replace_targetAt sound ok, head, List.head?_map]

-- ---------------------------------------------------------------------------
-- The start
-- ---------------------------------------------------------------------------

theorem LinesUp.start (h : r.LinesUp False ts) (net : Network) (fresh : OpensUnused net.bind)
    (any : OpensAny net.bind) (ok : r.start net asked = .ok (change, port)) :
    change.registry.LinesUp True ts ∧ change.hooks = [] := by
  have sound := h.regular.sound
  obtain ⟨lost, -, none, hooks, -⟩ := start_lost sound fresh ok
  obtain ⟨-, offers⟩ := start_offered sound fresh ok
  have safe : (RegistryOperation.start net asked).Safe := fresh
  have attempted : r.attempt (.start net asked) = .ok change.registry := by
    rw [attempt, ok]
    rfl
  refine ⟨⟨?_, (offers any).trans h.offers, fun before => absurd trivial before,
    fun _ => ⟨port, ?_⟩⟩, by rw [hooks, none any]; rfl⟩
  · simpa using attempt_regular h.regular safe attempted
  · rw [← h.waits id]
    exact start_master fresh ok

-- ---------------------------------------------------------------------------
-- Calls
-- ---------------------------------------------------------------------------

def offer (r : Registry) (net : Network) : OfferCall → Except RegistryFailure RegistryChange
  | .attach t => (r.attach net t).map Prod.fst
  | .replace old key id name => (r.replace old key id name).map Prod.fst

/-- What a call leads to depends on the line alone. -/
theorem LinesUp.offer (h : r.LinesUp begun ts) (net : Network) (fresh : OpensUnused net.bind)
    (any : OpensAny net.bind) (c : OfferCall) :
    (∃ failure, c.on ts = .error failure ∧ r.offer net c = .error (.atOnce failure)) ∨
      ∃ next hooks change, c.on ts = .ok (next, hooks) ∧ r.offer net c = .ok change ∧
        change.hooks = hooks ∧ change.registry.LinesUp begun next := by
  cases c with
  | attach t =>
    simp only [OfferCall.on, Registry.offer, ← h.attached]
    cases result : r.attach net t with
    | error e =>
      obtain disposed | ⟨known, rfl⟩ | ⟨-, cause, fails⟩ := attach_error_cases result
      · cases h.alive.symm.trans disposed
      · exact .inl ⟨_, if_pos known, rfl⟩
      · obtain ⟨port, opens⟩ := any r.ports
        cases fails.symm.trans opens
    | ok success =>
      obtain ⟨change, port⟩ := success
      obtain ⟨-, unknown, -⟩ := attach_cases result
      refine .inr ⟨_, _, change, if_neg (by simp [unknown]), rfl, attach_hooks result, ?_⟩
      exact h.attach fresh result
  | replace old key id name =>
    simp only [OfferCall.on, Registry.offer, ← h.attached]
    cases result : r.replace old key id name with
    | error e =>
      obtain disposed | ⟨other, known, rfl⟩ | ⟨unknown, absent, rfl⟩ := replace_error_cases result
      · cases h.alive.symm.trans disposed
      · exact .inl ⟨_, if_pos ⟨other, known⟩, rfl⟩
      · have missing : (ts.find? fun t => t.id = old) = none := by
          refine List.find?_eq_none.mpr fun t ht same => ?_
          have there := (h.attached old).mpr (List.mem_map.mpr ⟨t, ht, by simpa using same⟩)
          exact absurd (absent.symm.trans there) (by decide)
        refine .inl ⟨_, ?_, rfl⟩
        rw [if_neg unknown, missing]
    | ok success =>
      obtain ⟨change, port⟩ := success
      have sound := h.regular.sound
      obtain ⟨-, unknown, -⟩ := replace_cases sound result
      obtain ⟨t, offered, same, hooks⟩ := replace_hooks sound result
      have found : (ts.find? fun t => t.id = old) = some t :=
        h.find? (Multiset.mem_coe.mp (h.offers ▸ offered)) same
      have free : ¬(id ≠ old ∧ r.isAttached id = true) := by simpa [imp_iff_not_or] using unknown
      refine .inr ⟨_, _, change, ?_, rfl, hooks, h.replace result⟩
      rw [if_neg free, found]

end Registry

-- ---------------------------------------------------------------------------
-- Calls in a row
-- ---------------------------------------------------------------------------

/-- What calls lead to: the line after them, who is told, and which of them fail. -/
structure Lineup where
  targets : List Target
  hooks : List (InstanceKey × Call)
  results : List (Except Failure Unit)

def lineUp (ts : List Target) : List OfferCall → Lineup
  | [] => ⟨ts, [], []⟩
  | c :: rest =>
    match c.on ts with
    | .error failure =>
      let others := lineUp ts rest
      { others with results := .error failure :: others.results }
    | .ok (next, hooks) =>
      let others := lineUp next rest
      ⟨others.targets, hooks ++ others.hooks, .ok () :: others.results⟩

theorem lineUp_append (ts : List Target) (a b : List OfferCall) :
    lineUp ts (a ++ b) =
      let first := lineUp ts a
      let others := lineUp first.targets b
      ⟨others.targets, first.hooks ++ others.hooks, first.results ++ others.results⟩ := by
  induction a generalizing ts with
  | nil => rfl
  | cons c a ih =>
    simp only [List.cons_append, lineUp]
    cases c.on ts with
    | error failure => simp only [ih, List.cons_append]
    | ok result => simp only [ih, List.cons_append, List.append_assoc]

namespace Server

def offer (s : Server) (o : Offer) : Server × Activity × Except Failure Unit :=
  match o.call with
  | .attach t =>
    let (s, activity, result) := s.attach (s.network o.bind) t
    (s, activity, result.map fun _ => ())
  | .replace old key id name =>
    let (s, activity, result) := s.replace old key id name
    (s, activity, result.map fun _ => ())

def offerAll (s : Server) : List Offer → Server × Activity × List (Except Failure Unit)
  | [] => (s, .none, [])
  | o :: rest =>
    let (s, first, result) := s.offer o
    let (s, others, results) := s.offerAll rest
    (s, first ++ others, result :: results)

theorem offer_eq (s : Server) (o : Offer) :
    s.offer o = s.applyResult ((s.registry.offer (s.network o.bind) o.call).map fun change =>
      (change, ())) := by
  obtain ⟨bind, call⟩ := o
  cases call with
  | attach t =>
    simp only [offer, attach, Registry.offer]
    cases s.registry.attach (s.network bind) t <;> rfl
  | replace old key id name =>
    simp only [offer, replace, Registry.offer]
    cases s.registry.replace old key id name <;> rfl

structure Follows (ts : List Target) (calls : List OfferCall) (begun : Prop)
    (after : Server × Activity × List (Except Failure Unit)) : Prop where
  line : after.1.registry.LinesUp begun (lineUp ts calls).targets
  results : after.2.2 = (lineUp ts calls).results
  told : ∀ key, heard key after.2.1.calls = heard key (lineUp ts calls).hooks

theorem offerAll_follows {s : Server} {begun : Prop} (h : s.registry.LinesUp begun ts)
    {offers : List Offer} (opens : ∀ o ∈ offers, o.Opens) :
    Follows ts (offers.map Offer.call) begun (s.offerAll offers) := by
  induction offers generalizing s ts with
  | nil => exact ⟨h, rfl, fun _ => rfl⟩
  | cons o offers ih =>
    obtain ⟨⟨fresh, any⟩, others⟩ := List.forall_mem_cons.mp opens
    have offered := s.offer_eq o
    simp only [List.map_cons, offerAll]
    obtain ⟨failure, line, fails⟩ | ⟨next, hooks, change, line, ok, told, after⟩ :=
      h.offer (s.network o.bind) fresh any o.call
    · rw [fails] at offered
      simp only [Except.map, applyResult] at offered
      rw [offered]
      obtain ⟨rest, results, told⟩ := ih h others
      refine ⟨?_, ?_, fun key => ?_⟩
      · simp only [lineUp, line]
        exact rest
      · simp only [lineUp, line, results]
        rfl
      · simp only [lineUp, line]
        exact told key
    · rw [ok] at offered
      simp only [Except.map, applyResult] at offered
      rw [offered]
      have lined : (s.apply change).1.registry.LinesUp begun next := by
        rw [registry_apply]
        exact after
      obtain ⟨rest, results, others⟩ := ih lined others
      refine ⟨?_, ?_, fun key => ?_⟩
      · simp only [lineUp, line]
        exact rest
      · simp only [lineUp, line, results]
      · simp only [lineUp, line]
        rw [Activity.calls_append, heard_append, heard_apply, others, told, heard_append]

end Server

-- ---------------------------------------------------------------------------
-- Servers that are started
-- ---------------------------------------------------------------------------

structure Launch where
  early : List Offer
  bind : List Nat → Nat → Except String Nat
  late : List Offer

namespace Launch

def calls (l : Launch) : List OfferCall := (l.early ++ l.late).map Offer.call

def Opens (l : Launch) : Prop :=
  OpensUnused l.bind ∧ OpensAny l.bind ∧ ∀ o ∈ l.early ++ l.late, o.Opens

end Launch

structure Launched where
  server : Server
  activity : Activity
  results : List (Except Failure Unit)
  started : Except Failure Nat

def Registry.ServesAll (r : Registry) : Prop :=
  (∀ e ∈ r.targets, ∃ port, e.2 = some port ∧ r.targetAt port = some e.1) ∧
    (r.targets.map Prod.snd).Nodup

theorem Registry.Sound.servesAll {r : Registry} (sound : r.Sound) (running : r.pending = []) :
    r.ServesAll := by
  have serves : ∀ e ∈ r.targets, ∃ port, e.2 = some port ∧ r.targetAt port = some e.1 := by
    intro e there
    rw [targets, running, List.map_nil, List.append_nil] at there
    obtain ⟨l, hl, bound⟩ := List.mem_filterMap.mp there
    obtain ⟨t, target, rfl⟩ := Option.map_eq_some_iff.mp bound
    refine ⟨l.port, rfl, ?_⟩
    rw [targetAt_of_listener? ((listener?_iff sound.ports).mpr ⟨hl, rfl⟩), target]
  have different : r.targets.Nodup := by
    have ids := sound.ids
    rw [offered, Multiset.map_coe, Multiset.coe_nodup] at ids
    exact (ids.of_map _).of_map _
  refine ⟨serves, different.map_on fun e there e' there' same => Prod.ext ?_ same⟩
  obtain ⟨port, here, served⟩ := serves e there
  obtain ⟨port', here', served'⟩ := serves e' there'
  rw [here, here', Option.some.injEq] at same
  subst same
  exact Option.some.inj (served.symm.trans served')

namespace Server

def launch (s : Server) (l : Launch) : Launched :=
  let (s, first, results) := s.offerAll l.early
  let (s, opening, started) := s.start (s.network l.bind)
  let (s, others, more) := s.offerAll l.late
  ⟨s, first ++ opening ++ others, results ++ more, started⟩

theorem start_follows {s : Server} (h : s.registry.LinesUp False ts)
    {bind : List Nat → Nat → Except String Nat} (fresh : OpensUnused bind) (any : OpensAny bind)
    (started : (s.start (s.network bind)).2.2 = .ok port) :
    (s.start (s.network bind)).1.registry.LinesUp True ts ∧
      ∀ key, heard key (s.start (s.network bind)).2.1.calls = [] := by
  cases result : s.registry.start (s.network bind) s.settings.port with
  | error e =>
    rw [start, result] at started
    cases started
  | ok success =>
    obtain ⟨change, master⟩ := success
    obtain ⟨line, silent⟩ := h.start (s.network bind) fresh any result
    rw [start, result]
    refine ⟨?_, fun key => (s.heard_apply change key).trans (by rw [silent]; rfl)⟩
    exact (congrArg (Registry.LinesUp · True ts) (s.registry_apply change)).mpr line

theorem launch_follows {s : Server} (empty : s.registry = .empty) {l : Launch} (opens : l.Opens)
    (started : (s.launch l).started = .ok port) :
    Follows [] l.calls True
      ((s.launch l).server, (s.launch l).activity, (s.launch l).results) := by
  obtain ⟨fresh, any, offers⟩ := opens
  obtain ⟨before, after⟩ := List.forall_mem_append.mp offers
  have begins : s.registry.LinesUp False [] := empty ▸ Registry.linesUp_empty
  obtain ⟨line, early, told⟩ := offerAll_follows begins before
  obtain ⟨running, silent⟩ := start_follows line fresh any started
  obtain ⟨line', late, told'⟩ := offerAll_follows running after
  rw [Launch.calls, List.map_append]
  refine ⟨?_, ?_, fun key => ?_⟩
  · rw [lineUp_append]
    exact line'
  · rw [lineUp_append]
    exact congrArg₂ (· ++ ·) early late
  · rw [lineUp_append, heard_append, ← told, ← told']
    simp only [launch, Activity.calls_append, heard_append, silent, List.append_nil]

/-- It does not matter when a new server is started in between calls that offer instances, as
long as listeners open: the same calls fail, with the same failures; the same targets are on
offer in the end, each on a port of its own, and the same one, if any, on the master's port;
and every debuggee is told the same of the debugger, in the same order. -/
theorem start_at_any_time {chosen : Settings} {traced : Tracing}
    (created : create chosen traced debuggees = .ok s) {a b : Launch} (same : a.calls = b.calls)
    (opens : a.Opens) (opens' : b.Opens) (started : (s.launch a).started = .ok p)
    (started' : (s.launch b).started = .ok q) :
    let x := s.launch a
    let y := s.launch b
    x.results = y.results ∧
      (x.server.registry.targets.map Prod.fst).Perm (y.server.registry.targets.map Prod.fst) ∧
      (∃ master master', x.server.registry.master = some master ∧
        y.server.registry.master = some master' ∧
        x.server.registry.targetAt master = y.server.registry.targetAt master') ∧
      x.server.registry.ServesAll ∧ y.server.registry.ServesAll ∧
      ∀ key, heard key x.activity.calls = heard key y.activity.calls := by
  intro x y
  have empty := registry_create created
  obtain ⟨line, results, told⟩ := launch_follows empty opens started
  obtain ⟨line', results', told'⟩ := launch_follows empty opens' started'
  rw [same] at line results told
  obtain ⟨master, leads, head⟩ := line.leads trivial
  obtain ⟨master', leads', head'⟩ := line'.leads trivial
  have serves {r : Registry} {ts : List Target} (line : r.LinesUp True ts) : r.ServesAll :=
    line.regular.sound.servesAll
      (line.regular.sound.running (line.regular.started.mpr trivial))
  refine ⟨results.trans results'.symm, ?_, ⟨master, master', leads, leads', ?_⟩, serves line,
    serves line', fun key => (told key).trans (told' key).symm⟩
  · exact Multiset.coe_eq_coe.mp (line.offers.trans line'.offers.symm)
  · exact head.trans head'.symm

/-- A server is started before all calls or after them; the first target, which the master
serves, is replaced, and its identity comes back. -/
theorem started_first_or_last :
    let offers : List Offer := [⟨freePorts, .attach ⟨11, 1, "a"⟩⟩,
      ⟨freePorts, .attach ⟨12, 1, "b"⟩⟩, ⟨freePorts, .attach ⟨13, 2, "c"⟩⟩,
      ⟨freePorts, .replace 1 14 3 none⟩, ⟨freePorts, .replace 9 15 4 none⟩,
      ⟨freePorts, .replace 2 13 2 (some "d")⟩, ⟨freePorts, .attach ⟨11, 1, "e"⟩⟩]
    let a : Launch := ⟨[], freePorts, offers⟩
    let b : Launch := ⟨offers, freePorts, []⟩
    (idleServer.launch b).results = [.ok (), .error (.alreadyAttached 1 "b"), .ok (), .ok (),
        .error (.notAttached 9), .ok (), .ok ()] ∧
      (idleServer.launch a).results = (idleServer.launch b).results ∧
      ((idleServer.launch a).server.registry.targets.map Prod.fst).Perm
        [⟨14, 3, "a"⟩, ⟨13, 2, "d"⟩, ⟨11, 1, "e"⟩] ∧
      heard 13 (idleServer.launch a).activity.calls =
        [.attachDebugger, .detachDebugger, .attachDebugger] := by
  intro offers a b
  have opens : ∀ o ∈ offers, o.Opens := by
    simp [offers, Offer.Opens, freePorts_unused, freePorts_any]
  have opens' : b.Opens := ⟨freePorts_unused, freePorts_any, by rwa [List.append_nil]⟩
  obtain ⟨results, targets, -, -, -, told⟩ := start_at_any_time create_idleServer
    (a := a) (b := b) rfl ⟨freePorts_unused, freePorts_any, opens⟩ opens' (p := 41912)
    (q := 41912) (by decide +kernel) (by decide +kernel)
  have last : (idleServer.launch b).server.registry.targets.map Prod.fst =
      [⟨14, 3, "a"⟩, ⟨13, 2, "d"⟩, ⟨11, 1, "e"⟩] := by decide +kernel
  have heard13 : heard 13 (idleServer.launch b).activity.calls =
      [.attachDebugger, .detachDebugger, .attachDebugger] := by decide +kernel
  refine ⟨by decide +kernel, results, ?_, (told 13).trans heard13⟩
  rwa [last] at targets

end Server

end DebugAdapter
