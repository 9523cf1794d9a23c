import DebugAdapter.Proofs.Session.HandleLifetime
import DebugAdapter.Proofs.Session.Inquiries

/-!
# Handles and activations

A report of the call stack is compared with the one before by the places of its
frames, not by their activations: a handle outlives every report that shows the
places the stack had when the handle was given. `stale_iff`: a handle is invalid
after a report exactly if that report, or one since the handle was given, shows
other places. A call that is made again from the same line keeps the handles of
the call before (`recalled_function_keeps_handle`).
-/

namespace DebugAdapter

open ValueTable (nonzero)

def places (stack : List CallFrame) : List (Option Location) := stack.map CallFrame.location

def Moment.stack? (m : Moment) : Option (List CallFrame) :=
  match m.event with
  | .notification (.watchesUpdated .callStack _) => some m.debuggee.callStack
  | _ => none

theorem Moment.stack?_eq_some {m : Moment} : m.stack? = some stack ↔
    (∃ frame, m.event = .notification (.watchesUpdated .callStack frame)) ∧
      m.debuggee.callStack = stack := by
  unfold Moment.stack?
  split
  · rename_i frame event
    rw [Option.some.injEq]
    exact ⟨fun same => ⟨⟨frame, event⟩, same⟩, And.right⟩
  · rename_i other
    exact ⟨nofun, fun ⟨⟨frame, event⟩, _⟩ => absurd event (other frame)⟩

/-- The call stack at the last report, none of it before the first one. -/
def lastStack (moments : List Moment) : List CallFrame :=
  (moments.filterMap Moment.stack?).getLast?.getD []

def Moved (stack : List CallFrame) (moments : List Moment) : Prop :=
  ∃ m ∈ moments, ∃ other, m.stack? = some other ∧ places other ≠ places stack

-- ---------------------------------------------------------------------------
-- The recorded stack
-- ---------------------------------------------------------------------------

theorem lastStack_concat (moments : List Moment) (m : Moment) :
    lastStack (moments ++ [m]) = m.stack?.getD (lastStack moments) := by
  unfold lastStack
  rw [List.filterMap_append]
  cases stack : m.stack? <;> simp [stack]

theorem moved_cons : Moved stack (m :: moments) ↔
    (∃ other, m.stack? = some other ∧ places other ≠ places stack) ∨ Moved stack moments := by
  simp [Moved]

namespace SessionState

theorem places_refreshStack (st : SessionState) (d : Debuggee) :
    places (st.refreshStack d).callStack = places d.callStack := by
  unfold refreshStack
  split
  · rename_i same
    exact ((sameLocations_iff ..).mp same).symm
  · rfl

end SessionState

namespace Session

theorem Accepts.callStack {s : Session} (h : s.Accepts d r handled) :
    handled.state.callStack = s.state.callStack := by
  obtain greets | ⟨-, plain | ⟨-, answered⟩ | ⟨-, answered⟩⟩ := h.work
  · obtain ⟨conventions, state⟩ := greets.state
    rw [state]
  · obtain ⟨reason, state⟩ := plain.state
    rw [state]
  · exact (SessionState.inspects_answerVariables answered).callStack
  · exact (SessionState.inspects_answerEvaluate answered).callStack

theorem callStack_step {s : Session} (other : m.stack? = none) :
    (s.step m).session.state.callStack = s.state.callStack := by
  obtain ⟨kept, -⟩ | ⟨directory, r, handled, -, -, accepted, answered⟩ |
    ⟨n, event, -, state, -⟩ := s.step_cases m
  · rw [kept]
  · rw [answered]
    exact accepted.callStack
  · rw [state]
    obtain ⟨scope, frame, -, eq⟩ | ⟨frame, rfl, -⟩ | ⟨⟨reason, exception, eq⟩, -⟩ :=
      s.state.report_cases m.debuggee n
    · rw [eq]
      exact (SessionState.inspects_refreshScope ..).callStack
    · rw [Moment.stack?, event] at other
      cases other
    · rw [eq]

theorem places_step {s : Session} (attached : s.target.isSome) (alive : s.terminated = false)
    (h : m.stack? = some stack) : places (s.step m).session.state.callStack = places stack := by
  obtain ⟨d, event⟩ := m
  obtain ⟨⟨frame, rfl⟩, rfl⟩ := Moment.stack?_eq_some.mp h
  have there : s.target.isNone = false := by simpa using attached
  simp only [step, notify, alive, there, Bool.or_self, Bool.false_eq_true, if_false]
  exact SessionState.places_refreshStack ..

theorem places_run {s : Session} (attached : s.target.isSome) (before moments : List Moment)
    (known : places s.state.callStack = places (lastStack before))
    (alive : (s.run moments).session.terminated = false) :
    places (s.run moments).session.state.callStack = places (lastStack (before ++ moments)) := by
  induction moments generalizing s before with
  | nil => rwa [List.append_nil]
  | cons m moments ih =>
    have here : s.terminated = false := alive_of_run alive
    rw [List.append_cons]
    refine ih (by rwa [step_target]) (before ++ [m]) ?_ alive
    rw [lastStack_concat]
    cases stack : m.stack? with
    | none => rwa [callStack_step stack]
    | some other => exact places_step attached here stack

theorem findsOtherStack_iff {s : Session} (alive : s.terminated = false) :
    s.FindsOtherStack m ↔
      ∃ other, m.stack? = some other ∧ places other ≠ places s.state.callStack := by
  constructor
  · rintro ⟨-, event, differ⟩
    exact ⟨m.debuggee.callStack, Moment.stack?_eq_some.mpr ⟨event, rfl⟩, differ⟩
  · rintro ⟨other, stack, differ⟩
    obtain ⟨event, rfl⟩ := Moment.stack?_eq_some.mp stack
    exact ⟨alive, event, differ⟩

theorem places_step_of_same {s : Session} (attached : s.target.isSome)
    (alive : s.terminated = false) (same : ¬s.FindsOtherStack m) :
    places (s.step m).session.state.callStack = places s.state.callStack := by
  cases stack : m.stack? with
  | none => rw [callStack_step stack]
  | some other =>
    rw [places_step attached alive stack]
    exact Decidable.not_not.mp fun differ =>
      same ((findsOtherStack_iff alive).mpr ⟨other, stack, differ⟩)

theorem stackChanges_iff {s : Session} (attached : s.target.isSome)
    (alive : (s.run moments).session.terminated = false) :
    s.StackChanges moments ↔ Moved s.state.callStack moments := by
  induction moments generalizing s with
  | nil => exact ⟨False.elim, fun ⟨_, mem, _⟩ => absurd mem List.not_mem_nil⟩
  | cons m moments ih =>
    have here : s.terminated = false := alive_of_run alive
    rw [moved_cons, ← findsOtherStack_iff here, StackChanges]
    by_cases found : s.FindsOtherStack m
    · exact ⟨fun _ => .inl found, fun _ => .inl found⟩
    · rw [ih (by rwa [step_target]) alive, Moved, places_step_of_same attached here found]
      rfl

theorem stackChanges_append (s : Session) (a b : List Moment) :
    s.StackChanges (a ++ b) ↔ s.StackChanges a ∨ (s.run a).session.StackChanges b := by
  induction a generalizing s with
  | nil => exact ⟨.inr, fun h => h.resolve_left fun none => none⟩
  | cons m a ih => rw [List.cons_append, StackChanges, StackChanges, ih, or_assoc, run_cons_session]

theorem terminated_step_report (s : Session) (h : m.stack? = some stack) :
    (s.step m).session.terminated = s.terminated := by
  obtain ⟨d, event⟩ := m
  obtain ⟨⟨frame, rfl⟩, -⟩ := Moment.stack?_eq_some.mp h
  simp only [step, notify]
  split <;> rfl

-- ---------------------------------------------------------------------------
-- Stale handles
-- ---------------------------------------------------------------------------

/-- From now on a request for the variables behind a handle is answered as invalid. -/
def Stale (s : Session) (handle : Int) : Prop :=
  ∀ after, (s.run after).session.terminated = false →
    ∀ d directory r, r.command = "variables" → r.int? "variablesReference" = some handle →
      ((s.run after).session.step ⟨d, .request directory r⟩).queued =
        [invalidHandle r.replyTo handle]

theorem expansion_ne_invalidHandle (s : Session) (reply : ReplyTo) (ref : VarRef) (v : Value)
    (handle : Int) : s.expansion reply ref v ≠ invalidHandle reply handle := by
  intro same
  cases same

theorem stale_of_grants (id : SessionId) (port : Nat) (target : Target) (defaultLevels : Nat)
    (before since : List Moment) (given : Moment) :
    let start := fresh id port (some target) defaultLevels
    let s := (start.run before).session
    let now := ((s.step given).session.run since).session
    (n, v) ∈ s.grants given → now.terminated = false →
      (now.Stale n ↔ (s.step given).session.StackChanges since) := by
  intro start s now granted alive
  have attached : start.target.isSome := rfl
  have here : s.target.isSome := by simpa only [s, run_target] using attached
  have stepped : (s.step given).session.target.isSome := by rwa [step_target]
  have there : now.target.isSome := by simpa only [now, run_target] using stepped
  obtain ⟨ref, names, fresh, holds⟩ := get?_of_grants here granted
  have leaf : ref.slot ≠ 0 := by
    have first : 1 ≤ s.state.values.nextSlot := nextSlot_run attached before
    omega
  have member : n ∈ nonzero (shownHandles (s.step given).queued) := by
    rw [← map_grants here given]
    exact List.mem_map_of_mem granted
  have introduced : now.state.initialized = true :=
    initialized_run (initialized_of_shown
      (introduced_run (.inr (unintroduced_fresh id port (some target) defaultLevels)) before)
      (List.mem_filter.mp member).1)
  constructor
  · intro stale
    refine Classical.byContradiction fun same => ?_
    have asked : (Request.withHandle 1 "variables" n).int? "variablesReference" = some n := by
      obtain ⟨positive, bounded⟩ := step_range here given n member
      obtain ⟨number, rfl⟩ := Int.eq_ofNat_of_zero_le (Int.le_trans (by decide) positive)
      exact Request.int?_withHandle (Int.ofNat_le.mp bounded) 1 "variables"
    have invalid := stale [] alive given.debuggee [] _ rfl asked
    have found : (now.step ⟨given.debuggee, .request [] (.withHandle 1 "variables" n)⟩).queued =
        [now.expansion _ ref v] :=
      queued_of_found alive introduced there rfl asked names leaf (get?_run same holds)
    exact expansion_ne_invalidHandle _ _ _ _ _ (List.singleton_inj.mp (found.symm.trans invalid))
  · intro changes after alive d directory r command asked
    have gone : (now.run after).session.state.values.get? ref.slot = none := by
      refine ValueTable.get?_of_lt_first (Nat.lt_of_lt_of_le ?_ (first_run there after))
      exact lt_first_run stepped changes (ValueTable.lt_nextSlot_of_get? holds)
    have asker : (now.run after).session.target.isSome := by rwa [run_target]
    exact queued_of_gone alive (initialized_run introduced) asker command asked names leaf gone

/-- A handle is stale after a report of the call stack exactly if that report, or
another one since the handle was given, shows other places than the report before the
handle. So every handle is stale after a report that shows another number of frames
or some frame at another place than the report before it. -/
theorem stale_iff (id : SessionId) (port : Nat) (target : Target) (defaultLevels : Nat)
    (before since : List Moment) (given report : Moment) :
    let start := fresh id port (some target) defaultLevels
    let s := (start.run before).session
    let now := ((s.step given).session.run since).session
    ∀ n v stack, (n, v) ∈ s.grants given → now.terminated = false →
      report.stack? = some stack →
        ((now.step report).session.Stale n ↔
          Moved (lastStack (before ++ [given])) (since ++ [report])) ∧
        (places stack ≠ places (lastStack (before ++ given :: since)) →
          (now.step report).session.Stale n) := by
  intro start s now n v stack granted alive reported
  have attached : start.target.isSome := rfl
  have stepped : (s.step given).session.target.isSome := by simpa [s] using attached
  have joined : (now.step report).session =
      ((s.step given).session.run (since ++ [report])).session := (run_concat_session ..).symm
  have alive' : ((s.step given).session.run (since ++ [report])).session.terminated = false := by
    rw [← joined, terminated_step_report now reported]
    exact alive
  -- what is recorded when the handle is given, and when the report comes
  have whole (moments : List Moment) (goes : (start.run moments).session.terminated = false) :
      places (start.run moments).session.state.callStack = places (lastStack moments) :=
    places_run attached [] moments rfl goes
  have first : places (s.step given).session.state.callStack =
      places (lastStack (before ++ [given])) := by
    have given' := whole (before ++ [given])
    rw [run_concat_session] at given'
    exact given' (alive_of_run alive)
  have last : places now.state.callStack = places (lastStack (before ++ given :: since)) := by
    have since' := whole (before ++ given :: since)
    rw [run_append_session] at since'
    exact since' alive
  have stale : (now.step report).session.Stale n ↔
      (s.step given).session.StackChanges (since ++ [report]) := by
    rw [joined]
    exact stale_of_grants id port target defaultLevels before _ given granted alive'
  refine ⟨?_, fun differ => ?_⟩
  · rw [stale, stackChanges_iff stepped alive', Moved, first]
    rfl
  · rw [stale, stackChanges_append]
    refine .inr (.inl ((findsOtherStack_iff alive).mpr ⟨stack, reported, ?_⟩))
    rwa [last]

-- ---------------------------------------------------------------------------
-- A call that is made again
-- ---------------------------------------------------------------------------

def calledAt (basePtr : Nat) : Debuggee :=
  .holding (.tuple [.tuple []]) [⟨some "tick", some ⟨0, 3, 1, 3, 9, false⟩, 1, basePtr, 100⟩]

def calledReport (basePtr : Nat) : Moment :=
  ⟨calledAt basePtr, .notification (.watchesUpdated .callStack none)⟩

def introduction : List Moment :=
  [⟨calledAt 10, .request [] (.withHandle 1 "initialize" 0)⟩, calledReport 10]

def globals : Moment := ⟨calledAt 10, .request [] (.withHandle 2 "variables" 2097152)⟩

theorem globals_grants : (2097153, Value.tuple []) ∈
    ((fresh 1 4711 (some ⟨0, 7, "main"⟩) 20).run introduction).session.grants globals := by
  have shown : shownHandles (((fresh 1 4711 (some ⟨0, 7, "main"⟩) 20).run
    introduction).session.step globals).queued = [0, 2097153] := by decide +kernel
  have about : ((fresh 1 4711 (some ⟨0, 7, "main"⟩) 20).run introduction).session.subjects
    globals = [none, some (.tuple [])] := rfl
  rw [grants, shown, about]
  exact List.mem_singleton_self _

/-- Once the function calls another one, no handle from before is answered. -/
theorem nested_call_outdates_handle :
    let nested : Debuggee := .holding (.tuple [])
      [⟨some "log", some ⟨0, 7, 1, 7, 4, false⟩, 2, 30, 110⟩,
        ⟨some "tick", some ⟨0, 3, 1, 3, 9, false⟩, 1, 20, 100⟩]
    let report : Moment := ⟨nested, .notification (.watchesUpdated .callStack none)⟩
    let s := ((fresh 1 4711 (some ⟨0, 7, "main"⟩) 20).run introduction).session
    let now := ((s.step globals).session.run [calledReport 20]).session
    (2097153, Value.tuple []) ∈ s.grants globals ∧ now.terminated = false ∧
      report.stack? = some nested.callStack ∧ (now.step report).session.Stale 2097153 := by
  intro nested report s now
  have alive : now.terminated = false := by decide +kernel
  have life := stale_iff 1 4711 ⟨0, 7, "main"⟩ 20 introduction [calledReport 20] globals report
    2097153 (.tuple []) nested.callStack globals_grants alive rfl
  exact ⟨globals_grants, alive, rfl, life.2 (by decide +kernel)⟩

/-- The function has returned and is called again: an activation of its own, but the
handle from the call before is still answered. -/
theorem recalled_function_keeps_handle :
    let s := ((fresh 1 4711 (some ⟨0, 7, "main"⟩) 20).run introduction).session
    let now := (s.step globals).session
    SessionState.sameActivations (calledAt 20).callStack
        (lastStack (introduction ++ [globals])) = false ∧
      (2097153, Value.tuple []) ∈ s.grants globals ∧
      ¬(now.step (calledReport 20)).session.Stale 2097153 := by
  intro s now
  have alive : (now.step (calledReport 20)).session.terminated = false := by decide +kernel
  have same : ¬now.StackChanges [calledReport 20] := by
    rintro (⟨-, -, differ⟩ | none)
    · exact absurd differ (by decide +kernel)
    · exact none
  have life := stale_of_grants 1 4711 ⟨0, 7, "main"⟩ 20 introduction [calledReport 20] globals
    globals_grants alive
  exact ⟨by decide +kernel, globals_grants, fun stale => same (life.mp stale)⟩

end Session

end DebugAdapter
