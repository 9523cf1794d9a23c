import DebugAdapter.Proofs.Session.Introduction

/-!
# How long a handle lives

A slot is given out once in a session: over a run the slots of the handles
that are shown ascend. A handle finds the value it was shown for until a
report finds another call stack, and finds nothing from then on.
`handle_lifetime` says both for every run of an attached session.
-/

namespace DebugAdapter

open ValueTable (nonzero)

namespace Session

def StackChanges (s : Session) : List Moment → Prop
  | [] => False
  | m :: rest => s.FindsOtherStack m ∨ (s.step m).session.StackChanges rest

-- ---------------------------------------------------------------------------
-- Slots
-- ---------------------------------------------------------------------------

theorem nextSlot_step {s : Session} (attached : s.target.isSome) (m : Moment) :
    s.state.values.nextSlot ≤ (s.step m).session.state.values.nextSlot := by
  by_cases found : s.FindsOtherStack m
  · simp [(step_cleared attached found).1]
  · obtain ⟨ws, issues, -⟩ := s.step_shows found
    exact issues.grows.nextSlot_le

theorem nextSlot_run {s : Session} (attached : s.target.isSome) (moments : List Moment) :
    s.state.values.nextSlot ≤ (s.run moments).session.state.values.nextSlot := by
  induction moments generalizing s with
  | nil => exact Nat.le_refl _
  | cons m moments ih =>
    exact Nat.le_trans (nextSlot_step attached m) (ih (by rwa [step_target]))

theorem step_ascending {s : Session} (attached : s.target.isSome) (m : Moment) :
    (nonzero (shownHandles (s.step m).queued)).Pairwise (VarRef.slotOf · < VarRef.slotOf ·) ∧
      ∀ n ∈ nonzero (shownHandles (s.step m).queued),
        s.state.values.nextSlot ≤ VarRef.slotOf n ∧
          VarRef.slotOf n < (s.step m).session.state.values.nextSlot := by
  by_cases found : s.FindsOtherStack m
  · simp [(step_cleared attached found).2]
  · obtain ⟨ws, issues, -⟩ := s.step_shows found
    exact issues.ascending

theorem run_ascending {s : Session} (attached : s.target.isSome) (moments : List Moment) :
    (nonzero (shownHandles (s.run moments).queued)).Pairwise
        (VarRef.slotOf · < VarRef.slotOf ·) ∧
      ∀ n ∈ nonzero (shownHandles (s.run moments).queued),
        s.state.values.nextSlot ≤ VarRef.slotOf n := by
  induction moments generalizing s with
  | nil => simp [rest]
  | cons m moments ih =>
    obtain ⟨firstAscend, firstRange⟩ := step_ascending attached m
    obtain ⟨restAscend, restRange⟩ := ih (s := (s.step m).session) (by rwa [step_target])
    have later := nextSlot_step attached m
    rw [run_cons_queued, shownHandles_append, ValueTable.nonzero_append]
    refine ⟨List.pairwise_append.mpr ⟨firstAscend, restAscend, fun a ha b hb => ?_⟩,
      fun n hn => ?_⟩
    · exact Nat.lt_of_lt_of_le (firstRange a ha).2 (restRange b hb)
    · obtain hn | hn := List.mem_append.mp hn
      · exact (firstRange n hn).1
      · exact Nat.le_trans later (restRange n hn)

theorem step_range {s : Session} (attached : s.target.isSome) (m : Moment) :
    ∀ n ∈ nonzero (shownHandles (s.step m).queued), 1 ≤ n ∧ n ≤ VarRef.maxHandle := by
  by_cases found : s.FindsOtherStack m
  · simp [(step_cleared attached found).2]
  · obtain ⟨ws, issues, -⟩ := s.step_shows found
    exact issues.range

theorem run_range {s : Session} (attached : s.target.isSome) (moments : List Moment) :
    ∀ n ∈ nonzero (shownHandles (s.run moments).queued), 1 ≤ n ∧ n ≤ VarRef.maxHandle := by
  induction moments generalizing s with
  | nil => simp [rest]
  | cons m moments ih =>
    rw [run_cons_queued, shownHandles_append, ValueTable.nonzero_append]
    intro n hn
    obtain hn | hn := List.mem_append.mp hn
    · exact step_range attached m n hn
    · exact ih (s := (s.step m).session) (by rwa [step_target]) n hn

-- ---------------------------------------------------------------------------
-- Values
-- ---------------------------------------------------------------------------

theorem get?_of_grants {s : Session} (attached : s.target.isSome) (h : (n, v) ∈ s.grants m) :
    ∃ ref, VarRef.decode n = .ok ref ∧ s.state.values.nextSlot ≤ ref.slot ∧
      (s.step m).session.state.values.get? ref.slot = some v := by
  by_cases found : s.FindsOtherStack m
  · simp [grants, (step_cleared attached found).2] at h
  · obtain ⟨ws, issues, same⟩ := s.step_shows found
    rw [grants, same] at h
    obtain ⟨ref, names, -, fresh, holds⟩ := issues.get? h
    exact ⟨ref, names, fresh, holds⟩

theorem map_grants {s : Session} (attached : s.target.isSome) (m : Moment) :
    (s.grants m).map Prod.fst = nonzero (shownHandles (s.step m).queued) := by
  by_cases found : s.FindsOtherStack m
  · simp [grants, (step_cleared attached found).2]
  · obtain ⟨ws, issues, same⟩ := s.step_shows found
    rw [grants, same]
    exact issues.map_issued

theorem get?_run {s : Session} (same : ¬s.StackChanges moments)
    (h : s.state.values.get? slot = some v) :
    (s.run moments).session.state.values.get? slot = some v := by
  induction moments generalizing s with
  | nil => exact h
  | cons m moments ih =>
    obtain ⟨ws, issues, -⟩ := s.step_shows fun found => same (.inl found)
    exact ih (fun changes => same (.inr changes)) (issues.grows.get? h)

theorem first_step {s : Session} (attached : s.target.isSome) (m : Moment) :
    s.state.values.first ≤ (s.step m).session.state.values.first := by
  by_cases found : s.FindsOtherStack m
  · rw [(step_cleared attached found).1]
    exact Nat.le_add_right ..
  · obtain ⟨ws, issues, -⟩ := s.step_shows found
    exact Nat.le_of_eq issues.grows.1.symm

theorem first_run {s : Session} (attached : s.target.isSome) (moments : List Moment) :
    s.state.values.first ≤ (s.run moments).session.state.values.first := by
  induction moments generalizing s with
  | nil => exact Nat.le_refl _
  | cons m moments ih =>
    exact Nat.le_trans (first_step attached m) (ih (by rwa [step_target]))

/-- A slot that was given out before a report finds another stack lies before
the first slot of every later generation. -/
theorem lt_first_run {s : Session} (attached : s.target.isSome)
    (changes : s.StackChanges moments) (given : slot < s.state.values.nextSlot) :
    slot < (s.run moments).session.state.values.first := by
  induction moments generalizing s with
  | nil => exact changes.elim
  | cons m moments ih =>
    have there : (s.step m).session.target.isSome := by rwa [step_target]
    obtain found | changes := changes
    · have cleared : s.state.values.nextSlot = (s.step m).session.state.values.first := by
        rw [(step_cleared attached found).1]
        rfl
      exact Nat.lt_of_lt_of_le (cleared ▸ given) (first_run there moments)
    · exact ih there changes (Nat.lt_of_lt_of_le given (nextSlot_step attached m))

-- ---------------------------------------------------------------------------
-- Requests with a handle
-- ---------------------------------------------------------------------------

def expansion (s : Session) (reply : ReplyTo) (ref : VarRef) (v : Value) : Outgoing :=
  .respond reply (Json.object
    (SessionState.variablesMember (s.state.values.expand ref.scope ref.frame v).1))

def invalidHandle (reply : ReplyTo) (handle : Int) : Outgoing :=
  .respondError reply ErrorId.invalidHandle (Failure.invalidHandle handle).message

theorem queued_of_found {s : Session} (alive : s.terminated = false)
    (introduced : s.state.initialized = true) (attached : s.target.isSome)
    (command : r.command = "variables") (asked : r.int? "variablesReference" = some n)
    (names : VarRef.decode n = .ok ref) (leaf : ref.slot ≠ 0)
    (holds : s.state.values.get? ref.slot = some v) :
    (s.request d directory r).queued = [s.expansion r.replyTo ref v] := by
  rw [request_variables alive introduced attached command]
  simp [SessionState.answerVariables, asked, names, VarRef.isRoot, leaf, holds, answer,
    Handled.answer, answerNow, expansion]

theorem queued_of_gone {s : Session} (alive : s.terminated = false)
    (introduced : s.state.initialized = true) (attached : s.target.isSome)
    (command : r.command = "variables") (asked : r.int? "variablesReference" = some n)
    (names : VarRef.decode n = .ok ref) (leaf : ref.slot ≠ 0)
    (gone : s.state.values.get? ref.slot = none) :
    (s.request d directory r).queued = [invalidHandle r.replyTo n] := by
  rw [request_variables alive introduced attached command]
  simp [SessionState.answerVariables, asked, names, VarRef.isRoot, leaf, gone, answer, refuse,
    invalidHandle, Failure.errorId]

-- ---------------------------------------------------------------------------
-- Lifetime
-- ---------------------------------------------------------------------------

/-- No handle is shown twice in a run, and every one is a positive number of 31
bits with a slot. A handle that a step shows for a value is answered, as long
as the session goes on, by what the value holds until a report finds another
call stack; from then on it is answered as invalid. -/
theorem handle_lifetime (id : SessionId) (port : Nat) (target : Target) (defaultLevels : Nat) :
    let start := fresh id port (some target) defaultLevels
    (∀ moments, (nonzero (shownHandles (start.run moments).queued)).Nodup ∧
      ∀ n ∈ nonzero (shownHandles (start.run moments).queued),
        1 ≤ n ∧ n ≤ 0x7fffffff ∧ 0 < VarRef.slotOf n) ∧
    ∀ before m after,
      let s := (start.run before).session
      let later := ((s.step m).session.run after).session
      (s.grants m).map Prod.fst = nonzero (shownHandles (s.step m).queued) ∧
      ∀ n v, (n, v) ∈ s.grants m → later.terminated = false →
        ∀ d directory r, r.command = "variables" → r.int? "variablesReference" = some n →
          (¬(s.step m).session.StackChanges after → ∃ ref, VarRef.decode n = .ok ref ∧
            (later.step ⟨d, .request directory r⟩).queued = [later.expansion r.replyTo ref v]) ∧
          ((s.step m).session.StackChanges after →
            (later.step ⟨d, .request directory r⟩).queued = [invalidHandle r.replyTo n]) := by
  intro start
  have attached : start.target.isSome := rfl
  refine ⟨fun moments => ?_, fun before m after => ?_⟩
  · obtain ⟨ascend, slots⟩ := run_ascending attached moments
    refine ⟨ascend.imp fun {a b} less same => ?_, fun n hn => ?_⟩
    · exact absurd less (same ▸ Nat.lt_irrefl _)
    · obtain ⟨positive, bounded⟩ := run_range attached moments n hn
      exact ⟨positive, bounded, slots n hn⟩
  intro s later
  have here : s.target.isSome := by simpa only [s, run_target] using attached
  have stepped : (s.step m).session.target.isSome := by rwa [step_target]
  have there : later.target.isSome := by simpa only [later, run_target] using stepped
  refine ⟨map_grants here m, fun n v granted alive d directory r command asked => ?_⟩
  obtain ⟨ref, names, fresh, holds⟩ := get?_of_grants here granted
  have leaf : ref.slot ≠ 0 := by
    have first : 1 ≤ s.state.values.nextSlot := nextSlot_run attached before
    omega
  have shown : n ∈ shownHandles (s.step m).queued := by
    have member : n ∈ nonzero (shownHandles (s.step m).queued) := by
      rw [← map_grants here m]
      exact List.mem_map_of_mem granted
    exact (List.mem_filter.mp member).1
  have introduced : later.state.initialized = true :=
    initialized_run (initialized_of_shown
      (introduced_run (.inr (unintroduced_fresh id port (some target) defaultLevels)) before) shown)
  rw [step_request]
  refine ⟨fun same => ⟨ref, names, ?_⟩, fun changes => ?_⟩
  · exact queued_of_found alive introduced there command asked names leaf (get?_run same holds)
  · have gone : later.state.values.get? ref.slot = none :=
      ValueTable.get?_of_lt_first
        (lt_first_run stepped changes (ValueTable.lt_nextSlot_of_get? holds))
    exact queued_of_gone alive introduced there command asked names leaf gone

/-- The global scope is a tuple that holds an empty tuple; the handle of the
empty one is good until the script has entered a frame. -/
theorem inner_tuple_lifetime :
    let outer := Value.tuple [.tuple []]
    let idle := Debuggee.holding outer []
    let busy := Debuggee.holding outer [⟨none, none, 0, 0, 0⟩]
    let s := ((fresh 1 4711 (some ⟨0, 7, "main"⟩) 20).run
      [⟨idle, .request [] (.withHandle 1 "initialize" 0)⟩]).session
    let m : Moment := ⟨idle, .request [] (.withHandle 2 "variables" 2097152)⟩
    let kept := (s.step m).session
    let changed := (kept.step ⟨busy, .notification (.watchesUpdated .callStack none)⟩).session
    let again : Moment := ⟨busy, .request [] (.withHandle 3 "variables" 2097153)⟩
    (2097153, Value.tuple []) ∈ s.grants m ∧
      (kept.step again).queued =
        [kept.expansion ⟨3, "variables"⟩ ⟨.global, 0, 1⟩ (.tuple [])] ∧
      (changed.step again).queued = [invalidHandle ⟨3, "variables"⟩ 2097153] := by
  intro outer idle busy s m kept changed again
  have shown : shownHandles (s.step m).queued = [0, 2097153] := by decide +kernel
  have about : s.subjects m = [none, some (.tuple [])] := rfl
  have granted : (2097153, Value.tuple []) ∈ s.grants m := by
    rw [grants, shown, about]
    exact List.mem_singleton_self _
  have asked : (Request.withHandle 3 "variables" 2097153).int? "variablesReference" =
    some 2097153 := by decide +kernel
  have life := (handle_lifetime 1 4711 ⟨0, 7, "main"⟩ 20).2
    [⟨idle, .request [] (.withHandle 1 "initialize" 0)⟩] m
  refine ⟨granted, ?_, ?_⟩
  · have alive : kept.terminated = false := by decide +kernel
    obtain ⟨ref, names, answered⟩ := ((life []).2 _ _ granted alive busy [] _ rfl asked).1
      fun changes => changes
    cases names
    exact answered
  · have alive : changed.terminated = false := by decide +kernel
    exact ((life [⟨busy, .notification (.watchesUpdated .callStack none)⟩]).2 _ _ granted alive
      busy [] _ rfl asked).2 (.inl ⟨by decide +kernel, ⟨none, rfl⟩, by decide +kernel⟩)

end Session

end DebugAdapter
