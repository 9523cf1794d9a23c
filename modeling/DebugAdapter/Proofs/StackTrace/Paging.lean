import DebugAdapter.StackTrace

/-!
# Paging through a call stack

A window of a stack trace is a part of the whole trace, with the same frames under the same
identities, and an end made of frames that denote no activation. A client that moves the
start of the window past what it has received, until no mark says that deeper frames were
left out, gets each activation once and in order (`window_paging`).
-/

namespace DebugAdapter

-- ---------------------------------------------------------------------------
-- Windows
-- ---------------------------------------------------------------------------

def realFrames (d : Debuggee) (c : Conventions) : List StackFrame :=
  d.callStack.zipIdx.map fun f => .ofCall d c f.2 f.1

def Debuggee.coroutineLabel (d : Debuggee) : String :=
  match d.coroutineName with
  | some name => "(" ++ name ++ ")"
  | none => "(main coroutine)"

/-- The end of a trace from which deeper frames are left out, or none. -/
def ending (d : Debuggee) (cut : Bool) : List StackFrame :=
  let length := d.callStack.length
  if cut then
    [.label length "(...)", .label (length + 1) d.coroutineLabel, .label (length + 2) "(native)"]
  else [.label length d.coroutineLabel, .label (length + 1) "(native)"]

section
variable (d : Debuggee) (c : Conventions) (start levels : Nat)

def pastWindow : Nat :=
  min d.callStack.length (start + frameBudget d.callStack.length levels)

@[simp] theorem id_ofCall (depth : Nat) (frame : CallFrame) :
    (StackFrame.ofCall d c depth frame).id = depth := by
  unfold StackFrame.ofCall
  split
  · rfl
  · split <;> rfl

@[simp] theorem length_realFrames : (realFrames d c).length = d.callStack.length := by
  simp [realFrames]

theorem ids_realFrames : (realFrames d c).map (·.id) = List.range d.callStack.length := by
  have ids : (realFrames d c).map (·.id) = d.callStack.zipIdx.map Prod.snd := by
    rw [realFrames, List.map_map]
    exact List.map_congr_left fun f _ => id_ofCall d c f.2 f.1
  rw [ids, List.zipIdx_map_snd, List.range_eq_range']

theorem tailFrames_eq (stop : Nat) :
    tailFrames d d.callStack.length stop = ending d (stop < d.callStack.length) := by
  unfold tailFrames ending Debuggee.coroutineLabel
  by_cases cut : stop < d.callStack.length <;> cases d.coroutineName <;> simp [cut]

/-- A window shows its part of the whole trace, and then where it stops. -/
theorem stackTrace_eq :
    stackTrace d c start levels =
      ((realFrames d c).take (pastWindow d start levels)).drop start ++
        ending d (pastWindow d start levels < d.callStack.length) := by
  rw [← tailFrames_eq]
  refine congrArg (· ++ _) (List.ext_getElem? fun i => ?_)
  show ((((d.callStack.drop (min start (pastWindow d start levels))).take
      (pastWindow d start levels - min start (pastWindow d start levels))).zipIdx
        (min start (pastWindow d start levels))).map fun f => StackFrame.ofCall d c f.2 f.1)[i]? = _
  simp only [realFrames, List.getElem?_map, List.getElem?_zipIdx, List.getElem?_take,
    List.getElem?_drop, Nat.lt_sub_iff_add_lt]
  by_cases shown : start + i < pastWindow d start levels
  · have first : min start (pastWindow d start levels) = start := by omega
    simp [first, Nat.add_comm i, shown]
  · have outside : ¬i + min start (pastWindow d start levels) < pastWindow d start levels := by omega
    simp [outside, shown]

theorem pastWindow_whole : pastWindow d 0 0 = d.callStack.length := by
  simp [pastWindow, frameBudget]

theorem stackTrace_whole : stackTrace d c 0 0 = realFrames d c ++ ending d false := by
  rw [stackTrace_eq, pastWindow_whole, List.drop_zero, ← length_realFrames d c, List.take_length]
  simp

theorem take_stackTrace_whole :
    (stackTrace d c 0 0).take d.callStack.length = realFrames d c := by
  rw [stackTrace_whole, ← length_realFrames d c, List.take_left]

end

-- ---------------------------------------------------------------------------
-- Identities
-- ---------------------------------------------------------------------------

section
variable (d : Debuggee) (c : Conventions) (start levels : Nat)

theorem ids_ending (cut : Bool) :
    (ending d cut).map (·.id) = List.range' d.callStack.length (if cut then 3 else 2) := by
  cases cut <;> rfl

theorem id_lt_of_mem_realFrames {f : StackFrame} (real : f ∈ realFrames d c) :
    f.id < d.callStack.length := by
  rw [← List.mem_range, ← ids_realFrames d c]
  exact List.mem_map_of_mem real

theorem le_id_of_mem_ending {f : StackFrame} {cut : Bool} (label : f ∈ ending d cut) :
    d.callStack.length ≤ f.id := by
  have place := List.mem_map_of_mem (f := fun f : StackFrame => f.id) label
  rw [ids_ending] at place
  exact (List.mem_range'_1.mp place).1

theorem mem_realFrames_iff {f : StackFrame} (shown : f ∈ stackTrace d c start levels) :
    f ∈ realFrames d c ↔ f.id < d.callStack.length := by
  refine ⟨id_lt_of_mem_realFrames d c, fun depth => ?_⟩
  rw [stackTrace_eq] at shown
  obtain real | label := List.mem_append.mp shown
  · exact List.mem_of_mem_take (List.mem_of_mem_drop real)
  · exact absurd depth (Nat.not_lt.mpr (le_id_of_mem_ending d label))

theorem ids_stackTrace_nodup : ((stackTrace d c start levels).map (·.id)).Nodup := by
  rw [stackTrace_eq, List.map_append, List.map_drop, List.map_take, ids_realFrames, ids_ending]
  refine List.nodup_append.mpr ⟨?_, List.nodup_range', fun a real b label same => ?_⟩
  · exact (List.nodup_range.sublist (List.take_sublist ..)).sublist (List.drop_sublist ..)
  · have shallow := List.mem_range.mp (List.mem_of_mem_take (List.mem_of_mem_drop real))
    have deep := (List.mem_range'_1.mp label).1
    omega

theorem length_stackTrace :
    (stackTrace d c start levels).length =
      pastWindow d start levels - start +
        if pastWindow d start levels < d.callStack.length then 3 else 2 := by
  have ends : (ending d (pastWindow d start levels < d.callStack.length)).length =
      if pastWindow d start levels < d.callStack.length then 3 else 2 := by
    by_cases cut : pastWindow d start levels < d.callStack.length <;> simp [ending, cut]
  have low : pastWindow d start levels ≤ d.callStack.length := Nat.min_le_left ..
  rw [stackTrace_eq, List.length_append, ends, List.length_drop, List.length_take,
    length_realFrames, Nat.min_eq_left low]

theorem length_stackTrace_le (enough : 4 ≤ levels) :
    (stackTrace d c start levels).length ≤ levels := by
  have budget : frameBudget d.callStack.length levels = levels - 3 := by
    rw [frameBudget, if_neg (by omega), pseudoFrames, Nat.max_eq_left (by omega)]
  rw [length_stackTrace, pastWindow, budget]
  split <;> omega

end

-- ---------------------------------------------------------------------------
-- Paging
-- ---------------------------------------------------------------------------

/-- The frames of an answer that denote activations: their identities lie below the number of
activations, which is two less than the total. -/
def received (total : Nat) (answer : List StackFrame) : List StackFrame :=
  answer.filter (·.id + 2 < total)

/-- The last two frames of an answer come after the mark. A name alone does not make a mark:
an activation or a coroutine may have the same. -/
def marked (total : Nat) (answer : List StackFrame) : Bool :=
  answer.reverse[2]?.any fun f => f.name == "(...)" && total ≤ f.id + 2

/-- The answers that a client gets that asks from `start` on for some levels, and goes on
from behind the activations that it has received as long as an answer is marked. -/
inductive Pages (d : Debuggee) (c : Conventions) (levels : Nat → Nat) :
    Nat → List (List StackFrame) → Prop
  | last {start : Nat}
      (unmarked : marked (totalFrames d) (stackTrace d c start (levels start)) = false) :
      Pages d c levels start [stackTrace d c start (levels start)]
  | more {start : Nat} {pages : List (List StackFrame)}
      (mark : marked (totalFrames d) (stackTrace d c start (levels start)) = true)
      (rest : Pages d c levels
        (start + (received (totalFrames d) (stackTrace d c start (levels start))).length) pages) :
      Pages d c levels start (stackTrace d c start (levels start) :: pages)

section
variable (d : Debuggee) (c : Conventions) (start levels : Nat)

theorem received_stackTrace :
    received (totalFrames d) (stackTrace d c start levels) =
      ((realFrames d c).take (pastWindow d start levels)).drop start := by
  rw [received, totalFrames, stackTrace_eq, List.filter_append, List.filter_eq_self.mpr,
    List.filter_eq_nil_iff.mpr, List.append_nil]
  · intro f label
    have past := le_id_of_mem_ending d label
    simpa using past
  · intro f real
    have depth := id_lt_of_mem_realFrames d c (List.mem_of_mem_take (List.mem_of_mem_drop real))
    simpa using depth

theorem marked_stackTrace :
    marked (totalFrames d) (stackTrace d c start levels) =
      decide (pastWindow d start levels < d.callStack.length) := by
  rw [marked, stackTrace_eq, List.reverse_append]
  by_cases cut : pastWindow d start levels < d.callStack.length
  · simp [cut, ending, totalFrames, StackFrame.label]
  · simp only [cut, decide_false, ending, Bool.false_eq_true, if_false, List.reverse_cons,
      List.reverse_nil, List.nil_append, List.cons_append, List.getElem?_cons_succ]
    cases last : ((realFrames d c).take (pastWindow d start levels)).drop start |>.reverse[0]? with
    | none => rfl
    | some f =>
      have real := List.mem_reverse.mp (List.mem_of_getElem? last)
      have depth := id_lt_of_mem_realFrames d c (List.mem_of_mem_take (List.mem_of_mem_drop real))
      simp [totalFrames, depth]

theorem add_length_received (cut : pastWindow d start levels < d.callStack.length) :
    start < pastWindow d start levels ∧
      start + (received (totalFrames d) (stackTrace d c start levels)).length =
        pastWindow d start levels := by
  have holds : start < pastWindow d start levels := by
    have budget : 0 < frameBudget d.callStack.length levels := by
      unfold frameBudget
      split <;> omega
    unfold pastWindow at cut ⊢
    omega
  refine ⟨holds, ?_⟩
  rw [received_stackTrace, List.length_drop, List.length_take, length_realFrames]
  omega

theorem pages_unmarked {levels : Nat → Nat}
    (whole : ¬pastWindow d start (levels start) < d.callStack.length)
    (pages : List (List StackFrame)) :
    Pages d c levels start pages ↔ pages = [stackTrace d c start (levels start)] := by
  have unmarked := (marked_stackTrace d c start (levels start)).trans (decide_eq_false whole)
  constructor
  · intro paged
    cases paged with
    | last => rfl
    | more mark =>
      rw [unmarked] at mark
      cases mark
  · rintro rfl
    exact .last unmarked

theorem pages_marked {levels : Nat → Nat}
    (cut : pastWindow d start (levels start) < d.callStack.length)
    (pages : List (List StackFrame)) :
    Pages d c levels start pages ↔
      ∃ rest, Pages d c levels (pastWindow d start (levels start)) rest ∧
        pages = stackTrace d c start (levels start) :: rest := by
  have mark := (marked_stackTrace d c start (levels start)).trans (decide_eq_true cut)
  obtain ⟨-, next⟩ := add_length_received d c start (levels start) cut
  rw [← next]
  constructor
  · intro paged
    cases paged with
    | last unmarked =>
      rw [mark] at unmarked
      cases unmarked
    | more _ rest => exact ⟨_, rest, rfl⟩
  · rintro ⟨rest, paged, rfl⟩
    exact .more mark paged

theorem paging (levels : Nat → Nat) :
    ∃ pages, (∀ other, Pages d c levels start other ↔ other = pages) ∧
      pages.flatMap (received (totalFrames d)) = (realFrames d c).drop start := by
  -- each marked answer moves the start closer to the end of the stack
  induction gap : d.callStack.length - start using Nat.strongRecOn generalizing start with
  | _ gap ih =>
    subst gap
    by_cases cut : pastWindow d start (levels start) < d.callStack.length
    · obtain ⟨holds, -⟩ := add_length_received d c start (levels start) cut
      obtain ⟨pages, unique, all⟩ := ih _ (by omega) (pastWindow d start (levels start)) rfl
      refine ⟨stackTrace d c start (levels start) :: pages, fun other => ?_, ?_⟩
      · simp only [pages_marked d c start cut, unique, exists_eq_left]
      · have rest : pastWindow d start (levels start) =
            start + (pastWindow d start (levels start) - start) := by omega
        rw [List.flatMap_cons, all, received_stackTrace, List.drop_take, rest,
          Nat.add_sub_cancel_left, ← List.drop_drop, List.take_append_drop]
    · refine ⟨[stackTrace d c start (levels start)], pages_unmarked d c start cut, ?_⟩
      rw [List.flatMap_singleton, received_stackTrace,
        List.take_of_length_le (by rw [length_realFrames]; omega)]

end

/-- A window shows the frames that the whole trace has at its depths, then a mark if it leaves
deeper ones out, then the coroutine and the native boundary, which share no identity with an
activation. A client that pages through the stack is done at some time, in one way only, and
has then received each activation once and in order. -/
theorem window_paging (d : Debuggee) (c : Conventions) (start levels : Nat) :
    let length := d.callStack.length
    let real := (stackTrace d c 0 0).take length
    let stop := min length (start + if levels = 0 then length else max (levels - 3) 1)
    let answer := stackTrace d c start levels
    let total := totalFrames d
    (real = d.callStack.zipIdx.map (fun f => .ofCall d c f.2 f.1) ∧
      real.map (·.id) = List.range length) ∧
    answer = (real.take stop).drop start ++ ending d (stop < length) ∧
    (received total answer = (real.take stop).drop start ∧
      marked total answer = decide (stop < length)) ∧
    total = length + 2 ∧
    (answer.map (·.id)).Nodup ∧
    (ending d (stop < length)).map (·.id) = List.range' length (if stop < length then 3 else 2) ∧
    (levels < 4 ∨ answer.length ≤ levels) ∧
    ∀ asked : Nat → Nat, ∃ pages,
      (∀ other, Pages d c asked 0 other ↔ other = pages) ∧ pages.flatMap (received total) = real := by
  intro length real stop answer total
  have whole : real = realFrames d c := take_stackTrace_whole d c
  rw [whole]
  refine ⟨⟨rfl, ids_realFrames d c⟩, stackTrace_eq d c start levels,
    ⟨received_stackTrace d c start levels, marked_stackTrace d c start levels⟩, rfl,
    ids_stackTrace_nodup d c start levels, ?_, ?_, paging d c 0⟩
  · rw [ids_ending]
    simp only [decide_eq_true_eq, length]
  · exact (Nat.lt_or_ge levels 4).imp_right (length_stackTrace_le d c start levels)

end DebugAdapter
