import DebugAdapter.Session.Hub
import Mathlib.Data.List.Forall2

/-!
# Breakpoints that are installed

Which lines a request installs, said without the way there: a requested line is
accepted or not by itself, and of the accepted ones that mean one line of the
debugger the first counts. `breakpoints_replaced`: a request replaces the
breakpoints of its source by exactly these, with one answer for each line it
asks for, and a request that fails asks the debuggee nothing.
-/

namespace DebugAdapter

/-- A request can be installed: it means a line of the debugger, and its
condition, if more than blanks, compiles to that of the breakpoint. -/
structure LineRequest.Accepted (c : Conventions) (d : Debuggee) (r : LineRequest)
    (l : BreakpointLine) : Prop where
  line : c.lineFromClient r.line = some (l.1 : Int)
  positive : 1 ≤ l.1
  bounded : l.1 ≤ 4294967295
  condition : ((r.condition.map Text.trim).filter (· ≠ "")).mapM d.compile = .ok l.2

/-- A line that the first request for it that can be installed is about. -/
def FirstAccepted (c : Conventions) (d : Debuggee) (requests : List LineRequest)
    (l : BreakpointLine) : Prop :=
  ∃ earlier r later, requests = earlier ++ r :: later ∧ r.Accepted c d l ∧
    ∀ q ∈ earlier, ∀ m, q.Accepted c d m → m.1 ≠ l.1

/-- Arguments that name a file by more than blanks, and ask for breakpoints there. -/
def BreakpointArguments.Name (c : Conventions) (arguments : Json) (path : String)
    (requests : List LineRequest) : Prop :=
  ∃ args given, ofJson? arguments = some args ∧ args.path = some given ∧
    Text.trim given ≠ "" ∧ c.pathFromClient given = some path ∧ args.requested = requests

structure Breakpoint.Answers (c : Conventions) (d : Debuggee) (confirmed : List Nat)
    (r : LineRequest) (b : Breakpoint) : Prop where
  line : b.line = r.line
  verified : b.verified = true ↔ ∃ l, r.Accepted c d l ∧ l.1 ∈ confirmed
  message : b.verified = false → b.message.isSome = true

-- ---------------------------------------------------------------------------
-- Requests
-- ---------------------------------------------------------------------------

theorem Text.trimmed?_eq (s : String) : trimmed? s = (some (trim s)).filter (· ≠ "") := by
  unfold trimmed? trim
  cases trimChars s.toList with
  | nil => rfl
  | cons c cs =>
    have visible : String.ofList (c :: cs) ≠ "" := by simp [← String.toList_inj]
    exact (if_pos (decide_eq_true visible)).symm

theorem LineRequest.condition?_eq (r : LineRequest) :
    r.condition? = (r.condition.map Text.trim).filter (· ≠ "") := by
  unfold condition?
  cases r.condition with
  | none => rfl
  | some text => exact Text.trimmed?_eq text

variable {c : Conventions} {d : Debuggee}

theorem Conventions.debuggerLine?_eq_some {line : Int} {n : Nat} :
    c.debuggerLine? line = some n ↔
      c.lineFromClient line = some (n : Int) ∧ 1 ≤ n ∧ n ≤ 4294967295 := by
  unfold debuggerLine? maxDebuggerLine
  cases c.lineFromClient line with
  | none => simp
  | some l =>
    simp only [Option.some.injEq]
    constructor
    · intro h
      split at h <;> cases h
      omega
    · rintro ⟨rfl, positive, bounded⟩
      rw [if_pos (by omega)]
      rfl

theorem LineRequest.accept_eq_ok {r : LineRequest} :
    r.accept c d = .ok l ↔ r.Accepted c d l := by
  obtain ⟨n, condition⟩ := l
  unfold accept
  constructor
  · intro h
    split at h
    · cases h
    rename_i line means
    obtain ⟨given, positive, bounded⟩ := Conventions.debuggerLine?_eq_some.mp means
    split at h
    · rename_i blank
      cases h
      refine ⟨given, positive, bounded, ?_⟩
      rw [← condition?_eq, blank]
      rfl
    rename_i text found
    split at h <;> cases h
    rename_i compiles
    refine ⟨given, positive, bounded, ?_⟩
    rw [← condition?_eq, found, Option.mapM_some, compiles]
    rfl
  · rintro ⟨given, positive, bounded, compiles⟩
    have means : c.debuggerLine? r.line = some n :=
      Conventions.debuggerLine?_eq_some.mpr ⟨given, positive, bounded⟩
    rw [← condition?_eq] at compiles
    rw [means]
    cases found : r.condition? with
    | none =>
      rw [found] at compiles
      cases compiles
      rfl
    | some text =>
      rw [found, Option.mapM_some] at compiles
      dsimp only
      cases outcome : d.compile text with
      | error message =>
        rw [outcome] at compiles
        cases compiles
      | ok k =>
        rw [outcome] at compiles
        cases compiles
        rfl

theorem LineRequest.Accepted.unique {r : LineRequest} (a : r.Accepted c d l)
    (b : r.Accepted c d m) : l = m :=
  Except.ok.inj ((accept_eq_ok.mpr a).symm.trans (accept_eq_ok.mpr b))

-- ---------------------------------------------------------------------------
-- Lines in ascending order
-- ---------------------------------------------------------------------------

def Ascending (lines : List BreakpointLine) : Prop := lines.Pairwise fun a b => a.1 < b.1

theorem mem_insertLine {lines : List BreakpointLine} (ascending : Ascending lines) :
    m ∈ insertLine l lines ↔ m ∈ lines ∨ m = l ∧ ∀ k ∈ lines, k.1 ≠ l.1 := by
  induction lines with
  | nil => simp [insertLine]
  | cons k rest ih =>
    obtain ⟨below, rest_ascending⟩ := List.pairwise_cons.mp ascending
    unfold insertLine
    split
    · rename_i before
      have apart : ∀ j ∈ k :: rest, j.1 ≠ l.1 := by
        intro j hj
        obtain rfl | hj := List.mem_cons.mp hj
        · omega
        · have := below j hj
          omega
      simp only [List.mem_cons (a := m) (b := l), and_iff_left apart]
      exact or_comm
    split
    · rename_i same
      simp [same]
    · rename_i other
      have apart : k.1 ≠ l.1 := fun h => other h.symm
      rw [List.mem_cons, ih rest_ascending, List.mem_cons, List.forall_mem_cons, or_assoc]
      simp [apart]

theorem ascending_insertLine {lines : List BreakpointLine} (ascending : Ascending lines) :
    Ascending (insertLine l lines) := by
  induction lines with
  | nil => exact List.pairwise_singleton ..
  | cons k rest ih =>
    obtain ⟨below, rest_ascending⟩ := List.pairwise_cons.mp ascending
    unfold insertLine
    split
    · rename_i before
      refine List.pairwise_cons.mpr ⟨fun j hj => ?_, ascending⟩
      obtain rfl | hj := List.mem_cons.mp hj
      · exact before
      · exact Nat.lt_trans before (below j hj)
    split
    · exact ascending
    · rename_i notBefore other
      refine List.pairwise_cons.mpr ⟨fun j hj => ?_, ih rest_ascending⟩
      obtain hj | ⟨rfl, -⟩ := (mem_insertLine rest_ascending).mp hj
      · exact below j hj
      · omega

-- ---------------------------------------------------------------------------
-- The first request for a line
-- ---------------------------------------------------------------------------

theorem firstAccepted_nil : ¬FirstAccepted c d [] l := by
  rintro ⟨earlier, r, later, split, -⟩
  simp at split

theorem firstAccepted_cons {r : LineRequest} {requests : List LineRequest} :
    FirstAccepted c d (r :: requests) l ↔
      r.Accepted c d l ∨ (∀ m, r.Accepted c d m → m.1 ≠ l.1) ∧ FirstAccepted c d requests l := by
  constructor
  · rintro ⟨earlier, q, later, split, accepted, first⟩
    cases earlier with
    | nil =>
      cases split
      exact .inl accepted
    | cons p earlier =>
      cases split
      obtain ⟨other, others⟩ := List.forall_mem_cons.mp first
      exact .inr ⟨other, earlier, q, later, rfl, accepted, others⟩
  · rintro (accepted | ⟨other, earlier, q, later, rfl, accepted, first⟩)
    · exact ⟨[], r, requests, rfl, accepted, nofun⟩
    · exact ⟨r :: earlier, q, later, rfl, accepted, List.forall_mem_cons.mpr ⟨other, first⟩⟩

theorem FirstAccepted.accepted {requests : List LineRequest} (h : FirstAccepted c d requests l) :
    ∃ r ∈ requests, r.Accepted c d l := by
  obtain ⟨earlier, r, later, rfl, accepted, -⟩ := h
  exact ⟨r, List.mem_append_right _ (List.mem_cons_self ..), accepted⟩

theorem firstAccepted_of_accepted {requests : List LineRequest} (there : r ∈ requests)
    (accepted : r.Accepted c d l) : ∃ m, FirstAccepted c d requests m ∧ m.1 = l.1 := by
  induction requests with
  | nil => cases there
  | cons q requests ih =>
    by_cases before : ∃ m, q.Accepted c d m ∧ m.1 = l.1
    · obtain ⟨m, first, same⟩ := before
      exact ⟨m, firstAccepted_cons.mpr (.inl first), same⟩
    · have other (m : BreakpointLine) (h : q.Accepted c d m) : m.1 ≠ l.1 :=
        fun same => before ⟨m, h, same⟩
      obtain rfl | there := List.mem_cons.mp there
      · exact absurd rfl (other l accepted)
      · obtain ⟨m, first, same⟩ := ih there
        exact ⟨m, firstAccepted_cons.mpr (.inr ⟨same ▸ other, first⟩), same⟩

/-- What is there before some requests stays; they add what they are the first for. -/
theorem mem_foldl_insertLine (requests : List LineRequest) {lines : List BreakpointLine}
    (ascending : Ascending lines) :
    let after := (requests.map (·.accept c d)).foldl
      (fun lines o => match o with
        | .ok l => insertLine l lines
        | .error _ => lines) lines
    Ascending after ∧ ∀ l, l ∈ after ↔
      l ∈ lines ∨ FirstAccepted c d requests l ∧ ∀ k ∈ lines, k.1 ≠ l.1 := by
  induction requests generalizing lines with
  | nil => exact ⟨ascending, fun l => by simp [firstAccepted_nil]⟩
  | cons r requests ih =>
    rw [List.map_cons, List.foldl_cons]
    cases outcome : r.accept c d with
    | error message =>
      obtain ⟨kept, mem⟩ := ih ascending
      have refused (m : BreakpointLine) (h : r.Accepted c d m) : False := by
        cases outcome.symm.trans (LineRequest.accept_eq_ok.mpr h)
      refine ⟨kept, fun l => (mem l).trans ?_⟩
      have skip : FirstAccepted c d (r :: requests) l ↔ FirstAccepted c d requests l := by
        refine firstAccepted_cons.trans ⟨?_, fun h => .inr ⟨fun m hm => (refused m hm).elim, h⟩⟩
        rintro (h | ⟨-, h⟩)
        · exact (refused l h).elim
        · exact h
      rw [skip]
    | ok k =>
      have own : r.Accepted c d k := LineRequest.accept_eq_ok.mp outcome
      obtain ⟨kept, mem⟩ := ih (ascending_insertLine (l := k) ascending)
      refine ⟨kept, fun l => (mem l).trans ?_⟩
      have head : FirstAccepted c d (r :: requests) l ↔
          l = k ∨ k.1 ≠ l.1 ∧ FirstAccepted c d requests l := by
        refine firstAccepted_cons.trans (or_congr ⟨fun h => h.unique own, fun h => h ▸ own⟩ ?_)
        exact and_congr_left fun _ => ⟨fun h => h k own, fun h m hm => own.unique hm ▸ h⟩
      rw [head, mem_insertLine ascending]
      constructor
      -- the new line is one more that later requests are too late for
      · rintro ((there | ⟨rfl, new⟩) | ⟨first, apart⟩)
        · exact .inl there
        · exact .inr ⟨.inl rfl, new⟩
        · have before (j : BreakpointLine) (hj : j ∈ lines) : j.1 ≠ l.1 :=
            apart j ((mem_insertLine ascending).mpr (.inl hj))
          refine .inr ⟨.inr ⟨fun same => ?_, first⟩, before⟩
          refine apart k ((mem_insertLine ascending).mpr (.inr ⟨rfl, fun j hj => ?_⟩)) same
          exact same ▸ before j hj
      · rintro (there | ⟨rfl | ⟨other, first⟩, apart⟩)
        · exact .inl (.inl there)
        · exact .inl (.inr ⟨rfl, apart⟩)
        · refine .inr ⟨first, fun j hj => ?_⟩
          obtain there | ⟨rfl, -⟩ := (mem_insertLine ascending).mp hj
          · exact apart j there
          · exact other

theorem mem_installed {requests : List LineRequest} :
    l ∈ installed (requests.map (·.accept c d)) ↔ FirstAccepted c d requests l := by
  obtain ⟨-, mem⟩ := mem_foldl_insertLine (c := c) (d := d) requests (.nil : Ascending [])
  exact (mem l).trans (by simp)

theorem ascending_installed (requests : List LineRequest) :
    Ascending (installed (requests.map (·.accept c d))) :=
  (mem_foldl_insertLine requests .nil).1

-- ---------------------------------------------------------------------------
-- Calls
-- ---------------------------------------------------------------------------

theorem mem_compiled {requests : List LineRequest}
    (made : call ∈ requests.flatMap (·.compiled c)) : ∃ text, call = .compileCondition text := by
  obtain ⟨r, -, made⟩ := List.mem_flatMap.mp made
  unfold LineRequest.compiled at made
  split at made
  · exact ⟨_, List.mem_singleton.mp made⟩
  · cases made

theorem setBreakpoints_calls {P : Call → Prop} (finds : ∀ path, P (.findSource path))
    (compiles : ∀ text, P (.compileCondition text))
    (resets : ∀ source lines, P (.resetBreakpoints source lines))
    (ok : setBreakpoints d c arguments = .ok (answers, calls)) : ∀ call ∈ calls, P call := by
  unfold setBreakpoints at ok
  simp only [bind, Except.bind, pure, Except.pure] at ok
  split at ok
  · split at ok
    · cases ok
    split at ok <;> cases ok
    · exact List.forall_mem_singleton.mpr (finds _)
    · refine List.forall_mem_cons.mpr ⟨finds _, List.forall_mem_append.mpr ⟨fun call made => ?_,
        List.forall_mem_singleton.mpr (resets _ _)⟩⟩
      obtain ⟨text, rfl⟩ := mem_compiled made
      exact compiles text
  · cases ok

theorem mutates_compiled (requests : List LineRequest) :
    (requests.flatMap (·.compiled c)).filter Call.mutates = [] := by
  refine List.filter_eq_nil_iff.mpr fun call made => ?_
  obtain ⟨text, rfl⟩ := mem_compiled made
  simp [Call.mutates]

-- ---------------------------------------------------------------------------
-- Answers
-- ---------------------------------------------------------------------------

theorem answers_answer (r : LineRequest) (confirmed : List Nat) :
    Breakpoint.Answers c d confirmed r (r.answer confirmed (r.accept c d)) := by
  cases outcome : r.accept c d with
  | error message =>
    refine ⟨rfl, ⟨nofun, ?_⟩, fun _ => rfl⟩
    rintro ⟨l, accepted, -⟩
    cases outcome.symm.trans (LineRequest.accept_eq_ok.mpr accepted)
  | ok l =>
    have own := LineRequest.accept_eq_ok.mp outcome
    unfold LineRequest.answer
    dsimp only
    split
    · rename_i takes
      exact ⟨rfl, ⟨fun _ => ⟨l, own, by simpa using takes⟩, fun _ => rfl⟩, nofun⟩
    · rename_i idle
      refine ⟨rfl, ⟨nofun, ?_⟩, fun _ => rfl⟩
      rintro ⟨m, accepted, takes⟩
      obtain rfl := own.unique accepted
      exact absurd (by simpa using takes) idle

theorem breakpointPath_eq_ok {given : Option String} :
    breakpointPath c given = .ok path ↔
      ∃ p, given = some p ∧ Text.trim p ≠ "" ∧ c.pathFromClient p = some path := by
  unfold breakpointPath
  cases given with
  | none => simp
  | some p =>
    by_cases blank : Text.trim p = ""
    · simp [Text.trimmed?_eq, blank]
    · cases means : c.pathFromClient p <;> simp [Text.trimmed?_eq, blank, means]

theorem breakpointPath_malformed {failure : Failure}
    (failed : breakpointPath c given = .error failure) : failure = malformedSource := by
  unfold breakpointPath at failed
  split at failed
  · exact (Except.error.inj failed).symm
  split at failed
  · exact (Except.error.inj failed).symm
  split at failed <;> cases failed
  rfl

theorem setBreakpoints_malformed {failure : Failure}
    (failed : setBreakpoints d c arguments = .error failure) : failure = malformedSource := by
  unfold setBreakpoints at failed
  simp only [bind, Except.bind, pure, Except.pure] at failed
  split at failed
  · split at failed
    · rename_i unnamed
      cases failed
      exact breakpointPath_malformed unnamed
    · split at failed <;> cases failed
  · exact (Except.error.inj failed).symm

theorem setBreakpoints_eq (d : Debuggee) (arguments : Json)
    (named : BreakpointArguments.Name c arguments path requests) :
    setBreakpoints d c arguments = .ok (match d.findSource path with
      | none => (requests.map fun r =>
          .unverified r.line ("source '" ++ path ++ "' is not loaded"), [.findSource path])
      | some source =>
        let lines := installed (requests.map (·.accept c d))
        (requests.map fun r => r.answer (d.confirmedLines source lines) (r.accept c d),
          .findSource path :: requests.flatMap (·.compiled c) ++
            [.resetBreakpoints source lines])) := by
  obtain ⟨args, given, parses, names, visible, means, rfl⟩ := named
  have found := breakpointPath_eq_ok.mpr ⟨given, names, visible, means⟩
  simp only [setBreakpoints, parses, found, bind, Except.bind, pure, Except.pure]
  cases d.findSource path with
  | none => rfl
  | some source => simp [List.zipWith_map_right]

theorem setBreakpoints_error {failure : Failure}
    (failed : setBreakpoints d c arguments = .error failure) (other : Debuggee) :
    setBreakpoints other c arguments = .error failure := by
  unfold setBreakpoints at failed ⊢
  simp only [bind, Except.bind, pure, Except.pure] at failed ⊢
  split at failed
  · split at failed
    · exact failed
    · split at failed <;> cases failed
  · exact failed

/-- Arguments that name a file by more than blanks get one answer for each line
they ask for, in order. If the file is a source of the debuggee, its breakpoints
are replaced once: by the lines that can be installed, each under the condition
of the first request for it. Else nothing is installed. A request that fails asks
the debuggee nothing, and fails whatever the debuggee is. -/
theorem breakpoints_replaced (d : Debuggee) (c : Conventions) (arguments : Json) :
    (∀ path requests, BreakpointArguments.Name c arguments path requests →
      ∃ answers calls confirmed, setBreakpoints d c arguments = .ok (answers, calls) ∧
        List.Forall₂ (Breakpoint.Answers c d confirmed) requests answers ∧
        (d.findSource path = none → calls.filter Call.mutates = [] ∧ confirmed = []) ∧
        ∀ source, d.findSource path = some source → ∃ lines,
          calls.filter Call.mutates = [.resetBreakpoints source lines] ∧
          confirmed = d.confirmedLines source lines ∧ Ascending lines ∧
          (∀ n, (∃ l ∈ lines, l.1 = n) ↔ ∃ r ∈ requests, ∃ l, r.Accepted c d l ∧ l.1 = n) ∧
          ∀ l ∈ lines, FirstAccepted c d requests l) ∧
    ∀ failure, setBreakpoints d c arguments = .error failure →
      (∀ other, setBreakpoints other c arguments = .error failure) ∧
        ∀ st r, st.conventions = c → r.arguments = arguments →
          Session.answerBreakpoints st d r = .error ⟨failure, []⟩ := by
  refine ⟨fun path requests named => ?_, ?_⟩
  · have outcome := setBreakpoints_eq d arguments named
    cases found : d.findSource path with
    | none =>
      rw [found] at outcome
      refine ⟨_, _, [], outcome, ?_, fun _ => ⟨rfl, rfl⟩, nofun⟩
      refine List.forall₂_map_right_iff.mpr (List.forall₂_same.mpr fun r _ => ?_)
      exact ⟨rfl, ⟨nofun, fun ⟨_, _, takes⟩ => by cases takes⟩, fun _ => rfl⟩
    | some source =>
      rw [found] at outcome
      refine ⟨_, _, d.confirmedLines source (installed (requests.map (·.accept c d))), outcome,
        ?_, nofun, ?_⟩
      · exact List.forall₂_map_right_iff.mpr (List.forall₂_same.mpr fun r _ => answers_answer r _)
      rintro _ ⟨⟩
      refine ⟨_, ?_, rfl, ascending_installed requests, fun n => ⟨?_, ?_⟩,
        fun l => mem_installed.mp⟩
      · rw [List.filter_append, List.filter_cons_of_neg (by simp [Call.mutates]),
          mutates_compiled]
        rfl
      · rintro ⟨l, there, same⟩
        obtain ⟨r, hr, accepted⟩ := (mem_installed.mp there).accepted
        exact ⟨r, hr, l, accepted, same⟩
      · rintro ⟨r, hr, l, accepted, same⟩
        obtain ⟨m, first, line⟩ := firstAccepted_of_accepted hr accepted
        exact ⟨m, mem_installed.mpr first, line.trans same⟩
  · refine fun failure failed => ⟨setBreakpoints_error failed, ?_⟩
    rintro st r rfl rfl
    simp only [Session.answerBreakpoints, failed]

/-- Of four requests for one line the first does not compile and the second is
installed; the line before the first one is refused. -/
theorem second_condition_installed :
    let d : Debuggee := { Debuggee.silent with
      findSource := fun path => if path = "main.lua" then some 5 else none
      compileCondition := fun text => if text = "x >" then .error "unexpected end" else .ok ()
      compiled := fun text => ⟨text, 64⟩
      confirmedLines := fun _ lines => (lines.map Prod.fst).filter (· ≤ 10) }
    let item (line : Int) (condition : String) : Json :=
      .obj [("line", .int line), ("condition", .str condition)]
    let arguments : Json := .obj [("source", .obj [("path", .str "main.lua")]),
      ("breakpoints", .arr [item 2 "x >", item 2 " x > 1 ", item 2 "", item (-1) "", item 40 " "])]
    let requests : List LineRequest := [⟨2, some "x >"⟩, ⟨2, some " x > 1 "⟩, ⟨2, some ""⟩,
      ⟨-1, some ""⟩, ⟨40, some " "⟩]
    BreakpointArguments.Name ⟨false, false⟩ arguments "main.lua" requests ∧
      d.findSource "main.lua" = some 5 ∧
      ∃ answers calls lines, setBreakpoints d ⟨false, false⟩ arguments = .ok (answers, calls) ∧
        lines = [(3, some ⟨"x > 1", 64⟩), (41, none)] ∧
        calls.filter Call.mutates = [.resetBreakpoints 5 lines] ∧
        List.Forall₂ (Breakpoint.Answers ⟨false, false⟩ d [3]) requests answers ∧
        answers.map Breakpoint.verified = [false, true, true, false, false] := by
  intro d item arguments requests
  have named : BreakpointArguments.Name ⟨false, false⟩ arguments "main.lua" requests :=
    ⟨⟨some "main.lua", some requests, none⟩, "main.lua", by decide +kernel, rfl,
      by decide +kernel, rfl, rfl⟩
  have found : d.findSource "main.lua" = some 5 := rfl
  obtain ⟨answers, calls, confirmed, outcome, answered, -, replaced⟩ :=
    (breakpoints_replaced d ⟨false, false⟩ arguments).1 _ _ named
  obtain ⟨lines, installs, takes, -⟩ := replaced 5 found
  have run : (setBreakpoints d ⟨false, false⟩ arguments).toOption = some
      ([⟨false, 2, some "unexpected end"⟩, ⟨true, 2, none⟩, ⟨true, 2, none⟩,
        ⟨false, -1, some "invalid line -1"⟩, ⟨false, 40, some "no code at this line"⟩],
      [.findSource "main.lua", .compileCondition "x >", .compileCondition "x > 1",
        .resetBreakpoints 5 [(3, some ⟨"x > 1", 64⟩), (41, none)]]) := by decide +kernel
  rw [outcome] at run
  obtain ⟨rfl, rfl⟩ := Prod.mk.inj (Option.some.inj run)
  replace installs : [Call.resetBreakpoints 5 [(3, some ⟨"x > 1", 64⟩), (41, none)]] =
    [.resetBreakpoints 5 lines] := installs
  obtain rfl : [(3, some ⟨"x > 1", 64⟩), (41, none)] = lines := by simpa using installs
  obtain rfl : confirmed = [3] := takes
  exact ⟨named, found, _, _, _, outcome, rfl, installs, answered, rfl⟩

end DebugAdapter
