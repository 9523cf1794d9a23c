import DebugAdapter.Proofs.Breakpoints.Installed
import DebugAdapter.Proofs.StackTrace.Frames

/-!
# Lines of the client

A client counts lines from 0 or from 1, the debugger from 1. A requested line is taken for
the line of the debugger that a stack trace shows as the requested one, and refused only if
there is none (`debuggerLine?_eq_some_iff`). So what a client sees of a breakpoint that is hit
is the line it has asked for (`lines_correspond`).
-/

namespace DebugAdapter

namespace Conventions

/-- A line of the debugger is shown to the client as some line. -/
structure Shows (c : Conventions) (n : Nat) (line : Int) : Prop where
  positive : 1 ≤ n
  bounded : n ≤ 4294967295
  shown : c.lineToClient n = line

variable {c : Conventions}

theorem Shows.line_eq (h : c.Shows n line) (h' : c.Shows n other) : line = other :=
  h.shown.symm.trans h'.shown

/-- A client's line is taken for the one that is shown as it. The greatest number that a
client can send is no exception, since no line of the debugger is shown as that. -/
theorem debuggerLine?_eq_some_iff : c.debuggerLine? line = some n ↔ c.Shows n line := by
  rw [debuggerLine?_eq_some]
  obtain ⟨_ | _, pathsAreUri⟩ := c
  · have taken : lineFromClient ⟨false, pathsAreUri⟩ line = some (n : Int) ↔
        line < maxClientLine ∧ line + 1 = n := by
      simp [lineFromClient]
    have greatest : maxClientLine = 9223372036854775807 := rfl
    have back : lineToClient ⟨false, pathsAreUri⟩ n = (n : Int) - 1 := rfl
    rw [taken]
    constructor
    · rintro ⟨⟨-, next⟩, positive, bounded⟩
      exact ⟨positive, bounded, by omega⟩
    · rintro ⟨positive, bounded, shown⟩
      omega
  · constructor
    · rintro ⟨same, positive, bounded⟩
      exact ⟨positive, bounded, (Option.some.inj same).symm⟩
    · rintro ⟨positive, bounded, rfl⟩
      exact ⟨rfl, positive, bounded⟩

theorem debuggerLine?_eq_none_iff : c.debuggerLine? line = none ↔ ∀ n, ¬c.Shows n line := by
  simp only [Option.eq_none_iff_forall_ne_some, ne_eq, debuggerLine?_eq_some_iff]

end Conventions

-- ---------------------------------------------------------------------------
-- Requested lines
-- ---------------------------------------------------------------------------

inductive LineRequest.Fate (c : Conventions) (d : Debuggee) (lines : List BreakpointLine)
    (r : LineRequest) : Breakpoint → Prop
  | refused : (∀ n, ¬c.Shows n r.line) →
    Fate c d lines r (.unverified r.line ("invalid line " ++ Value.intText r.line))
  | uncompiled : c.Shows n r.line → r.condition? = some text →
    d.compile text = .error message → Fate c d lines r (.unverified r.line message)
  | installed : c.Shows n r.line → n ∈ lines.map Prod.fst →
    b ∈ [⟨true, r.line, none⟩, .unverified r.line "no code at this line"] → Fate c d lines r b

variable {c : Conventions} {d : Debuggee}

theorem LineRequest.Accepted.shows {r : LineRequest} (h : r.Accepted c d l) :
    c.Shows l.1 r.line :=
  Conventions.debuggerLine?_eq_some_iff.mp
    (Conventions.debuggerLine?_eq_some.mpr ⟨h.line, h.positive, h.bounded⟩)

theorem LineRequest.accept_cases (r : LineRequest) :
    ((∀ n, ¬c.Shows n r.line) ∧
      r.accept c d = .error ("invalid line " ++ Value.intText r.line)) ∨
    (∃ n text message, c.Shows n r.line ∧ r.condition? = some text ∧
      d.compile text = .error message ∧ r.accept c d = .error message) ∨
    ∃ l, r.Accepted c d l ∧ r.accept c d = .ok l := by
  cases outcome : r.accept c d with
  | ok l => exact .inr (.inr ⟨l, accept_eq_ok.mp outcome, rfl⟩)
  | error message =>
    unfold accept at outcome
    cases means : c.debuggerLine? r.line with
    | none =>
      rw [means] at outcome
      cases outcome
      exact .inl ⟨Conventions.debuggerLine?_eq_none_iff.mp means, rfl⟩
    | some n =>
      have shows := Conventions.debuggerLine?_eq_some_iff.mp means
      rw [means] at outcome
      dsimp only at outcome
      cases given : r.condition? with
      | none =>
        rw [given] at outcome
        cases outcome
      | some text =>
        rw [given] at outcome
        dsimp only at outcome
        split at outcome <;> cases outcome
        rename_i fails
        exact .inr (.inl ⟨n, text, message, shows, rfl, fails, rfl⟩)

theorem LineRequest.fate_answer {requests : List LineRequest} (there : r ∈ requests)
    (confirmed : List Nat) :
    r.Fate c d (installed (requests.map (·.accept c d)))
      (r.answer confirmed (r.accept c d)) := by
  obtain ⟨none, outcome⟩ | ⟨n, text, message, shows, given, fails, outcome⟩ |
    ⟨l, accepted, outcome⟩ := r.accept_cases (c := c) (d := d)
  all_goals rw [outcome]
  · exact .refused none
  · exact .uncompiled shows given fails
  · obtain ⟨m, first, same⟩ := firstAccepted_of_accepted there accepted
    refine .installed accepted.shows ?_ ?_
    · rw [← same]
      exact List.mem_map_of_mem (mem_installed.mpr first)
    · unfold answer
      dsimp only
      split
      · exact List.mem_cons_self
      · exact List.mem_cons_of_mem _ List.mem_cons_self

-- ---------------------------------------------------------------------------
-- Lines there and back
-- ---------------------------------------------------------------------------

/-- A requested line is refused if no line of the debugger is shown as it. Else it is taken
for that one, which is installed if the condition compiles; an activation that stands there
is shown on the requested line. Requests for different lines never mean the same one. -/
theorem lines_correspond (d : Debuggee) (c : Conventions) (arguments : Json)
    (named : BreakpointArguments.Name c arguments path requests)
    (found : d.findSource path = some source) :
    (∃ answers calls lines, setBreakpoints d c arguments = .ok (answers, calls) ∧
      calls.filter Call.mutates = [.resetBreakpoints source lines] ∧
      List.Forall₂ (LineRequest.Fate c d lines) requests answers ∧
      ∀ l ∈ lines, ∃ r ∈ requests, r.Accepted c d l ∧ c.Shows l.1 r.line) ∧
    (∀ line n, c.debuggerLine? line = some n ↔ c.Shows n line) ∧
    (∀ n line, c.Shows n line → ∀ (e : Debuggee) start levels,
      ∀ f ∈ stackTrace e c start levels, e.lineAt? f.id = some n → f.line = line) ∧
    ∀ r ∈ requests, ∀ q ∈ requests, r.line ≠ q.line →
      ∀ l m, r.Accepted c d l → q.Accepted c d m → l.1 ≠ m.1 := by
  refine ⟨?_, fun line n => Conventions.debuggerLine?_eq_some_iff, ?_, ?_⟩
  · have outcome := setBreakpoints_eq d arguments named
    rw [found] at outcome
    refine ⟨_, _, installed (requests.map (·.accept c d)), outcome, ?_, ?_, fun l there => ?_⟩
    · rw [List.filter_append, List.filter_cons_of_neg (by simp [Call.mutates]), mutates_compiled]
      rfl
    · exact List.forall₂_map_right_iff.mpr
        (List.forall₂_same.mpr fun r there => r.fate_answer there _)
    · obtain ⟨r, asked, accepted⟩ := (mem_installed.mp there).accepted
      exact ⟨r, asked, accepted, accepted.shows⟩
  · rintro n line shows e start levels f shown stands
    rw [line_of_mem_stackTrace shown stands, shows.shown]
  · rintro r - q - apart l m rAccepted qAccepted same
    exact apart (rAccepted.shows.line_eq (same ▸ qAccepted.shows))

/-- A client that counts from 0 asks for the first line and for the last one, and for one
before and one behind them. -/
theorem first_and_last_line :
    let d : Debuggee := { Debuggee.silent with
      findSource := fun path => if path = "main.lua" then some 5 else none
      callStack := [⟨none, some ⟨5, 1, 1, 1, 9, false⟩, 0, 0, 0⟩]
      confirmedLines := fun _ lines => (lines.map Prod.fst).filter (· ≤ 10) }
    let c : Conventions := ⟨false, false⟩
    let arguments : Json := .obj [("source", .obj [("path", .str "main.lua")]),
      ("lines", .arr [.int (-1), .int 0, .int 4294967294, .int 4294967295])]
    let requests : List LineRequest :=
      [⟨-1, none⟩, ⟨0, none⟩, ⟨4294967294, none⟩, ⟨4294967295, none⟩]
    BreakpointArguments.Name c arguments "main.lua" requests ∧ d.findSource "main.lua" = some 5 ∧
      ∃ answers calls lines, setBreakpoints d c arguments = .ok (answers, calls) ∧
        lines = [(1, none), (4294967295, none)] ∧
        List.Forall₂ (LineRequest.Fate c d lines) requests answers ∧
        answers.map Breakpoint.verified = [false, true, false, false] ∧
        ∀ f ∈ stackTrace d c 0 0, d.lineAt? f.id = some 1 → f.line = 0 := by
  intro d c arguments requests
  have named : BreakpointArguments.Name c arguments "main.lua" requests :=
    ⟨⟨some "main.lua", none, some [-1, 0, 4294967294, 4294967295]⟩, "main.lua",
      by decide +kernel, rfl, by decide +kernel, rfl, rfl⟩
  have found : d.findSource "main.lua" = some 5 := rfl
  obtain ⟨⟨answers, calls, lines, outcome, installs, fates, -⟩, means, shows, -⟩ :=
    lines_correspond d c arguments named found
  have run : (setBreakpoints d c arguments).toOption = some
      ([.unverified (-1) "invalid line -1", ⟨true, 0, none⟩,
        .unverified 4294967294 "no code at this line",
        .unverified 4294967295 "invalid line 4294967295"],
      [.findSource "main.lua", .resetBreakpoints 5 [(1, none), (4294967295, none)]]) := by
    decide +kernel
  rw [outcome] at run
  obtain ⟨rfl, rfl⟩ := Prod.mk.inj (Option.some.inj run)
  replace installs : [Call.resetBreakpoints 5 [(1, none), (4294967295, none)]] =
    [.resetBreakpoints 5 lines] := installs
  obtain rfl : [(1, none), (4294967295, none)] = lines := by simpa using installs
  exact ⟨named, found, _, _, _, outcome, rfl, fates, rfl,
    shows 1 0 ((means 0 1).mp (by decide +kernel)) d 0 0⟩

end DebugAdapter
