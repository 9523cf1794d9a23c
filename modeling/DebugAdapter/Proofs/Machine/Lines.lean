import DebugAdapter.Breakpoints
import DebugAdapter.Proofs.Machine.Words
import DebugAdapter.Protocol.Message

/-!
# Lines in words

The numbers of a client are signed and of 64 bits, the lines of the debugger are unsigned
and of 32. A client's line is turned into one of the debugger by an addition and a
conversion that may both fail, so any number that a client can send is worked through.
-/

namespace DebugAdapter

-- ---------------------------------------------------------------------------
-- Numbers of a client
-- ---------------------------------------------------------------------------

theorem Json.holds_of_asInt64? {j : Json} (h : j.asInt64? = some n) : WordType.i64.Holds n := by
  unfold asInt64? at h
  split at h
  · split at h
    · rename_i range
      cases h
      simp only [Bool.and_eq_true, decide_eq_true_eq] at range
      exact range
    · cases h
  · cases h

namespace Request

def word? (r : Request) (name : String) : Option (Word .i64) :=
  match r.arguments.get? name with
  | some (.int n) => Word.ofInt? .i64 n
  | _ => none

theorem map_val_word? (r : Request) (name : String) :
    (r.word? name).map Word.val = r.int? name := by
  unfold word? int?
  cases r.arguments.get? name with
  | none => rfl
  | some j =>
    cases j with
    | int n =>
      simp only [Word.map_val_ofInt?, Json.asInt64?, Option.bind_some, Bool.and_eq_true,
        decide_eq_true_eq]
      rfl
    | _ => rfl

@[simp] theorem val_getD_word? (r : Request) (name : String) :
    ((r.word? name).getD (.small 0)).val = (r.int? name).getD 0 := by
  rw [← map_val_word?]
  cases r.word? name <;> rfl

end Request

-- ---------------------------------------------------------------------------
-- Conventions
-- ---------------------------------------------------------------------------

def Word.position (n : Nat) : Checked (Word .i64) := do
  (← Word.ofInt .u32 n).cast .i64

theorem Word.yields_position {n : Nat} (h : WordType.u32.Holds n) :
    Yields (Word.position n) (·.val = n) := by
  refine (yields_ofInt h).bind fun narrow same => ?_
  rw [← same]
  refine yields_ofInt ?_
  simp at h ⊢
  omega

namespace Conventions

variable (c : Conventions)

def lineToClientInWords (line : Nat) : Checked (Word .i64) := do
  let line ← Word.position line
  if c.linesStartAt1 then return line else line.sub (.small 1)

def lineFromClientInWords (line : Word .i64) : Option (Word .i64) :=
  if c.linesStartAt1 then some line else line.checkedAdd (.small 1)

def debuggerLineInWords? (line : Word .i64) : Option (Word .u32) :=
  ((c.lineFromClientInWords line).bind (Word.convert? .u32)).filter fun l => l.val ≠ 0

theorem yields_lineToClient {line : Nat} (h : WordType.u32.Holds line) :
    Yields (c.lineToClientInWords line) (·.val = c.lineToClient line) := by
  refine (Word.yields_position h).bind fun wide same => ?_
  unfold lineToClient
  split
  · exact .pure same
  · rw [← same]
    refine yields_ofInt ?_
    simp [same] at h ⊢
    omega

theorem map_val_lineFromClient (line : Word .i64) :
    (c.lineFromClientInWords line).map Word.val = c.lineFromClient line.val := by
  have range := line.holds
  unfold lineFromClientInWords lineFromClient
  split
  · rfl
  · simp [Word.checkedAdd, maxClientLine] at range ⊢
    grind

theorem map_toNat_debuggerLine? (line : Word .i64) :
    (c.debuggerLineInWords? line).map Word.toNat = c.debuggerLine? line.val := by
  unfold debuggerLineInWords? debuggerLine?
  rw [← map_val_lineFromClient]
  cases c.lineFromClientInWords line with
  | none => rfl
  | some l =>
    by_cases range : WordType.u32.Holds l.val
    · by_cases zero : l.val = 0
      · simp [Word.convert?, Word.ofInt?, zero]
      · have line : 1 ≤ l.val ∧ l.val ≤ maxDebuggerLine := by
          simp [maxDebuggerLine] at range ⊢
          omega
        simp [Word.convert?, Word.ofInt?, Word.toNat, range, zero, line]
    · have none : ¬(1 ≤ l.val ∧ l.val ≤ maxDebuggerLine) := by
        simp [maxDebuggerLine] at range ⊢
        omega
      simp [Word.convert?, Word.ofInt?, range, none]

end Conventions

-- ---------------------------------------------------------------------------
-- Breakpoints
-- ---------------------------------------------------------------------------

namespace BreakpointArguments

theorem mem_of_mapM {read : Json → Option α} {items : List Json} {values : List α}
    (h : items.mapM read = some values) (there : a ∈ values) : ∃ j, read j = some a := by
  induction items generalizing values with
  | nil => simp_all
  | cons j items ih =>
    simp only [List.mapM_cons, Option.bind_eq_bind, Option.bind_eq_some_iff] at h
    rcases h with ⟨first, read, rest, others, same⟩
    cases same
    rcases List.mem_cons.mp there with rfl | there
    · exact ⟨j, read⟩
    · exact ih others there

theorem mem_of_optionalField {read : Json → Option α} {j : Option Json} {values : List α}
    (h : optionalField (listOf? read) j = some (some values)) (there : a ∈ values) :
    ∃ j, read j = some a := by
  unfold optionalField at h
  split at h
  · cases h
  · cases h
  · simp only [Option.map_eq_some_iff, Option.some.injEq, exists_eq_right, listOf?,
      Option.bind_eq_bind, Option.bind_eq_some_iff] at h
    rcases h with ⟨items, -, read⟩
    exact mem_of_mapM read there

theorem holds_of_ofLine? {j : Json} (h : ofLine? j = some r) : WordType.i64.Holds r.line := by
  simp only [ofLine?, Option.bind_eq_bind, Option.bind_eq_some_iff] at h
  rcases h with ⟨fields, -, h⟩
  split at h
  · simp only [Option.bind_eq_some_iff, Option.pure_def, Option.some.injEq] at h
    rcases h with ⟨line, read, condition, -, rfl⟩
    exact Json.holds_of_asInt64? read
  · cases h

theorem holds_of_requested {j : Json} {args : BreakpointArguments} (h : ofJson? j = some args)
    (there : r ∈ args.requested) : WordType.i64.Holds r.line := by
  simp only [ofJson?, Option.bind_eq_bind, Option.bind_eq_some_iff] at h
  rcases h with ⟨fields, -, h⟩
  split at h
  · simp only [Option.bind_eq_some_iff, Option.pure_def, Option.some.injEq] at h
    rcases h with ⟨path, -, breakpoints, full, lines, old, rfl⟩
    cases breakpoints with
    | some breakpoints =>
      rcases mem_of_optionalField full there with ⟨line, read⟩
      exact holds_of_ofLine? read
    | none =>
      cases lines with
      | none => cases there
      | some lines =>
        rcases List.mem_map.mp there with ⟨line, listed, rfl⟩
        rcases mem_of_optionalField old listed with ⟨line, read⟩
        exact Json.holds_of_asInt64? read
  · cases h

end BreakpointArguments

def LineRequest.acceptInWords (c : Conventions) (d : Debuggee) (r : LineRequest) :
    Checked (Except String BreakpointLine × List Call) := do
  let line ← Word.ofInt .i64 r.line
  match c.debuggerLineInWords? line with
  | none => return (.error ("invalid line " ++ Value.intText line.val), [])
  | some line =>
    match r.condition? with
    | none => return (.ok (line.toNat, none), [])
    | some text =>
      match d.compile text with
      | .ok condition => return (.ok (line.toNat, some condition), [.compileCondition text])
      | .error message => return (.error message, [.compileCondition text])

def setBreakpointsInWords (d : Debuggee) (c : Conventions) (arguments : Json) :
    Checked (Except Failure (List Breakpoint × List Call)) :=
  match BreakpointArguments.ofJson? arguments with
  | none => return .error malformedSource
  | some args =>
    match breakpointPath c args.path with
    | .error failure => return .error failure
    | .ok path =>
      match d.findSource path with
      | none => return .ok (args.requested.map fun r =>
          .unverified r.line ("source '" ++ path ++ "' is not loaded"), [.findSource path])
      | some source => do
        let worked ← args.requested.mapM (·.acceptInWords c d)
        let outcomes := worked.map Prod.fst
        let lines := installed outcomes
        let confirmed := d.confirmedLines source lines
        return .ok (args.requested.zipWith (fun r o => r.answer confirmed o) outcomes,
          .findSource path :: worked.flatMap Prod.snd ++ [.resetBreakpoints source lines])

theorem LineRequest.yields_accept (c : Conventions) (d : Debuggee) {r : LineRequest}
    (range : WordType.i64.Holds r.line) :
    Yields (r.acceptInWords c d) (· = (r.accept c d, r.compiled c)) := by
  refine (yields_ofInt range).bind fun line same => ?_
  rw [accept, compiled, ← same, ← c.map_toNat_debuggerLine? line]
  cases c.debuggerLineInWords? line with
  | none => exact .pure rfl
  | some l =>
    dsimp only [Option.map]
    cases r.condition? with
    | none => exact .pure rfl
    | some text =>
      dsimp only
      cases d.compile text <;> exact .pure rfl

theorem yields_setBreakpoints (d : Debuggee) (c : Conventions) (arguments : Json) :
    Yields (setBreakpointsInWords d c arguments) (· = setBreakpoints d c arguments) := by
  unfold setBreakpointsInWords setBreakpoints
  cases read : BreakpointArguments.ofJson? arguments with
  | none => exact .pure rfl
  | some args =>
  dsimp only
  cases breakpointPath c args.path with
  | error failure => exact .pure rfl
  | ok path =>
  dsimp only [InPlace.ok_bind]
  cases d.findSource path with
  | none => exact .pure rfl
  | some source =>
    have lines : Yields (args.requested.mapM (·.acceptInWords c d))
        (· = args.requested.map fun r => (r.accept c d, r.compiled c)) :=
      yields_mapM fun r there =>
        r.yields_accept c d (BreakpointArguments.holds_of_requested read there)
    refine lines.bind fun worked same => .pure ?_
    simp [same, List.map_map, List.flatMap_map, Function.comp_def]

end DebugAdapter
