import DebugAdapter.Proofs.Machine.Rows
import DebugAdapter.Proofs.Machine.Stack
import DebugAdapter.Session.Inspection

/-!
# Inspection in words

The handlers that take numbers of a client: a start and a number of levels, the number of a
frame, a handle. A number below zero is raised to zero or turned away before it is cast, and a
frame that is past the stack, or too deep for a handle, is turned away before it is packed. So
each of them goes through, with the outcome that is computed without a limit of its numbers.
-/

namespace DebugAdapter

/-- A number of a client that counts something: one below zero is taken for zero. -/
def Word.natural (a : Word .i64) : Checked (Word .usize) := (a.max (.small 0)).cast .usize

theorem Word.yields_natural (a : Word .i64) : Yields a.natural (·.toNat = a.val.toNat) := by
  have range := a.holds
  simp at range
  refine (yields_ofInt (by simp; omega)).mono fun n same => ?_
  simp only [Word.toNat, same, Word.val_max, Word.val_small, Nat.reduceLeDiff]
  omega

namespace SessionState

variable (st : SessionState) (d : Debuggee)

-- ---------------------------------------------------------------------------
-- Stack and scopes
-- ---------------------------------------------------------------------------

def answerStackTraceInWords (defaultLevels : Nat) (r : Request) : Checked Handled := do
  let start ← ((r.word? "startFrame").getD (.small 0)).natural
  let levels ← match r.word? "levels" with
    | some levels => levels.natural
    | none => Word.ofInt .usize defaultLevels
  let (frames, total) ← stackTraceInWords d st.conventions start levels
  return .answer st [("stackFrames", .arr (frames.map StackFrame.toJson)),
    ("totalFrames", .int total)] []

def scopeJsonInWords (kind : ScopeKind) (expensive : Bool) (ref : VarRef) : Checked Json := do
  let handle ← ref.encodeInWords
  return Json.object [("name", .str kind.name), ("variablesReference", .int handle.val),
    ("expensive", .bool expensive)]

def scopeRefs (frame : Nat) : List ((ScopeKind × Bool) × VarRef) :=
  shownScopes.filterMap fun s => (VarRef.root? s.1 frame).map (s, ·)

def frameScopesInWords (frame : Word .i64) : Checked (List Json) :=
  if frame.val < 0 then return []
  else do
    let length ← Word.ofInt .usize d.callStack.length
    let frame ← frame.cast .usize
    if frame.toNat ≥ length.toNat ∨ frame.toNat > VarRef.maxFrame then return []
    else (scopeRefs frame.toNat).mapM fun s => scopeJsonInWords s.1.1 s.1.2 s.2

def answerScopesInWords (r : Request) : Checked Handled := do
  let scopes ← frameScopesInWords d ((r.word? "frameId").getD (.small 0))
  return .answer st [("scopes", .arr scopes)] []

theorem yields_scopes (frame : Nat) :
    Yields ((scopeRefs frame).mapM fun s => scopeJsonInWords s.1.1 s.1.2 s.2)
      (· = shownScopes.filterMap fun s => (VarRef.root? s.1 frame).map (scopeJson s.1 s.2)) := by
  have scopes : (shownScopes.filterMap fun s => (VarRef.root? s.1 frame).map (scopeJson s.1 s.2)) =
      (scopeRefs frame).map fun s => scopeJson s.1.1 s.1.2 s.2 := by
    simp only [scopeRefs, List.map_filterMap, Option.map_map]
    rfl
  rw [scopes]
  refine yields_mapM fun s there => ?_
  rcases List.mem_filterMap.mp there with ⟨shown, -, root⟩
  rcases Option.map_eq_some_iff.mp root with ⟨ref, made, rfl⟩
  refine (VarRef.yields_encode (VarRef.make?_eq_some.mp made).1).bind fun handle same => ?_
  exact .pure (by simp [scopeJson, same])

section
variable {d : Debuggee} (fits : d.InWords)
include fits

theorem yields_answerStackTrace {defaultLevels : Nat} (usual : WordType.usize.Holds defaultLevels)
    (r : Request) :
    Yields (st.answerStackTraceInWords d defaultLevels r)
      (· = st.answerStackTrace d defaultLevels r) := by
  unfold answerStackTrace
  refine (Word.yields_natural _).bind fun start first => ?_
  rw [Request.val_getD_word?] at first
  rw [← first, ← r.map_val_word? "levels"]
  cases r.word? "levels" with
  | some asked =>
    refine asked.yields_natural.bind fun levels most => ?_
    refine (yields_stackTrace d st.conventions fits start levels).bind fun trace same => .pure ?_
    simp [same, most]
  | none =>
    refine (yields_ofInt usual).bind fun levels most => ?_
    refine (yields_stackTrace d st.conventions fits start levels).bind fun trace same => .pure ?_
    simp [same, Word.toNat_of_val most]

theorem yields_frameScopes (frame : Word .i64) :
    Yields (frameScopesInWords d frame) (· = frameScopes d frame.val) := by
  have size := fits.size
  have range := frame.holds
  simp at size range
  unfold frameScopesInWords frameScopes
  by_cases below : frame.val < 0
  · rw [if_pos below, if_pos (.inl below)]
    exact .pure rfl
  rw [if_neg below]
  refine (yields_ofInt (by simp; omega)).bind fun length counted => ?_
  refine (yields_ofInt (by simp; omega)).bind fun depth same => ?_
  have whole := Word.toNat_of_val counted
  have place : frame.val.toNat = depth.toNat := by simp [Word.toNat, same]
  have turned : (frame.val < 0 ∨ frame.val ≥ d.callStack.length ∨ frame.val > VarRef.maxFrame) ↔
      (depth.toNat ≥ length.toNat ∨ depth.toNat > VarRef.maxFrame) := by
    omega
  simp only [turned, place]
  split
  · exact .pure rfl
  · exact yields_scopes depth.toNat

theorem yields_answerScopes (r : Request) :
    Yields (st.answerScopesInWords d r) (· = st.answerScopes d r) := by
  refine (yields_frameScopes fits _).bind fun scopes same => .pure ?_
  simp [same, answerScopes]

end

-- ---------------------------------------------------------------------------
-- Variables
-- ---------------------------------------------------------------------------

def watchRowsInWords (scope : FrameScope) (frame : Nat) :
    Checked (List (String × Json) × SessionState) := do
  let (rows, values) ← st.values.watchRowsInWords scope.kind frame (d.watches scope.watchKind)
  return (variablesMember rows, { st with values })

def frameVariablesInWords (reply : ReplyTo) (scope : FrameScope) (frame : Nat) :
    Checked Handled :=
  if (st.view scope).frame = some frame then do
    let (members, st) ← st.watchRowsInWords d scope frame
    return .answer st members []
  else if d.callStack.length ≤ frame then return .answer st (variablesMember []) []
  else return st.park reply scope frame

def rootVariablesInWords (scope : ScopeKind) (frame : Nat) : Checked Handled := do
  let (rows, values) ← match d.scopeValue scope frame with
    | .ok value => st.values.expandInWords scope frame value
    | .error message => pure ([Variable.leaf "<error>" message none], st.values)
  return .answer { st with values } (variablesMember rows) [.scopeValue scope frame]

def scopeVariablesInWords (reply : ReplyTo) (ref : VarRef) : Checked Handled :=
  match ref.scope with
  | .locals => st.frameVariablesInWords d reply .locals ref.frame
  | .closure => st.frameVariablesInWords d reply .closure ref.frame
  | scope => st.rootVariablesInWords d scope ref.frame

def answerVariablesInWords (r : Request) : Checked (Except Refused Handled) := do
  let handle := (r.word? "variablesReference").getD (.small 0)
  match ← VarRef.decodeInWords handle with
  | .error failure => return .error ⟨failure, []⟩
  | .ok ref =>
    if ref.isRoot then return .ok (← st.scopeVariablesInWords d r.replyTo ref)
    else match st.values.get? ref.slot with
      | none => return .error ⟨.invalidHandle handle.val, []⟩
      | some value =>
        let (rows, values) ← st.values.expandInWords ref.scope ref.frame value
        return .ok (.answer { st with values } (variablesMember rows) [])

-- ---------------------------------------------------------------------------
-- Expressions
-- ---------------------------------------------------------------------------

def evaluateExpressionInWords (expression : String) (frame : Word .usize) :
    Checked (Except Refused Handled) :=
  match d.evaluate expression frame.toNat with
  | .error message =>
    return .error ⟨.protocol ErrorId.evaluationFailed message,
      [.evaluate expression frame.toNat]⟩
  | .ok value => do
    let deepest : Word .usize := .small VarRef.maxFrame
    let (row, values) ← st.values.rowInWords .global (frame.min deepest).toNat expression value
    return .ok <| .answer { st with values }
      ([("result", .str row.value)] ++ Json.optional "type" (row.type.map .str) ++
        [("variablesReference", .int row.handle)]) [.evaluate expression frame.toNat]

def answerEvaluateInWords (r : Request) : Checked (Except Refused Handled) :=
  match r.str? "expression" with
  | none =>
    return .error <| .atOnce ErrorId.missingExpression
      "evaluate: property 'expression' is missing or empty"
  | some expression => do
    let frame ← ((r.word? "frameId").getD (.small 0)).natural
    match consoleCommand? r expression with
    | some command => return .ok (st.runConsole d command)
    | none => st.evaluateExpressionInWords d expression frame

section
variable {st : SessionState} (h : st.values.Counted)
include h

theorem yields_watchRows (scope : FrameScope) (frame : Nat) :
    Yields (st.watchRowsInWords d scope frame) (· = st.watchRows d scope frame) := by
  refine (ValueTable.yields_watchRows h ..).bind fun rows same => .pure ?_
  rw [same]
  rfl

theorem yields_frameVariables (reply : ReplyTo) (scope : FrameScope) (frame : Nat) :
    Yields (st.frameVariablesInWords d reply scope frame)
      (· = st.frameVariables d reply scope frame) := by
  unfold frameVariablesInWords frameVariables
  split
  · refine (yields_watchRows d h scope frame).bind fun rows same => .pure ?_
    rw [same]
  split
  · exact .pure rfl
  · exact .pure rfl

theorem yields_rootVariables (scope : ScopeKind) (frame : Nat) :
    Yields (st.rootVariablesInWords d scope frame) (· = st.rootVariables d scope frame) := by
  unfold rootVariablesInWords rootVariables
  cases d.scopeValue scope frame with
  | error message => exact .pure rfl
  | ok value =>
    refine (ValueTable.yields_expand h scope frame value).bind fun rows same => .pure ?_
    rw [same]

theorem yields_scopeVariables (reply : ReplyTo) (ref : VarRef) :
    Yields (st.scopeVariablesInWords d reply ref) (· = st.scopeVariables d reply ref) := by
  rcases ref with ⟨scope, frame, slot⟩
  cases scope with
  | locals => exact yields_frameVariables d h reply .locals frame
  | closure => exact yields_frameVariables d h reply .closure frame
  | global => exact yields_rootVariables d h .global frame
  | self => exact yields_rootVariables d h .self frame

theorem yields_answerVariables (r : Request) :
    Yields (st.answerVariablesInWords d r) (· = st.answerVariables d r) := by
  unfold answerVariablesInWords answerVariables
  refine (VarRef.yields_decode _).bind fun decoded same => ?_
  rw [Request.val_getD_word?] at same ⊢
  dsimp only
  rw [← same]
  rcases decoded with failure | ref
  · exact .pure rfl
  dsimp only
  split
  · refine (yields_scopeVariables d h r.replyTo ref).bind fun handled same => .pure ?_
    rw [same]
  · cases st.values.get? ref.slot with
    | none => exact .pure rfl
    | some value =>
      refine (ValueTable.yields_expand h ref.scope ref.frame value).bind fun rows same => .pure ?_
      rw [same]

theorem yields_evaluateExpression (expression : String) (frame : Word .usize) :
    Yields (st.evaluateExpressionInWords d expression frame)
      (· = st.evaluateExpression d expression frame.toNat) := by
  unfold evaluateExpressionInWords evaluateExpression
  cases d.evaluate expression frame.toNat with
  | error message => exact .pure rfl
  | ok value =>
    have deepest : (frame.min (.small VarRef.maxFrame)).toNat =
        min frame.toNat VarRef.maxFrame := by
      have written : VarRef.maxFrame ≤ 255 := by decide
      simp only [Word.toNat, Word.val_min, Word.val_small written]
      omega
    refine (ValueTable.yields_row h .global _ expression value).bind fun row same => .pure ?_
    rw [same, deepest]

theorem yields_answerEvaluate (r : Request) :
    Yields (st.answerEvaluateInWords d r) (· = st.answerEvaluate d r) := by
  unfold answerEvaluateInWords answerEvaluate
  cases r.str? "expression" with
  | none => exact .pure rfl
  | some expression =>
    refine (Word.yields_natural _).bind fun frame same => ?_
    rw [Request.val_getD_word?] at same
    dsimp only
    rw [← same]
    cases consoleCommand? r expression with
    | some command => exact .pure rfl
    | none => exact yields_evaluateExpression d h expression frame

end

end SessionState

end DebugAdapter
