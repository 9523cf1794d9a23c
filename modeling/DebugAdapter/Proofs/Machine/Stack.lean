import DebugAdapter.Proofs.Machine.Lines
import DebugAdapter.Proofs.StackTrace.Paging

/-!
# Stack traces in words

A client may ask for a window anywhere: its start and its levels are limited only by their
type. The end of the window is found by an addition that saturates, so the window is a part of
the stack (`window_le`), and the frames that follow it are numbered past the stack.
-/

namespace DebugAdapter

-- ---------------------------------------------------------------------------
-- Debuggees
-- ---------------------------------------------------------------------------

structure Location.InWords (l : Location) : Prop where
  fromLine : WordType.u32.Holds l.fromLine
  fromColumn : WordType.u32.Holds l.fromColumn
  toLine : WordType.u32.Holds l.toLine
  toColumn : WordType.u32.Holds l.toColumn

def CallFrame.InWords (frame : CallFrame) : Prop := ∀ l ∈ frame.location, l.InWords

/-- What a debuggee answers is of the types it has in words. A list in memory has no more
bytes than a signed word counts, and a frame takes twelve of them for its activation alone. -/
structure Debuggee.InWords (d : Debuggee) : Prop where
  frames : ∀ frame ∈ d.callStack, frame.InWords
  size : WordType.i64.Holds (12 * d.callStack.length)

theorem Debuggee.InWords.room {d : Debuggee} (h : d.InWords) :
    WordType.i64.Holds (d.callStack.length + 3) := by
  have size := h.size
  simp at size ⊢
  omega

-- ---------------------------------------------------------------------------
-- Windows
-- ---------------------------------------------------------------------------

def frameBudgetInWords (length levels : Word .usize) : Word .usize :=
  if levels.val = 0 then length else (levels.saturatingSub (.small 3)).max (.small 1)

def windowInWords (length start levels : Word .usize) : Word .usize × Word .usize :=
  let stop := length.min (start.saturatingAdd (frameBudgetInWords length levels))
  (start.min stop, stop)

theorem toNat_frameBudget (length levels : Word .usize) :
    (frameBudgetInWords length levels).toNat = frameBudget length.toNat levels.toNat := by
  have range := levels.holds
  unfold frameBudgetInWords frameBudget
  by_cases all : levels.val = 0
  · simp [all, Word.toNat]
  · have some : levels.toNat ≠ 0 := by
      simp [Word.toNat] at range ⊢
      omega
    rw [if_neg all, if_neg some]
    simp only [Word.toNat, Word.saturatingSub, Word.val_max, Word.val_clamp, Word.val_small,
      Nat.reduceLeDiff, WordType.least, WordType.greatest, WordType.holds_usize,
      pseudoFrames] at range ⊢
    omega

theorem toNat_window (length start levels : Word .usize) :
    (windowInWords length start levels).map Word.toNat Word.toNat =
      window length.toNat start.toNat levels.toNat := by
  have first := start.toNat_val
  have last := length.toNat_val
  have budget := (frameBudgetInWords length levels).toNat_val
  have range := length.holds
  simp only [windowInWords, window, ← toNat_frameBudget, Prod.map_apply, Prod.mk.injEq]
  simp only [Word.toNat, Word.saturatingAdd, Word.val_min, Word.val_clamp,
    WordType.least, WordType.greatest, WordType.holds_usize] at first last budget range ⊢
  omega

theorem window_le (length start levels : Nat) :
    (window length start levels).1 ≤ (window length start levels).2 ∧
      (window length start levels).2 ≤ length := by
  simp only [window]
  omega

-- ---------------------------------------------------------------------------
-- Frames
-- ---------------------------------------------------------------------------

def StackFrame.ofCallInWords (d : Debuggee) (c : Conventions) (depth : Word .usize)
    (frame : CallFrame) : Checked StackFrame := do
  let id ← depth.cast .i64
  let shown := StackFrame.ofCall d c id.toNat frame
  match frame.location with
  | none => return shown
  | some l =>
    let line ← c.lineToClientInWords l.fromLine
    let column ← Word.position l.fromColumn
    if l.isHost then return { shown with line := line.val, column := column.val }
    else
      let endLine ← c.lineToClientInWords l.toLine
      let endColumn ← Word.position l.toColumn
      return { shown with
        line := line.val
        column := column.val
        endLine := some endLine.val
        endColumn := some endColumn.val }

def framesInWords (d : Debuggee) (c : Conventions) (start : Word .usize)
    (frames : List CallFrame) : Checked (List StackFrame) :=
  frames.zipIdx.mapM fun f => do
    let depth ← start.add (← Word.ofInt .usize f.2)
    StackFrame.ofCallInWords d c depth f.1

def realFramesInWords (d : Debuggee) (c : Conventions) (first stop : Word .usize) :
    Checked (List StackFrame) := do
  framesInWords d c first (← slice d.callStack first.toNat stop.toNat)

def labelsInWords (id : Word .i64) : List String → Checked (List StackFrame)
  | [] => return []
  | name :: rest => do
    let next ← id.add (.small 1)
    return .label id.toNat name :: (← labelsInWords next rest)

def tailFramesInWords (d : Debuggee) (length stop : Word .usize) :
    Checked (List StackFrame) := do
  let mark := if stop.toNat < length.toNat then ["(...)"] else []
  labelsInWords (← length.cast .i64) (mark ++ [d.coroutineLabel, "(native)"])

def stackTraceInWords (d : Debuggee) (c : Conventions) (start levels : Word .usize) :
    Checked (List StackFrame × Nat) := do
  let length ← Word.ofInt .usize d.callStack.length
  let shown := windowInWords length start levels
  let frames ← realFramesInWords d c shown.1 shown.2
  let labels ← tailFramesInWords d length shown.2
  let total ← length.add (.small 2)
  return (frames ++ labels, total.toNat)

section
variable (d : Debuggee) (c : Conventions)

theorem yields_ofCall {frame : CallFrame} (fits : frame.InWords) {depth : Word .usize}
    (shallow : WordType.i64.Holds depth.val) :
    Yields (StackFrame.ofCallInWords d c depth frame)
      (· = StackFrame.ofCall d c depth.toNat frame) := by
  refine (yields_ofInt shallow).bind fun id same => ?_
  have same : id.toNat = depth.toNat := congrArg Int.toNat same
  rw [same]
  cases located : frame.location with
  | none => exact .pure rfl
  | some l =>
    have range := fits l located
    refine (c.yields_lineToClient range.fromLine).bind fun line h => ?_
    refine (Word.yields_position range.fromColumn).bind fun column h' => ?_
    cases host : l.isHost with
    | true => exact .pure (by simp [StackFrame.ofCall, located, host, h, h'])
    | false =>
      refine (c.yields_lineToClient range.toLine).bind fun endLine k => ?_
      refine (Word.yields_position range.toColumn).bind fun endColumn k' => ?_
      exact .pure (by simp [StackFrame.ofCall, located, host, h, h', k, k'])

theorem yields_frames {frames : List CallFrame} (fits : ∀ frame ∈ frames, frame.InWords)
    {start : Word .usize} (shallow : WordType.i64.Holds (start.val + frames.length)) :
    Yields (framesInWords d c start frames)
      (· = (frames.zipIdx start.toNat).map fun f => .ofCall d c f.2 f.1) := by
  have place : (frames.zipIdx start.toNat).map (fun f => StackFrame.ofCall d c f.2 f.1) =
      frames.zipIdx.map fun f => StackFrame.ofCall d c (start.toNat + f.2) f.1 := by
    rw [List.zipIdx_eq_map_add, List.map_map]
    rfl
  rw [place]
  refine yields_mapM fun f there => ?_
  have low := List.snd_lt_of_mem_zipIdx there
  have range := start.holds
  simp at shallow range
  refine (yields_ofInt (by simp; omega)).bind fun index counted => ?_
  refine (yields_ofInt (by simp; omega)).bind fun depth sum => ?_
  have place : depth.toNat = start.toNat + f.2 := by
    simp only [Word.toNat, sum, counted]
    omega
  rw [← place]
  exact yields_ofCall d c (fits f.1 (List.fst_mem_of_mem_zipIdx there)) (by simp; omega)

theorem yields_realFrames (fits : d.InWords) {first stop : Word .usize}
    (ordered : first.toNat ≤ stop.toNat) (there : stop.toNat ≤ d.callStack.length) :
    Yields (realFramesInWords d c first stop)
      (· = (((d.callStack.drop first.toNat).take (stop.toNat - first.toNat)).zipIdx
        first.toNat).map fun f => .ofCall d c f.2 f.1) := by
  refine (yields_slice ordered there).bind fun part same => ?_
  rw [← same]
  refine yields_frames d c (fun frame member => ?_) ?_
  · rw [same] at member
    exact fits.frames frame (List.mem_of_mem_drop (List.mem_of_mem_take member))
  · have room := fits.room
    rw [← first.toNat_val]
    simp [same] at room ⊢
    omega

theorem yields_labels {names : List String} {id : Word .i64} (first : 0 ≤ id.val)
    (room : WordType.i64.Holds (id.val + names.length)) :
    Yields (labelsInWords id names) (· = (names.zipIdx id.toNat).map fun n => .label n.2 n.1) := by
  induction names generalizing id with
  | nil => exact .pure rfl
  | cons name names ih =>
    simp at room
    refine (yields_ofInt (by simp; omega)).bind fun next counted => ?_
    simp at counted
    have place : next.toNat = id.toNat + 1 := by
      simp only [Word.toNat, counted]
      omega
    refine (ih (by omega) (by simp; omega)).bind fun others same => .pure ?_
    rw [same, place]
    rfl

theorem yields_tailFrames {length : Word .usize} (room : WordType.i64.Holds (length.val + 3))
    (stop : Word .usize) :
    Yields (tailFramesInWords d length stop) (· = tailFrames d length.toNat stop.toNat) := by
  have labelled : tailFrames d length.toNat stop.toNat =
      (((if stop.toNat < length.toNat then ["(...)"] else []) ++
        [d.coroutineLabel, "(native)"]).zipIdx length.toNat).map fun n => .label n.2 n.1 := by
    rw [List.zipIdx_eq_map_add, List.map_map]
    rfl
  have range := length.holds
  simp at room range
  refine (yields_ofInt (by simp; omega)).bind fun id same => ?_
  have place : id.toNat = length.toNat := congrArg Int.toNat same
  rw [labelled, ← place]
  refine yields_labels (by omega) ?_
  simp
  split <;> simp <;> omega

theorem yields_stackTrace (fits : d.InWords) (start levels : Word .usize) :
    Yields (stackTraceInWords d c start levels)
      (· = (stackTrace d c start.toNat levels.toNat, totalFrames d)) := by
  have room := fits.room
  simp at room
  refine (yields_ofInt (by simp; omega)).bind fun length counted => ?_
  have whole := Word.toNat_of_val counted
  have places := toNat_window length start levels
  have bounds := window_le length.toNat start.toNat levels.toNat
  rw [← places, whole] at bounds
  generalize windowInWords length start levels = shown at places bounds
  refine (yields_realFrames d c fits bounds.1 bounds.2).bind fun frames real => ?_
  refine (yields_tailFrames d (by simp; omega) shown.2).bind fun labels ends => ?_
  refine (yields_ofInt (by simp; omega)).bind fun total sum => .pure ?_
  have trace : stackTrace d c start.toNat levels.toNat = frames ++ labels := by
    simp only [stackTrace, ← whole, ← places, real, ends, Prod.map_fst, Prod.map_snd]
  have count : total.toNat = totalFrames d := by
    simp [Word.toNat, totalFrames, sum, counted]
    omega
  rw [trace, count]

end

end DebugAdapter
