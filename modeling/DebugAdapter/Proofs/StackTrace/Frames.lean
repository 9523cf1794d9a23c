import DebugAdapter.Proofs.StackTrace.Paging

/-!
# What a frame shows

A frame of a stack trace shows the line and the file of the activation whose depth is its
identity, both as the client writes them.
-/

namespace DebugAdapter

namespace Debuggee

def locationAt? (d : Debuggee) (depth : Nat) : Option Location :=
  d.callStack[depth]?.bind CallFrame.location

def lineAt? (d : Debuggee) (depth : Nat) : Option Nat :=
  (d.locationAt? depth).map Location.fromLine

def fileAt? (d : Debuggee) (depth : Nat) : Option String :=
  ((d.locationAt? depth).filter (!·.isHost)).bind fun l =>
    (d.sourceInfo l.source).bind SourceInfo.file

end Debuggee

variable {d : Debuggee} {c : Conventions} {f : StackFrame}

theorem ofCall_of_mem_stackTrace (shown : f ∈ stackTrace d c start levels)
    (stands : d.locationAt? f.id = some l) :
    ∃ frame, frame.location = some l ∧ f = .ofCall d c f.id frame := by
  obtain ⟨frame, here, placed⟩ := Option.bind_eq_some_iff.mp stands
  have real : f.id < d.callStack.length := (List.getElem?_eq_some_iff.mp here).1
  obtain ⟨⟨activation, depth⟩, mem, rfl⟩ :=
    List.mem_map.mp ((mem_realFrames_iff d c start levels shown).mpr real)
  rw [id_ofCall] at here
  have same : d.callStack[depth]? = some activation := List.mem_zipIdx_iff_getElem?.mp mem
  obtain rfl := Option.some.inj (same.symm.trans here)
  exact ⟨activation, placed, by rw [id_ofCall]⟩

theorem line_of_mem_stackTrace (shown : f ∈ stackTrace d c start levels)
    (stands : d.lineAt? f.id = some n) : f.line = c.lineToClient n := by
  obtain ⟨l, placed, rfl⟩ := Option.map_eq_some_iff.mp stands
  obtain ⟨frame, here, same⟩ := ofCall_of_mem_stackTrace shown placed
  rw [same, StackFrame.ofCall]
  simp only [here]
  split <;> rfl

theorem source_of_mem_stackTrace (shown : f ∈ stackTrace d c start levels)
    (runs : d.fileAt? f.id = some file) :
    ∃ source, f.source = some source ∧ source.path = c.pathToClient file := by
  obtain ⟨l, placed, info⟩ := Option.bind_eq_some_iff.mp runs
  obtain ⟨placed, script⟩ := Option.filter_eq_some_iff.mp placed
  replace script : l.isHost = false := by simpa using script
  obtain ⟨frame, here, same⟩ := ofCall_of_mem_stackTrace shown placed
  rw [same, StackFrame.ofCall]
  simp only [here, script, info, Bool.false_eq_true, if_false, Option.map_some]
  exact ⟨_, rfl, rfl⟩

end DebugAdapter
