import DebugAdapter.Proofs.Breakpoints.Installed
import DebugAdapter.Proofs.Paths.RoundTrip
import DebugAdapter.Proofs.StackTrace.Frames
import DebugAdapter.Proofs.Text.Trimming

/-!
# Paths of the client

A client that writes paths as URLs gets them that way, and what it sends back is read as the
path that was shown. So a breakpoint on the source of a frame is looked up under the name
that the debuggee has for its file (`shown_paths_found`).
-/

namespace DebugAdapter

/-- An absolute path through at least one name, without a slash at its end. -/
def Paths.IsPlain (path : String) : Prop :=
  ∃ names, names ≠ [] ∧ (∀ n ∈ names, IsName n) ∧ path = String.ofList (through names)

variable {c : Conventions}

namespace Conventions

theorem pathToClient_plain (uris : c.pathsAreUri = true) (plain : Paths.IsPlain path) :
    ∃ rest, c.pathToClient path = "file://" ++ rest := by
  obtain ⟨names, some, named, rfl⟩ := plain
  rw [pathToClient, if_pos uris, Paths.toFileUrl?_through some named]
  exact ⟨_, rfl⟩

theorem pathFromClient_pathToClient (uris : c.pathsAreUri = true) (plain : Paths.IsPlain path) :
    c.pathFromClient (c.pathToClient path) = some path := by
  obtain ⟨names, some, named, rfl⟩ := plain
  rw [pathFromClient, pathToClient, if_pos uris, if_pos uris, Paths.toFileUrl?_through some named]
  exact Paths.ofFileUrl?_toFileUrl? some named

end Conventions

theorem setBreakpoints_looks (d : Debuggee) (arguments : Json)
    (named : BreakpointArguments.Name c arguments path requests) :
    ∃ answers calls, setBreakpoints d c arguments = .ok (answers, .findSource path :: calls) ∧
      ∀ other, .findSource other ∉ calls := by
  have outcome := setBreakpoints_eq d arguments named
  cases found : d.findSource path with
  | none =>
    rw [found] at outcome
    exact ⟨_, _, outcome, fun _ => List.not_mem_nil⟩
  | some source =>
    rw [found] at outcome
    refine ⟨_, _, outcome, fun other made => ?_⟩
    obtain made | made := List.mem_append.mp made
    · obtain ⟨text, same⟩ := mem_compiled made
      cases same
    · cases List.mem_singleton.mp made

/-- A client that writes paths as URLs is shown the URL of a plain path, and that path is
what it means by the URL. So whoever asks for breakpoints in the source that a frame shows
has them looked for in the file that the debuggee has run. -/
theorem shown_paths_found (uris : c.pathsAreUri = true) (plain : Paths.IsPlain path) :
    (∃ rest, c.pathToClient path = "file:" ++ rest) ∧
    c.pathFromClient (c.pathToClient path) = some path ∧
    ∀ (d : Debuggee) start levels, ∀ f ∈ stackTrace d c start levels, d.fileAt? f.id = some path →
      ∃ source, f.source = some source ∧ source.path = c.pathToClient path ∧
        ∀ (e : Debuggee) arguments args, BreakpointArguments.ofJson? arguments = some args →
          args.path = some source.path →
          ∃ answers calls, setBreakpoints e c arguments = .ok (answers, .findSource path :: calls) ∧
            ∀ other, .findSource other ∉ calls := by
  obtain ⟨rest, url⟩ := Conventions.pathToClient_plain uris plain
  have back := Conventions.pathFromClient_pathToClient uris plain
  refine ⟨⟨"//" ++ rest, by rw [url, ← String.append_assoc]; rfl⟩, back, ?_⟩
  intro d start levels f shown runs
  obtain ⟨source, given, same⟩ := source_of_mem_stackTrace shown runs
  refine ⟨source, given, same, fun e arguments args parses names => ?_⟩
  have visible : Text.trim (c.pathToClient path) ≠ "" := by
    rw [url]
    exact Text.trim_ne_empty (c := 'f') (by rw [String.toList_append]; rfl) rfl
  exact setBreakpoints_looks e arguments
    ⟨args, c.pathToClient path, parses, same ▸ names, visible, back, rfl⟩

/-- A script in a file whose name has a blank, a percent sign, controls and more in it: the
frame that runs it shows its URL, and breakpoints there are looked for in that file. -/
theorem escaped_path_found :
    let path := "/a b/50%25\t\\?#é\n.lua"
    let c : Conventions := ⟨true, true⟩
    let d : Debuggee := { Debuggee.silent with
      callStack := [⟨none, some ⟨5, 1, 1, 1, 9, false⟩, 0, 0, 0⟩]
      sourceInfo := fun _ => some ⟨"main", some path, false⟩ }
    let url := "file:///a%20b/50%2525%09%5C%3F%23%C3%A9%0A.lua"
    let arguments : Json := .obj [("source", .obj [("path", .str url)])]
    c.pathsAreUri = true ∧ Paths.IsPlain path ∧ c.pathFromClient url = some path ∧
      ∃ f ∈ stackTrace d c 0 20, d.fileAt? f.id = some path ∧
        ∃ source, f.source = some source ∧ source.path = url ∧
          ∃ answers calls,
            setBreakpoints d c arguments = .ok (answers, .findSource path :: calls) := by
  intro path c d url arguments
  have plain : Paths.IsPlain path := by
    refine ⟨["a b".toList, "50%25\t\\?#é\n.lua".toList], by decide, ?_, rfl⟩
    exact List.forall_mem_cons.mpr ⟨⟨by decide, by decide, by decide, by decide⟩,
      List.forall_mem_singleton.mpr ⟨by decide, by decide, by decide, by decide⟩⟩
  have written : c.pathToClient path = url := by decide +kernel
  obtain ⟨-, back, shows⟩ := shown_paths_found (c := c) rfl plain
  have frame : StackFrame.ofCall d c 0 ⟨none, some ⟨5, 1, 1, 1, 9, false⟩, 0, 0, 0⟩ ∈
      stackTrace d c 0 20 := by decide +kernel
  obtain ⟨source, given, same, looks⟩ := shows d 0 20 _ frame rfl
  obtain ⟨answers, calls, outcome, -⟩ := looks d arguments ⟨some url, none, none⟩
    (by decide +kernel) (by rw [same, written])
  exact ⟨rfl, plain, written ▸ back, _, frame, rfl, source, given, same.trans written,
    answers, calls, outcome⟩

end DebugAdapter
