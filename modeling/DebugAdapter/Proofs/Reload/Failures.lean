import DebugAdapter.Proofs.Reload.Burst
import DebugAdapter.Proofs.Reload.Hosts

/-!
# Loads that fail

A host refuses an instance after the generations have turned, if the load turns them, and they are
not turned back. So a load that fails leaves the generations as they were if and only if it does not
start a new one (`failed_load_keeps_iff`).
-/

namespace DebugAdapter

def Coordinator.Ends (c : Coordinator) : CoordinatorEvent → Prop
  | .flush _ => True
  | .elapse now => Debounce.hasEnded c.deadline now = true
  | .load .. | .remove _ => False

theorem Coordinator.withdraws_of_ends {c : Coordinator} {e : CoordinatorEvent} (ends : c.Ends e) :
    c.withdraws e = c.generations.superseded.map fun e => e.2.id := by
  cases e with
  | load => cases ends
  | remove => cases ends
  | flush => rfl
  | elapse now => exact if_pos ends

theorem Generations.load_error {g : Generations} (once : g.Once)
    (failed : g.load host s name l = (s', g', .error e)) :
    (¬g.Turns name l ∧ g' = g) ∨
      (g.Turns name l ∧ g'.current = [] ∧ List.Perm g'.superseded g.entries) := by
  obtain ⟨known, -, -, again⟩ | ⟨new, entered⟩ | ⟨known, moved, found, differ, perm, entered⟩ :=
    load_cases host s once name l
  · cases again.symm.trans failed
  · rw [failed] at entered
    have quiet : ¬g.Turns name l := by simp [Turns, new]
    cases entered with
    | unreplaced => exact .inl ⟨quiet, rfl⟩
    | unattached => exact .inl ⟨quiet, rfl⟩
  · rw [failed] at entered
    have turns : g.Turns name l := ⟨known, found, differ⟩
    cases entered with
    | unreplaced => exact .inr ⟨turns, rfl, perm⟩
    | unattached => exact .inr ⟨turns, rfl, perm⟩

/-- A load that fails leaves the generations as they were if and only if it does not start a new
one. If it does, all that was current is old, and the end of the reload withdraws it as well. The
host may have been used by others in between. -/
theorem failed_load_keeps_iff (host : TargetHost σ) (s : σ) (window : Nat)
    (events : List CoordinatorEvent) (t : σ) (now : Nat) (name : String) (l : Loaded) :
    let c := (Coordinator.run host (s, .create window) events).2
    let g := c.generations
    let loaded := c.load host t now name l
    loaded.2.2 = .error e →
      (loaded.2.1.generations = g ↔ ¬g.Turns name l) ∧
      (¬g.Turns name l → ∀ e, loaded.2.1.Ends e →
        loaded.2.1.withdraws e = g.superseded.map fun e => e.2.id) ∧
      (g.Turns name l → loaded.2.1.generations.current = [] ∧ ∀ e, loaded.2.1.Ends e →
        List.Perm (loaded.2.1.withdraws e) ((g.current ++ g.superseded).map fun e => e.2.id)) := by
  intro c g loaded failed
  have once : g.Once := Coordinator.once_run Generations.once_empty events
  obtain ⟨quiet, same⟩ | ⟨turns, emptied, perm⟩ :=
    Generations.load_error once (Prod.ext rfl (Prod.ext rfl failed))
  · refine ⟨iff_of_true same quiet, fun _ e ends => ?_, fun turns => absurd turns quiet⟩
    rw [Coordinator.withdraws_of_ends ends]
    exact congrArg (fun g => g.superseded.map fun e => e.2.id) same
  · refine ⟨iff_of_false (fun same => ?_) (not_not_intro turns), fun quiet => absurd turns quiet,
      fun _ => ⟨emptied, fun e ends => ?_⟩⟩
    · obtain ⟨known, found, -⟩ := turns
      have current : g.current = [] := same ▸ emptied
      rw [current] at found
      cases found
    · rw [Coordinator.withdraws_of_ends ends]
      exact perm.map _

/-- Two targets are on offer. The second is loaded under the name of the first, which the server
refuses as it has it already: the next end of the reload takes both away, while it would have taken
none away without that load. -/
theorem refused_load_takes_all :
    let host := ActiveServer.host freePorts
    let x := Coordinator.run host (⟨idleServer, .none⟩, .create 500)
      [.load 0 "a" ⟨11, 1⟩, .load 10 "b" ⟨12, 2⟩, .flush 20]
    let loaded := x.2.load host x.1 30 "a" ⟨12, 2⟩
    let ended := Coordinator.step host (loaded.1, loaded.2.1) (.flush 40)
    loaded.2.2 = .error (.alreadyAttached 2 "a") ∧
      loaded.2.1.generations ≠ x.2.generations ∧
      x.2.withdraws (.flush 40) = [] ∧ loaded.2.1.withdraws (.flush 40) = [1, 2] ∧
      (Coordinator.step host x (.flush 40)).1.server.registry.targets.map (·.1.id) = [1, 2] ∧
      ended.1.server.registry.targets = [] := by
  decide +kernel

/-- The same instance is loaded under a new name: nothing is moved. -/
theorem refused_name_moves_nothing :
    let host := ActiveServer.host freePorts
    let c := (Coordinator.run host (⟨idleServer, .none⟩, .create 500) [.load 0 "a" ⟨11, 1⟩]).2
    let s := (Coordinator.run host (⟨idleServer, .none⟩, .create 500) [.load 0 "a" ⟨11, 1⟩]).1
    let loaded := c.load host s 10 "b" ⟨11, 1⟩
    loaded.2.2 = .error (.alreadyAttached 1 "b") ∧ loaded.2.1.generations = c.generations := by
  intro host c s loaded
  have refused : loaded.2.2 = .error (.alreadyAttached 1 "b") := by decide +kernel
  obtain ⟨keeps, -⟩ := failed_load_keeps_iff host ⟨idleServer, .none⟩ 500 [.load 0 "a" ⟨11, 1⟩] s
    10 "b" ⟨11, 1⟩ refused
  exact ⟨refused, keeps.mpr fun ⟨known, found, _⟩ => nomatch found⟩

end DebugAdapter
