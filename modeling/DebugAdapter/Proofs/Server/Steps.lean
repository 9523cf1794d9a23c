import DebugAdapter.Proofs.Server.Offers
import DebugAdapter.Server.Basic

/-!
# Steps of a server

Sessions and connections do not touch the registry, whatever clients send and
debuggees report. A change of the registry makes the calls that it lists, and
beyond them only gives up the clients of the sessions that it ends.
-/

namespace DebugAdapter

namespace Activity

@[simp] theorem calls_append (a b : Activity) : (a ++ b).calls = a.calls ++ b.calls := rfl

@[simp] theorem sent_append (a b : Activity) : (a ++ b).sent = a.sent ++ b.sent := rfl

@[simp] theorem calls_none : none.calls = [] := rfl

def detached (a : Activity) : List InstanceKey :=
  a.calls.filterMap fun c => if c.2 = .detachDebugger then some c.1 else Option.none

end Activity

theorem Hub.calls_terminateAll (h : Hub) (endings : List (SessionId × Bool)) :
    ∀ c ∈ (h.terminateAll endings).2.calls, c.2 = .setClient none := by
  have unbound (s : Session) (d : Debuggee) (restart : Bool) :
      ∀ c ∈ (s.terminate d restart).calls, c = .setClient none := by
    unfold Session.terminate Session.unbind
    split
    · simp [Session.rest]
    · split <;> simp
  have one (h : Hub) (id : SessionId) (restart : Bool) :
      ∀ c ∈ (h.terminate id restart).2.calls, c.2 = .setClient none := by
    unfold terminate act
    split
    · simp [Effects.none]
    · rename_i s _
      dsimp only
      split
      · simp
      · intro c hc
        obtain ⟨call, made, rfl⟩ := List.mem_map.mp hc
        exact unbound _ _ _ call made
  induction endings generalizing h with
  | nil => simp [terminateAll, Effects.none]
  | cons e rest ih =>
    obtain ⟨id, restart⟩ := e
    intro c hc
    obtain hc | hc := List.mem_append.mp hc
    · exact one h id restart c hc
    · exact ih _ c hc

namespace Server

theorem registry_create {chosen : Settings} {traced : Tracing}
    (created : create chosen traced debuggees = .ok s) : s.registry = .empty := by
  simp only [create, bind, Except.bind, pure, Except.pure] at created
  split at created
  · cases created
  split at created <;> cases created
  rfl

-- ---------------------------------------------------------------------------
-- What leaves the registry alone
-- ---------------------------------------------------------------------------

@[simp] theorem registry_setConnection (s : Server) (id : SessionId) (c : Connection) :
    (s.setConnection id c).registry = s.registry := rfl

theorem deliver_keeps (s : Server) (id : SessionId) (item : Outgoing) :
    (s.deliver id item).1.registry = s.registry ∧ (s.deliver id item).2.calls = [] := by
  unfold deliver traceOf
  split
  · exact ⟨rfl, rfl⟩
  · dsimp only
    split
    · split <;> exact ⟨rfl, rfl⟩
    · split <;> exact ⟨rfl, rfl⟩

theorem deliverAll_keeps (s : Server) (items : List (SessionId × Outgoing)) :
    (s.deliverAll items).1.registry = s.registry ∧ (s.deliverAll items).2.calls = [] := by
  induction items generalizing s with
  | nil => exact ⟨rfl, rfl⟩
  | cons e rest ih =>
    obtain ⟨id, item⟩ := e
    obtain ⟨registry, calls⟩ := s.deliver_keeps id item
    obtain ⟨registry', calls'⟩ := ih (s.deliver id item).1
    exact ⟨registry'.trans registry, by simp [deliverAll, calls, calls']⟩

theorem settle_keeps (s : Server) (result : Hub × Effects) :
    (s.settle result).1.registry = s.registry ∧ (s.settle result).2.calls = result.2.calls := by
  obtain ⟨registry, calls⟩ := deliverAll_keeps { s with hub := result.1 } result.2.queued
  exact ⟨registry, by simp [settle, calls]⟩

theorem registry_handlePayload (s : Server) (id : SessionId) (payload : Text.Bytes) :
    (s.handlePayload id payload).1.registry = s.registry := by
  unfold handlePayload
  dsimp only
  split
  · rfl
  · exact (settle_keeps ..).1

theorem registry_readFrames (s : Server) (id : SessionId) (fuel : Nat) :
    (s.readFrames id fuel).1.registry = s.registry := by
  induction fuel generalizing s with
  | zero => rfl
  | succ fuel ih =>
    unfold readFrames
    split
    · rfl
    split
    · rfl
    split
    · rfl
    · exact (ih _).trans ((registry_handlePayload ..).trans rfl)
    · exact (settle_keeps ..).1

theorem registry_receive (s : Server) (id : SessionId) (bytes : Text.Bytes) (ended : Bool) :
    (s.receive id bytes ended).1.registry = s.registry := by
  unfold receive
  split
  · rfl
  · exact registry_readFrames ..

theorem registry_notify (s : Server) (key : InstanceKey) (n : Notification) :
    (s.notify key n).1.registry = s.registry := by
  unfold notify
  split
  · rfl
  · exact (settle_keeps ..).1

theorem connect_offered {s : Server} (sound : s.registry.Sound) (port : Nat) (peer : String) :
    (s.connect port peer).1.registry.offered = s.registry.offered ∧
      (s.connect port peer).1.registry.Sound := by
  unfold connect
  dsimp only
  split
  · exact ⟨rfl, sound⟩
  · rename_i entered
    exact Registry.enterSession_offered sound entered

-- ---------------------------------------------------------------------------
-- Changes of the registry
-- ---------------------------------------------------------------------------

theorem registry_apply (s : Server) (change : RegistryChange) :
    (s.apply change).1.registry = change.registry := (settle_keeps ..).1

theorem calls_apply (s : Server) (change : RegistryChange) :
    (s.apply change).2.calls =
      change.hooks ++ (s.hub.terminateAll change.endings).2.calls := by
  simp only [apply, Activity.calls_append]
  rw [(settle_keeps ..).2]

theorem detached_apply (s : Server) (change : RegistryChange) :
    (s.apply change).2.detached = change.hooks.filterMap fun c =>
      if c.2 = .detachDebugger then some c.1 else none := by
  have given := s.hub.calls_terminateAll change.endings
  have nobody : (s.hub.terminateAll change.endings).2.calls.filterMap
      (fun c => if c.2 = .detachDebugger then some c.1 else none) = [] :=
    List.filterMap_eq_nil_iff.mpr fun c hc => by simp [given c hc]
  rw [Activity.detached, calls_apply, List.filterMap_append, nobody, List.append_nil]

end Server

end DebugAdapter
