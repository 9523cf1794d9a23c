import DebugAdapter.Proofs.Reload.Tracking
import DebugAdapter.Proofs.Server.Steps
import DebugAdapter.Reload.Coordinator

/-!
# Runs of a coordinator and its server

A server is a lawful host. Instances are loaded, removed and expired in any
order, and the server is started, serves clients, is used by others and ends in
between at any time. `valid_run`: whatever happens, no two targets on offer have
one identity, and no name is tracked twice.
-/

namespace DebugAdapter

-- ---------------------------------------------------------------------------
-- Servers as hosts
-- ---------------------------------------------------------------------------

namespace ActiveServer

def Sound (a : ActiveServer) : Prop := a.server.registry.Sound

def offered (a : ActiveServer) : Multiset Target := a.server.registry.offered

theorem after_ok {a : ActiveServer}
    (h : a.after (a.server.applyResult result) = (a', .ok ())) :
    ∃ change x, result = .ok (change, x) ∧ a'.server.registry = change.registry := by
  cases result with
  | error e => cases congrArg Prod.snd h
  | ok r =>
    cases h
    exact ⟨r.1, r.2, rfl, Server.registry_apply ..⟩

theorem after_error {a : ActiveServer}
    (h : a.after (a.server.applyResult result) = (a', .error e)) :
    a'.server.registry = a.server.registry := by
  cases result with
  | error e =>
    cases h
    rfl
  | ok r => cases congrArg Prod.snd h

theorem detach_told {a : ActiveServer} (sound : a.Sound)
    (bind : List Nat → Nat → Except String Nat) (there : old ∈ a.offered.map Target.id) :
    ∃ t rest, t.id = old ∧ a.offered = t ::ₘ rest ∧
      ((host bind).detach a old).1.activity.detached = a.activity.detached ++ [t.key] := by
  obtain ⟨change, ok⟩ := Registry.detach_of_offered sound there
  obtain ⟨t, same, offers, kept, hooks⟩ := Registry.detach_offered sound ok
  refine ⟨t, _, same, offers, ?_⟩
  have applied := Server.detached_apply a.server change
  rw [hooks] at applied
  simp only [host, after, Server.detach, ok, Except.map, Server.applyResult, Activity.detached,
    Activity.calls_append, List.filterMap_append]
  exact congrArg _ applied

theorem host_lawful {bind : List Nat → Nat → Except String Nat}
    (fresh : OpensUnused bind) :
    (host bind).Lawful Sound offered where
  ids sound := sound.ids
  attach_ok sound ok := by
    obtain ⟨change, x, ok, registry⟩ := after_ok ok
    obtain ⟨-, offers, kept⟩ := Registry.attach_offered sound fresh ok
    simp only [Sound, offered, registry]
    exact ⟨kept, offers⟩
  attach_error sound error := by
    simp only [Sound, offered, after_error error]
    exact ⟨sound, trivial⟩
  replace_ok sound ok := by
    obtain ⟨change, x, ok, registry⟩ := after_ok ok
    obtain ⟨t, rest, same, before, offers, kept⟩ := Registry.replace_offered sound ok
    simp only [Sound, offered, registry]
    exact ⟨kept, t, rest, same, before, offers⟩
  replace_error sound error := by
    simp only [Sound, offered, after_error error]
    exact ⟨sound, trivial⟩
  detach := by
    intro a sound old
    obtain ⟨withdrawn, absent⟩ := Registry.detach_filter sound old
    cases result : a.server.registry.detach old with
    | ok change =>
      have registry : ((host bind).detach a old).1.server.registry = change.registry := by
        simp only [host, after, Server.detach, result, Except.map, Server.applyResult]
        exact Server.registry_apply ..
      simp only [Sound, offered, registry]
      exact withdrawn change result
    | error e =>
      have registry : ((host bind).detach a old).1.server.registry = a.server.registry := by
        simp only [host, after, Server.detach, result, Except.map, Server.applyResult]
      simp only [Sound, offered, registry]
      exact ⟨sound, (absent e result).symm⟩

theorem replace_sound {a : ActiveServer} (sound : a.Sound)
    (bind : List Nat → Nat → Except String Nat) (old : TargetId) (l : Loaded)
    (name : Option String) : ((host bind).replace a old l name).1.Sound := by
  cases replaced : (host bind).replace a old l name with
  | mk host result =>
    cases result with
    | ok =>
      obtain ⟨change, x, ok, registry⟩ := after_ok replaced
      obtain ⟨t, rest, -, -, -, kept⟩ := Registry.replace_offered sound ok
      simp only [Sound, registry]
      exact kept
    | error =>
      simp only [Sound, after_error replaced]
      exact sound

/-- A start that fails leaves everything as it was; one that succeeds may lose
targets for want of a port. -/
theorem start_cases {a : ActiveServer} (sound : a.Sound)
    {bind : List Nat → Nat → Except String Nat} (fresh : OpensUnused bind) :
    (a.after (a.server.start (a.server.network bind))).1.Sound ∧
      (OpensAny bind → (a.after (a.server.start (a.server.network bind))).1.offered = a.offered) := by
  cases started : a.after (a.server.start (a.server.network bind)) with
  | mk host result =>
    cases result with
    | ok =>
      obtain ⟨change, x, ok, registry⟩ := after_ok started
      obtain ⟨kept, offers⟩ := Registry.start_offered sound fresh ok
      simp only [Sound, offered, registry]
      exact ⟨kept, offers⟩
    | error =>
      simp only [Sound, offered, after_error started]
      exact ⟨sound, fun _ => trivial⟩

end ActiveServer

-- ---------------------------------------------------------------------------
-- Runs
-- ---------------------------------------------------------------------------

structure Reloading where
  host : ActiveServer
  coordinator : Coordinator

structure LoadCall where
  bind : List Nat → Nat → Except String Nat
  now : Nat
  name : String
  loaded : Loaded

/-- What may happen to a coordinator, and to its server besides, which others
may use as well. -/
inductive ReloadEvent where
  | load (now : Nat) (name : String) (loaded : Loaded)
  | remove (name : String)
  | flush (now : Nat)
  | elapse (now : Nat)
  | start
  | connect (port : Nat) (peer : String)
  | receive (id : SessionId) (bytes : Text.Bytes) (ended : Bool)
  | notify (key : InstanceKey) (n : Notification)
  | attach (name : String) (loaded : Loaded)
  | replace (old : TargetId) (loaded : Loaded) (name : Option String)
  | detach (id : TargetId)
  | listenerFailed (port : Nat)
  | dispose

structure ReloadMoment where
  bind : List Nat → Nat → Except String Nat
  event : ReloadEvent

/-- The network opens no port twice. The server is the coordinator's alone, no
listener fails, and when the server starts no target is lost for want of a port.
A load may still fail for that, and so may the start. -/
def ReloadMoment.Unhindered (m : ReloadMoment) : Prop :=
  OpensUnused m.bind ∧
    match m.event with
    | .start => OpensAny m.bind
    | .attach .. | .replace .. | .detach _ | .listenerFailed _ | .dispose => False
    | _ => True

namespace Reloading

def begin (server : Server) (window : Nat) : Reloading :=
  ⟨⟨server, .none⟩, .create window⟩

def load (s : Reloading) (c : LoadCall) : Reloading × Except Failure Unit :=
  let (host, coordinator, result) :=
    s.coordinator.load (ActiveServer.host c.bind) s.host c.now c.name c.loaded
  (⟨host, coordinator⟩, result)

def step (s : Reloading) (m : ReloadMoment) : Reloading :=
  match m.event with
  | .load now name loaded => (s.load ⟨m.bind, now, name, loaded⟩).1
  | .remove name =>
    let (host, coordinator, _) := s.coordinator.remove (ActiveServer.host m.bind) s.host name
    ⟨host, coordinator⟩
  | .flush now =>
    let (host, coordinator) := s.coordinator.flush (ActiveServer.host m.bind) s.host now
    ⟨host, coordinator⟩
  | .elapse now =>
    let (host, coordinator) := s.coordinator.elapse (ActiveServer.host m.bind) s.host now
    ⟨host, coordinator⟩
  | .start =>
    { s with host := (s.host.after (s.host.server.start (s.host.server.network m.bind))).1 }
  | .connect port peer =>
    let (server, activity, _) := s.host.server.connect port peer
    { s with host := ⟨server, s.host.activity ++ activity⟩ }
  | .receive id bytes ended =>
    let (server, activity) := s.host.server.receive id bytes ended
    { s with host := ⟨server, s.host.activity ++ activity⟩ }
  | .notify key n =>
    let (server, activity, _) := s.host.server.notify key n
    { s with host := ⟨server, s.host.activity ++ activity⟩ }
  | .attach name loaded => { s with host := ((ActiveServer.host m.bind).attach s.host loaded name).1 }
  | .replace old loaded name =>
    { s with host := ((ActiveServer.host m.bind).replace s.host old loaded name).1 }
  | .detach id => { s with host := ((ActiveServer.host m.bind).detach s.host id).1 }
  | .listenerFailed port =>
    let (server, activity) := s.host.server.listenerFailed port
    { s with host := ⟨server, s.host.activity ++ activity⟩ }
  | .dispose =>
    let (server, activity) := s.host.server.dispose
    { s with host := ⟨server, s.host.activity ++ activity⟩ }

def run (s : Reloading) (moments : List ReloadMoment) : Reloading := moments.foldl step s

def Ends (s : Reloading) (m : ReloadMoment) : Prop :=
  ∃ now, m.event = .flush now ∨
    m.event = .elapse now ∧ Debounce.hasEnded s.coordinator.deadline now = true

def generations (s : Reloading) : Generations := s.coordinator.generations

-- ---------------------------------------------------------------------------
-- Any use of a server
-- ---------------------------------------------------------------------------

structure Valid (s : Reloading) : Prop where
  sound : s.host.Sound
  once : s.generations.Once

theorem valid_begin {server : Server} (empty : server.registry = .empty) (window : Nat) :
    (begin server window).Valid :=
  ⟨(congrArg Registry.Sound empty).mpr Registry.sound_empty, Generations.once_empty⟩

theorem valid_load {s : Reloading} (valid : s.Valid) {c : LoadCall} (fresh : OpensUnused c.bind) :
    (s.load c).1.Valid :=
  ⟨(ActiveServer.host_lawful fresh).sound_load valid.sound valid.once rfl,
    Generations.once_load valid.once rfl⟩

theorem valid_host {s : Reloading} (valid : s.Valid) {host : ActiveServer} (sound : host.Sound) :
    Valid { s with host } := ⟨sound, valid.once⟩

theorem valid_registry {s : Reloading} (valid : s.Valid) {host : ActiveServer}
    (same : host.server.registry = s.host.server.registry) : Valid { s with host } := by
  refine valid_host valid ?_
  rw [ActiveServer.Sound, same]
  exact valid.sound

theorem valid_step {s : Reloading} (valid : s.Valid) {m : ReloadMoment}
    (fresh : OpensUnused m.bind) : (s.step m).Valid := by
  obtain ⟨bind, event⟩ := m
  have lawful := ActiveServer.host_lawful fresh
  have expired (old : Generation) := (lawful.detachAll valid.sound old).1
  cases event with
  | load now name loaded => exact valid_load valid fresh
  | remove name =>
    exact ⟨lawful.sound_remove valid.sound valid.once name,
      Generations.once_remove (ActiveServer.host bind) s.host valid.once name⟩
  | flush now => exact ⟨expired _, Generations.once_expire valid.once⟩
  | elapse now =>
    simp only [step, Coordinator.elapse]
    split
    · exact ⟨expired _, Generations.once_expire valid.once⟩
    · exact valid
  | start => exact valid_host valid (ActiveServer.start_cases valid.sound fresh).1
  | connect port peer => exact valid_host valid (Server.connect_offered valid.sound port peer).2
  | receive id bytes ended =>
    exact valid_registry valid (s.host.server.registry_receive id bytes ended)
  | notify key n => exact valid_registry valid (s.host.server.registry_notify key n)
  | attach name loaded =>
    refine valid_host valid ?_
    cases attached : (ActiveServer.host bind).attach s.host loaded name with
    | mk host result =>
      cases result with
      | ok => exact (lawful.attach_ok valid.sound attached).1
      | error => exact (lawful.attach_error valid.sound attached).1
  | replace old loaded name =>
    exact valid_host valid (ActiveServer.replace_sound valid.sound bind old loaded name)
  | detach id => exact valid_host valid (lawful.detach valid.sound id).1
  | listenerFailed port =>
    refine valid_host valid ((congrArg Registry.Sound (Server.registry_apply ..)).mpr ?_)
    exact Registry.listenerFailed_sound valid.sound port
  | dispose =>
    refine valid_host valid ((congrArg Registry.Sound (Server.registry_apply ..)).mpr ?_)
    exact Registry.dispose_sound valid.sound

theorem valid_run {s : Reloading} (valid : s.Valid) {moments : List ReloadMoment}
    (fresh : ∀ m ∈ moments, OpensUnused m.bind) : (s.run moments).Valid := by
  induction moments generalizing s with
  | nil => exact valid
  | cons m moments ih =>
    exact ih (valid_step valid (fresh m (List.mem_cons_self ..)))
      fun n hn => fresh n (List.mem_cons_of_mem _ hn)

end Reloading

end DebugAdapter
