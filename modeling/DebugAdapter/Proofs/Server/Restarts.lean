import DebugAdapter.Proofs.Server.Delivery
import DebugAdapter.Proofs.Server.Turnover

/-!
# Sessions and what their port serves

A session is for the target that its port served when it was opened. Between
two events every session that is live is entered with the listener on its port,
which still serves that target (`Serving`): the listeners that give up their
sessions are those that change their target or are closed, and the sessions
that they give up are ended.
-/

namespace DebugAdapter

namespace Server

/-- Every live session is entered with a listener; the sessions that a listener
has entered were opened on its port, for its target. -/
structure Serving (s : Server) : Prop where
  regular : s.Regular
  paired : s.Paired
  entered : ∀ l ∈ s.registry.listeners, ∀ j ∈ l.sessions, ∃ session,
    s.hub.session? j = some session ∧ session.port = l.port ∧ session.target = l.target
  served : ∀ j session, s.hub.session? j = some session → session.terminated = false →
    ∃ l ∈ s.registry.listeners, j ∈ l.sessions

variable {s t : Server}

theorem serving_create {chosen : Settings} {traced : Tracing}
    (created : create chosen traced debuggees = .ok s) : s.Serving := by
  have regular := regular_create created
  simp only [create, bind, Except.bind, pure, Except.pure] at created
  split at created
  · cases created
  split at created <;> cases created
  exact ⟨regular, ⟨rfl, fun j session c its => by simp [Hub.session?, Hub.start] at its⟩,
    List.forall_mem_nil _,
    fun j session its => by simp [Hub.session?, Hub.start] at its⟩

theorem Serving.listener (serving : s.Serving) (its : s.hub.session? j = some session)
    (live : session.terminated = false) : ∃ l ∈ s.registry.listeners, j ∈ l.sessions ∧
      l.port = session.port ∧ l.target = session.target := by
  obtain ⟨l, hl, entered⟩ := serving.served j session its live
  obtain ⟨same, its', port, target⟩ := serving.entered l hl j entered
  obtain rfl := Option.some.inj (its.symm.trans its')
  exact ⟨l, hl, entered, port.symm, target.symm⟩

theorem session_before (ages : Ages s t a) (count : t.hub.sessions.length = s.hub.sessions.length)
    (left : t.hub.session? j = some later) (live : later.terminated = false) :
    ∃ session, s.hub.session? j = some session ∧ session.terminated = false := by
  obtain ⟨bound, -⟩ := List.getElem?_eq_some_iff.mp left
  have its := List.getElem?_eq_getElem (count ▸ bound)
  obtain ⟨same, left', -, -, dead⟩ := ages.stays j _ its
  obtain rfl := Option.some.inj (left.symm.trans left')
  exact ⟨_, its, by by_contra h; simp [dead (by simpa using h)] at live⟩

-- ---------------------------------------------------------------------------
-- Operations
-- ---------------------------------------------------------------------------

theorem Serving.ending (serving : s.Serving) (turns : s.registry.Turns change ports restart)
    (its : s.hub.session? j = some session) (live : session.terminated = false) :
    j ∈ change.endings.map Prod.fst ↔ session.port ∈ ports := by
  constructor
  · intro ending
    obtain ⟨e, he, rfl⟩ := List.mem_map.mp ending
    obtain ⟨-, l, hl, turned, entered⟩ := (turns.endings e).mp he
    obtain ⟨same, its', port, -⟩ := serving.entered l hl e.1 entered
    obtain rfl := Option.some.inj (its.symm.trans its')
    exact port ▸ turned
  · intro turned
    obtain ⟨l, hl, entered, port, -⟩ := serving.listener its live
    have ending := (turns.endings (j, restart)).mpr ⟨rfl, l, hl, port ▸ turned, entered⟩
    exact List.mem_map.mpr ⟨_, ending, rfl⟩

theorem apply_ages (serving : s.Serving) (turns : s.registry.Turns change ports restart) :
    (s.apply change).1.Paired ∧ Ages s (s.apply change).1 (s.apply change).2 ∧
      (s.apply change).1.hub.sessions.length = s.hub.sessions.length := by
  have moves := s.hub.moves_terminateAll fun e he => ((turns.endings e).mp he).1
  have paired : Paired { s with registry := change.registry } :=
    ⟨serving.paired.count, serving.paired.closes⟩
  obtain ⟨next, ages⟩ := settle_paired paired moves
  exact ⟨next, ⟨ages.stays, ages.farewells⟩, settle_hub .. ▸ moves.count⟩

theorem apply_session (serving : s.Serving) (turns : s.registry.Turns change ports restart)
    (its : s.hub.session? j = some session) (live : session.terminated = false) :
    let turned := decide (session.port ∈ ports)
    (s.apply change).1.hub.session? j = some { session with terminated := turned } ∧
      (s.apply change).2.farewells j = if turned then [restart] else [] := by
  have flags : ∀ e ∈ change.endings, e.2 = restart := fun e he => ((turns.endings e).mp he).1
  obtain ⟨left, queued⟩ := Hub.terminateAll_session flags its
  simp only [live, Bool.false_or, Bool.not_false, Bool.true_and, serving.ending turns its live,
    decide_eq_true_eq] at left queued
  obtain ⟨c, there⟩ := connection?_of_session? serving.paired its
  have opened : c.closed = false := (serving.paired.closes j session c its there).trans live
  have told := (settle_connection { s with registry := change.registry }
    (s.hub.terminateAll change.endings) j).2
  have same : connection? { s with registry := change.registry } j = some c := there
  rw [same, queued] at told
  refine ⟨(congrArg (Hub.session? · j) (settle_hub ..)).trans left, told.trans ?_⟩
  by_cases turned : session.port ∈ ports
  · simp only [turned, if_true, decide_true, Option.map_some, Option.getD_some]
    exact c.putAll_terminated opened restart
  · simp [turned, Connection.putAll]

theorem Serving.apply (serving : s.Serving) (turns : s.registry.Turns change ports restart)
    (regular : (s.apply change).1.Regular) : (s.apply change).1.Serving := by
  obtain ⟨paired, ages, count⟩ := apply_ages serving turns
  have registry := s.registry_apply change
  refine ⟨regular, paired, fun l hl j entered => ?_, fun j later left live => ?_⟩
  · rw [registry] at hl
    obtain ⟨hl, -⟩ | none := turns.entered l hl
    · obtain ⟨session, its, port, target⟩ := serving.entered l hl j entered
      obtain ⟨later, left, port', target', -⟩ := ages.stays j session its
      exact ⟨later, left, port'.trans port, target'.trans target⟩
    · rw [none] at entered
      cases entered
  · obtain ⟨session, its, before⟩ := session_before ages count left live
    obtain ⟨l, hl, entered, port, -⟩ := serving.listener its before
    obtain ⟨left', -⟩ := apply_session serving turns its before
    obtain rfl := Option.some.inj (left.symm.trans left')
    have apart : l.port ∉ ports := by rw [port]; simpa using live
    exact ⟨l, registry ▸ turns.kept l hl apart, entered⟩

-- ---------------------------------------------------------------------------
-- Steps
-- ---------------------------------------------------------------------------

theorem Serving.ages (serving : s.Serving) (ages : Ages s t a) (regular : t.Regular)
    (paired : t.Paired) (registry : t.registry = s.registry)
    (count : t.hub.sessions.length = s.hub.sessions.length) : t.Serving := by
  refine ⟨regular, paired, fun l hl j entered => ?_, fun j later left live => ?_⟩
  · obtain ⟨session, its, port, target⟩ := serving.entered l (registry ▸ hl) j entered
    obtain ⟨later, left, port', target', -⟩ := ages.stays j session its
    exact ⟨later, left, port'.trans port, target'.trans target⟩
  · obtain ⟨session, its, before⟩ := session_before ages count left live
    obtain ⟨l, hl, entered⟩ := serving.served j session its before
    exact ⟨l, registry ▸ hl, entered⟩

theorem Serving.connect (serving : s.Serving) (port : Nat) (peer : String)
    (regular : (s.connect port peer).1.Regular) :
    (s.connect port peer).1.Serving ∧ Ages s (s.connect port peer).1 (s.connect port peer).2.1 := by
  unfold Server.connect at regular ⊢
  dsimp only at regular ⊢
  split at regular
  · exact ⟨serving, .silent rfl rfl⟩
  rename_i next entered
  have silent : (if s.tracing = .off then Activity.none else .ofTrace
      ["[" ++ Decimal.digitsText port ++ "] client connected: " ++ peer]).sent = [] := by
    split <;> rfl
  obtain ⟨l, hl, here, target, listeners⟩ :=
    Registry.enterSession_listeners serving.regular.sound.ports entered
  have kept {j : SessionId} {session : Session} (its : s.hub.session? j = some session) :=
    Hub.openSession_keeps its port (s.registry.targetAt port) s.settings.defaultLevels
  have opened (j : SessionId) :=
    s.hub.session?_openSession port (s.registry.targetAt port) s.settings.defaultLevels j
  have count := serving.paired.count
  -- the new session takes the next number; it is entered with the listener on its port
  refine ⟨⟨regular, ⟨?_, fun j session c its there => ?_⟩, fun m hm j entered => ?_,
    fun j session its live => ?_⟩, ⟨fun j session its => ⟨session, kept its, rfl, rfl, id⟩,
      fun j told => absurd (by rw [Activity.farewells, silent]; rfl) told⟩⟩
  · simp [Hub.openSession, count]
  · replace there : (s.connections ++ [Connection.fresh])[j]? = some c := there
    rw [getElem?_concat, count] at there
    rw [opened] at its
    split at its
    · rename_i last
      rw [if_pos last] at there
      cases its
      cases there
      rfl
    · rename_i older
      rw [if_neg older] at there
      exact serving.paired.closes j session c its there
  · obtain ⟨hm, -⟩ | rfl := (listeners m).mp hm
    · obtain ⟨session, its, same⟩ := serving.entered m hm j entered
      exact ⟨session, kept its, same⟩
    · obtain entered | last := List.mem_append.mp entered
      · obtain ⟨session, its, same⟩ := serving.entered l hl j entered
        exact ⟨session, kept its, same⟩
      · obtain rfl := List.mem_singleton.mp last
        exact ⟨_, (opened _).trans (if_pos count), here.symm, target⟩
  · rw [opened] at its
    split at its
    · rename_i last
      exact ⟨_, (listeners _).mpr (.inr rfl), by simp [last, count]⟩
    · obtain ⟨m, hm, entered⟩ := serving.served j session its live
      by_cases same : m.port = port
      · obtain rfl := List.inj_on_of_nodup_map serving.regular.sound.ports hm hl
          (same.trans here.symm)
        exact ⟨_, (listeners _).mpr (.inr rfl), List.mem_append_left _ entered⟩
      · exact ⟨m, (listeners _).mpr (.inl ⟨hm, same⟩), entered⟩

theorem Serving.step (serving : s.Serving) {e : ServerEvent} (safe : e.Safe) :
    (s.step e).1.Serving ∧ Ages s (s.step e).1 (s.step e).2 := by
  have regular := serving.regular.step safe
  obtain ⟨is, step⟩ | ⟨port, peer⟩ | ⟨key, answers⟩ | ⟨-, serves⟩ := s.step_proceeds e
  · obtain ⟨ports, restart, turns, -⟩ := Registry.outcome_turned serving.regular.sound
      (safe.operation is) (ServerEvent.operation?_ne is)
    rw [step] at regular ⊢
    exact ⟨serving.apply turns regular, (apply_ages serving turns).2.1⟩
  · exact serving.connect port peer regular
  · have ages : Ages s (s.step (.refresh key answers)).1 .none := .silent rfl rfl
    exact ⟨serving.ages ages regular ⟨serving.paired.count, serving.paired.closes⟩ rfl rfl, ages⟩
  · obtain ⟨paired, ages, count⟩ := serves.ages serving.paired
    exact ⟨serving.ages ages regular paired serves.registry count, ages⟩

theorem Serving.run (serving : s.Serving) {events : List ServerEvent}
    (safe : ∀ e ∈ events, e.Safe) :
    (s.run events).1.Serving ∧ Ages s (s.run events).1 (s.run events).2 := by
  induction events generalizing s with
  | nil => exact ⟨serving, .silent rfl rfl⟩
  | cons e events ih =>
    obtain ⟨first, others⟩ := List.forall_mem_cons.mp safe
    obtain ⟨next, ages⟩ := serving.step first
    obtain ⟨last, ages'⟩ := ih next others
    exact ⟨last, ages.trans ages'⟩

-- ---------------------------------------------------------------------------
-- What clients are told
-- ---------------------------------------------------------------------------

theorem Ages.untold_of_live (ages : Ages s t a) (live : ¬t.hub.IsOver j) : a.farewells j = [] := by
  by_contra told
  exact live (ages.farewells j told).2

theorem Ages.untold_of_isOver (ages : Ages s t a) (dead : s.hub.IsOver j) : a.farewells j = [] := by
  by_contra told
  exact (ages.farewells j told).1 dead

theorem not_isOver {h : Hub} (its : h.session? j = some session)
    (live : session.terminated = false) : ¬h.IsOver j := by
  rintro ⟨same, its', dead⟩
  obtain rfl := Option.some.inj (its.symm.trans its')
  cases live.symm.trans dead

theorem step_session (serving : s.Serving) {e : ServerEvent} (safe : e.Safe)
    (is : e.operation? s = some op) (its : s.hub.session? j = some session)
    (live : session.terminated = false) :
    (s.registry.Rebinds session.port op →
        (s.step e).1.hub.IsOver j ∧ (s.step e).2.farewells j = [true]) ∧
      (session.port ∉ (s.step e).1.registry.ports →
        (s.step e).1.hub.IsOver j ∧ (s.step e).2.farewells j = [false]) ∧
      (session.port ∈ (s.step e).1.registry.ports → ¬s.registry.Rebinds session.port op →
        (s.step e).1.hub.session? j = some session ∧
          (s.step e).1.registry.targetAt session.port = session.target ∧
          (s.step e).2.farewells j = []) := by
  obtain ⟨ports, restart, turns, rebinds⟩ := Registry.outcome_turned serving.regular.sound
    (safe.operation is) (ServerEvent.operation?_ne is)
  obtain ⟨l, hl, -, port, target⟩ := serving.listener its live
  obtain ⟨left, told⟩ := apply_session serving turns its live
  have regular := serving.regular.step safe
  rw [step_operation is] at regular ⊢
  rw [registry_apply]
  have dead (turned : session.port ∈ ports) :
      (s.apply (s.registry.outcome op)).1.hub.IsOver j ∧
        (s.apply (s.registry.outcome op)).2.farewells j = [restart] :=
    ⟨⟨_, left, by simpa using turned⟩, by rw [told]; simp [turned]⟩
  have stays := turns.turned l hl
  rw [port] at stays
  refine ⟨fun rebound => ?_, fun closed => ?_, fun listens same => ?_⟩
  · obtain ⟨rfl, turned⟩ := (rebinds session.port).mp rebound
    exact dead turned
  · have turned : session.port ∈ ports := by
      by_contra apart
      have kept := turns.kept l hl (port ▸ apart)
      exact closed (port ▸ List.mem_map_of_mem kept)
    have flag : restart = false := by simpa using fun h => closed ((stays turned).mpr h)
    exact flag ▸ dead turned
  · have apart : session.port ∉ ports := fun turned =>
      same ((rebinds session.port).mpr ⟨(stays turned).mp listens, turned⟩)
    have found := (Registry.listener?_iff (registry_apply s _ ▸ regular.sound.ports)).mpr
      ⟨turns.kept l hl (port ▸ apart), port⟩
    refine ⟨by rw [left]; simp [apart, ← live], ?_, by rw [told]; simp [apart]⟩
    rw [Registry.targetAt, found]
    exact target

/-- Whatever is done to a server from its beginning, every session that is live
is for the target that its port serves now, or for none if it serves none, and
its port is listened on. An operation ends the sessions on the port that it
rebinds, and those on the ports that it closes, and leaves others as they were.
A client whose live session is ended so is told it once in all: to restart if
the port is rebound, and not to if it is closed. -/
theorem sessions_follow_bindings {chosen : Settings} {traced : Tracing}
    (created : create chosen traced debuggees = .ok s) (events : List ServerEvent)
    (safe : ∀ e ∈ events, e.Safe) :
    (∀ i session, (s.run events).1.hub.session? i = some session → session.terminated = false →
      ∃ l, (s.run events).1.registry.listener? session.port = some l ∧
        l.target = session.target) ∧
    ∀ earlier e later op, events = earlier ++ e :: later →
      let before := (s.run earlier).1
      let after := (before.step e).1
      e.operation? before = some op → ∀ i session, before.hub.session? i = some session →
        (session.terminated = true → (before.step e).2.farewells i = []) ∧
        (session.terminated = false →
          (before.registry.Rebinds session.port op → (s.run events).2.farewells i = [true]) ∧
          (session.port ∉ after.registry.ports → (s.run events).2.farewells i = [false]) ∧
          (session.port ∈ after.registry.ports → ¬before.registry.Rebinds session.port op →
            after.hub.session? i = some session ∧
              after.registry.targetAt session.port = session.target ∧
              (before.step e).2.farewells i = [])) := by
  have serving := serving_create created
  refine ⟨fun i session its live => ?_, fun earlier e later op split => ?_⟩
  · have reached := (serving.run safe).1
    obtain ⟨l, hl, -, port, target⟩ := reached.listener its live
    exact ⟨l, (Registry.listener?_iff reached.regular.sound.ports).mpr ⟨hl, port⟩, target⟩
  subst split
  intro before after is i session its
  obtain ⟨safe, others⟩ := List.forall_mem_append.mp safe
  obtain ⟨first, rest⟩ := List.forall_mem_cons.mp others
  obtain ⟨reached, past⟩ := serving.run safe
  obtain ⟨next, present⟩ := reached.step first
  obtain ⟨-, future⟩ := next.run rest
  refine ⟨fun dead => present.untold_of_isOver ⟨session, its, dead⟩, fun live => ?_⟩
  -- what comes before and after adds nothing if the operation ends the session
  have once {flag : Bool} (ended : after.hub.IsOver i ∧ (before.step e).2.farewells i = [flag]) :
      (s.run (earlier ++ e :: later)).2.farewells i = [flag] := by
    obtain ⟨dead, told⟩ := ended
    rw [run_append, run_cons, Activity.farewells_append, Activity.farewells_append, told,
      past.untold_of_live (not_isOver its live), future.untold_of_isOver dead]
    rfl
  obtain ⟨rebound, closed, kept⟩ := step_session reached first is its live
  exact ⟨fun h => once (rebound h), fun h => once (closed h), kept⟩

/-- Two clients, each of a target of its own; one target is replaced, and the
other one, which is not on the master's port, is withdrawn. -/
theorem replaced_and_withdrawn :
    let opening : List ServerEvent := [.attach freePorts ⟨11, 1, "a"⟩,
      .attach freePorts ⟨12, 2, "b"⟩, .start freePorts, .connect 41912 "1st", .connect 74680 "2nd"]
    let events := opening ++ [.replace 1 13 1 none, .detach 2]
    (idleServer.run events).2.farewells 0 = [true] ∧
      (idleServer.run events).2.farewells 1 = [false] := by
  intro opening events
  have safe : ∀ e ∈ events, e.Safe := by
    simp [events, opening, ServerEvent.Safe, freePorts_unused]
  obtain ⟨-, follow⟩ := sessions_follow_bindings create_idleServer events safe
  have replaced := follow opening (.replace 1 13 1 none) [.detach 2] _ rfl rfl 0 _ rfl
  have withdrawn := follow (opening ++ [.replace 1 13 1 none]) (.detach 2) [] _ rfl rfl 1 _ rfl
  exact ⟨(replaced.2 rfl).1 ⟨rfl, _, rfl⟩, (withdrawn.2 rfl).2.1 (by decide +kernel)⟩

end Server

end DebugAdapter
