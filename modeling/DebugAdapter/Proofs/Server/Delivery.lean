import DebugAdapter.Proofs.Server.Run
import DebugAdapter.Proofs.Session.Sharing

/-!
# What clients get

What a session queues is written to its connection, in order, until the first
close. So a connection is open exactly as long as its session is live, and a
client is told at most once that the debugging has ended (`Ages`).
-/

namespace DebugAdapter

def itemsFor (id : SessionId) (items : List (SessionId × α)) : List α :=
  (items.filter fun e => e.1 = id).map Prod.snd

@[simp] theorem itemsFor_nil (id : SessionId) : itemsFor id ([] : List (SessionId × α)) = [] := rfl

@[simp] theorem itemsFor_append (id : SessionId) (a b : List (SessionId × α)) :
    itemsFor id (a ++ b) = itemsFor id a ++ itemsFor id b := by
  simp [itemsFor]

theorem itemsFor_map (id other : SessionId) (items : List α) :
    itemsFor id (items.map fun a => (other, a)) = if id = other then items else [] := by
  by_cases same : id = other
  · simp [itemsFor, List.filter_map, Function.comp_def, same]
  · simp [itemsFor, List.filter_map, Function.comp_def, same, Ne.symm same]

def Delivery.farewell? : Delivery → Option Bool
  | .message m =>
    if (m.get? "event").bind Json.asStr? = some "terminated" then
      some (decide (((m.get? "body").bind (Json.get? · "restart")).bind Json.asBool? = some true))
    else none
  | .closed => none

def Activity.farewells (a : Activity) (id : SessionId) : List Bool :=
  (itemsFor id a.sent).filterMap Delivery.farewell?

theorem Activity.farewells_append (a b : Activity) (id : SessionId) :
    (a ++ b).farewells id = a.farewells id ++ b.farewells id := by
  have sent : (a ++ b).sent = a.sent ++ b.sent := rfl
  rw [farewells, sent, itemsFor_append, List.filterMap_append]
  rfl

-- ---------------------------------------------------------------------------
-- Connections
-- ---------------------------------------------------------------------------

theorem Outgoing.IsOrdinary.farewell? {m : Outgoing} (ordinary : m.IsOrdinary)
    (written : m.envelope? seq = some envelope) : (Delivery.message envelope).farewell? = none := by
  cases m with
  | response reply success message body =>
    cases written
    cases message <;> cases body <;> rfl
  | event name body =>
    cases written
    have named : Json.get? (.obj ([("seq", .int seq), ("type", .str "event"),
        ("event", .str name)] ++ Json.optional "body" body)) "event" = some (.str name) := rfl
    simp only [Delivery.farewell?, named, Option.bind_some, Json.asStr?, Option.some.injEq]
    exact if_neg ordinary
  | close => cases written

namespace Connection

def put (c : Connection) (item : Outgoing) : Connection × List Delivery :=
  match c.write item with
  | (c', some m) => (c', [.message m])
  | (c', none) => (c', if c'.closed && !c.closed then [.closed] else [])

def putAll (c : Connection) : List Outgoing → Connection × List Delivery
  | [] => (c, [])
  | item :: rest =>
    (((c.put item).1.putAll rest).1, (c.put item).2 ++ ((c.put item).1.putAll rest).2)

variable {c : Connection} {items : List Outgoing}

theorem putAll_closed (closed : c.closed = true) : c.putAll items = (c, []) := by
  have one (item : Outgoing) : c.put item = (c, []) := by simp [put, write, closed]
  induction items with
  | nil => rfl
  | cons item items ih => simp only [putAll, one, ih, List.append_nil]

theorem put_written (opened : c.closed = false) {item : Outgoing}
    (written : item.envelope? (c.seq + 1) = some envelope) :
    c.put item = ({ c with seq := c.seq + 1 }, [.message envelope]) := by
  simp [put, write, opened, written]

theorem put_close (opened : c.closed = false) :
    c.put .close = ({ c with closed := true }, [.closed]) := by
  simp [put, write, opened, Outgoing.envelope?]

theorem put_ordinary (opened : c.closed = false) {item : Outgoing} (ordinary : item.IsOrdinary) :
    (c.put item).1.closed = false ∧ (c.put item).2.filterMap Delivery.farewell? = [] := by
  cases written : item.envelope? (c.seq + 1) with
  | some envelope =>
    rw [put_written opened written]
    exact ⟨opened, by simp [ordinary.farewell? written]⟩
  | none =>
    cases item with
    | close => exact ordinary.elim
    | _ => cases written

theorem putAll_ordinary (opened : c.closed = false) (ordinary : ∀ m ∈ items, m.IsOrdinary) :
    (c.putAll items).1.closed = false ∧ (c.putAll items).2.filterMap Delivery.farewell? = [] := by
  induction items generalizing c with
  | nil => exact ⟨opened, rfl⟩
  | cons item items ih =>
    obtain ⟨first, others⟩ := List.forall_mem_cons.mp ordinary
    obtain ⟨opened, silent⟩ := put_ordinary opened first
    obtain ⟨last, rest⟩ := ih opened others
    exact ⟨last, by rw [putAll, List.filterMap_append, silent, rest]; rfl⟩

theorem putAll_close (closes : .close ∈ items) : (c.putAll items).1.closed = true := by
  induction items generalizing c with
  | nil => cases closes
  | cons item items ih =>
    obtain rfl | later := List.mem_cons.mp closes
    · have closed : (c.put .close).1.closed = true := by
        cases opened : c.closed <;> simp [put, write, opened, Outgoing.envelope?]
      rw [putAll, putAll_closed closed]
      exact closed
    · exact ih later

theorem putAll_terminated (opened : c.closed = false) (restart : Bool) :
    (c.putAll [Session.terminatedEvent restart, .close]).2.filterMap Delivery.farewell? =
      [restart] := by
  have written : ∃ envelope,
      (Session.terminatedEvent restart).envelope? (c.seq + 1) = some envelope ∧
        (Delivery.message envelope).farewell? = some restart := by
    cases restart <;> exact ⟨_, rfl, rfl⟩
  obtain ⟨envelope, written, flag⟩ := written
  have closes : ({ c with seq := c.seq + 1 } : Connection).closed = false := opened
  simp only [putAll, put_written opened written, put_close closes, List.cons_append,
    List.filterMap_cons, flag]
  rfl

end Connection

namespace Server

-- ---------------------------------------------------------------------------
-- Writing
-- ---------------------------------------------------------------------------

variable {s : Server} {id : SessionId}

theorem connection?_setConnection (there : s.connection? id = some c)
    (c' : Connection) (j : SessionId) :
    (s.setConnection id c').connection? j = if j = id then some c' else s.connection? j := by
  obtain ⟨bound, -⟩ := List.getElem?_eq_some_iff.mp there
  by_cases same : j = id
  · subst same
    simp [connection?, setConnection, bound]
  · simp [connection?, setConnection, same, List.getElem?_set_ne (Ne.symm same)]

theorem deliver_there (there : s.connection? id = some c) (item : Outgoing) :
    (s.deliver id item).1 = s.setConnection id (c.put item).1 ∧
      (s.deliver id item).2.sent = (c.put item).2.map fun d => (id, d) := by
  have traced (s : Server) (payload : Text.Bytes) :
      (s.traceOf id .outgoing payload).sent = [] := by
    unfold traceOf
    split <;> rfl
  simp only [deliver, there, Connection.put]
  cases written : c.write item with
  | mk c' message =>
    cases message with
    | some m => exact ⟨rfl, congrArg ([(id, Delivery.message m)] ++ ·) (traced _ _)⟩
    | none =>
      refine ⟨rfl, ?_⟩
      dsimp only
      split <;> rfl

theorem deliverAll_connection (s : Server) (items : List (SessionId × Outgoing)) (j : SessionId) :
    (s.deliverAll items).1.connection? j =
        (s.connection? j).map (fun c => (c.putAll (itemsFor j items)).1) ∧
      itemsFor j (s.deliverAll items).2.sent =
        ((s.connection? j).map fun c => (c.putAll (itemsFor j items)).2).getD [] := by
  induction items generalizing s with
  | nil => cases h : s.connection? j <;> simp [deliverAll, Connection.putAll, h, Activity.none]
  | cons e items ih =>
    obtain ⟨id, item⟩ := e
    obtain ⟨last, sent⟩ := ih (s.deliver id item).1
    show ((s.deliver id item).1.deliverAll items).1.connection? j = _ ∧
      itemsFor j ((s.deliver id item).2.sent ++ ((s.deliver id item).1.deliverAll items).2.sent) = _
    rw [last, itemsFor_append, sent]
    cases there : s.connection? id with
    | none =>
      simp only [deliver, there]
      by_cases same : j = id
      · simp [same, there, Activity.none]
      · simp [itemsFor, Ne.symm same, Activity.none]
    | some c =>
      obtain ⟨next, written⟩ := deliver_there there item
      rw [next, written, connection?_setConnection there, itemsFor_map]
      by_cases same : j = id
      · subst same
        simp [there, itemsFor, Connection.putAll]
      · simp [itemsFor, same, Ne.symm same]

theorem deliverAll_hub (s : Server) (items : List (SessionId × Outgoing)) :
    (s.deliverAll items).1.hub = s.hub ∧
      (s.deliverAll items).1.connections.length = s.connections.length := by
  have one (s : Server) (id : SessionId) (item : Outgoing) :
      (s.deliver id item).1.hub = s.hub ∧
        (s.deliver id item).1.connections.length = s.connections.length := by
    cases there : s.connection? id with
    | none => simp [deliver, there]
    | some c =>
      rw [(deliver_there there item).1]
      exact ⟨rfl, List.length_set⟩
  induction items generalizing s with
  | nil => exact ⟨rfl, rfl⟩
  | cons e items ih =>
    obtain ⟨hub, count⟩ := ih (s.deliver e.1 e.2).1
    obtain ⟨hub', count'⟩ := one s e.1 e.2
    exact ⟨hub.trans hub', count.trans count'⟩

end Server

-- ---------------------------------------------------------------------------
-- Sessions
-- ---------------------------------------------------------------------------

/-- What a step is to the connection of a session, given what the session queues. -/
inductive Session.Fate (s t : Session) (queued : List Outgoing) : Prop
  | ended : s.terminated = true → t.terminated = true → Fate s t queued
  | lives : s.terminated = false → t.terminated = false → (∀ m ∈ queued, m.IsOrdinary) →
    Fate s t queued
  | ends : s.terminated = false → t.terminated = true → .close ∈ queued → Fate s t queued

theorem Session.Fate.same (s : Session) : s.Fate s [] := by
  cases h : s.terminated with
  | true => exact .ended h h
  | false => exact .lives h h (List.forall_mem_nil _)

theorem Session.Conduct.fate {s : Session} (conduct : s.Conduct d introduced outcome) :
    s.Fate outcome.session outcome.queued := by
  cases conduct with
  | ended queued dead => exact .ended dead dead
  | claims state queued live ordinary => exact .lives live live ordinary
  | works state calls queued live work ordinary => exact .lives live live ordinary
  | ends queued live closes => exact .ends live rfl closes

theorem Session.Fate.connection {s t : Session} (fate : s.Fate t queued) {c : Connection}
    (closes : c.closed = s.terminated) :
    (c.putAll queued).1.closed = t.terminated ∧
      ((c.putAll queued).2.filterMap Delivery.farewell? ≠ [] →
        s.terminated = false ∧ t.terminated = true) := by
  cases fate with
  | ended dead stays =>
    rw [c.putAll_closed (closes.trans dead), stays]
    exact ⟨closes.trans dead, fun told => absurd rfl told⟩
  | lives live stays ordinary =>
    obtain ⟨opened, silent⟩ := c.putAll_ordinary (closes.trans live) ordinary
    exact ⟨opened.trans stays.symm, fun told => absurd silent told⟩
  | ends live dead closing =>
    exact ⟨(c.putAll_close closing).trans dead.symm, fun _ => ⟨live, dead⟩⟩

namespace Hub

/-- Every session is still there, for the same target and on the same port. -/
structure Moves (h : Hub) (result : Hub × Effects) : Prop where
  count : result.1.sessions.length = h.sessions.length
  each : ∀ j s, h.session? j = some s → ∃ t, result.1.session? j = some t ∧ t.port = s.port ∧
    t.target = s.target ∧ s.Fate t (itemsFor j result.2.queued)

theorem count_act (h : Hub) (i : SessionId) (step : Session → Debuggee → Outcome) :
    (h.act i step).1.sessions.length = h.sessions.length := by
  unfold act
  split
  · rfl
  · dsimp only
    split <;> exact List.length_set

theorem queued_act {h : Hub} (there : h.session? i = some s)
    (step : Session → Debuggee → Outcome) :
    (h.act i step).2.queued =
      (step s (h.debuggeeOf s.target)).queued.map fun m => (i, m) := by
  simp only [act, there]
  split <;> rfl

theorem moves_act (h : Hub) (i : SessionId) (event : Event) :
    h.Moves (h.act i fun s d => s.step ⟨d, event⟩) where
  count := h.count_act i _
  each j s its := by
    cases there : h.session? i with
    | none =>
      rw [act_absent there]
      exact ⟨s, its, rfl, rfl, .same s⟩
    | some actor =>
      rw [session?_act there, queued_act there, itemsFor_map]
      split
      · rename_i same
        obtain rfl := Option.some.inj (there.symm.trans (same ▸ its))
        have conduct := actor.step_conduct ⟨h.debuggeeOf actor.target, event⟩
        obtain ⟨-, port, target⟩ := conduct.keeps
        exact ⟨_, rfl, port, target, conduct.fate⟩
      · exact ⟨s, its, rfl, rfl, .same s⟩

theorem terminate_session {h : Hub} (its : h.session? j = some s) (i : SessionId)
    (restart : Bool) :
    (h.terminate i restart).1.session? j =
        some (if j = i then { s with terminated := true } else s) ∧
      itemsFor j (h.terminate i restart).2.queued =
        if j = i ∧ s.terminated = false then [Session.terminatedEvent restart, .close] else [] := by
  cases there : h.session? i with
  | none =>
    have apart : j ≠ i := by
      rintro rfl
      cases its.symm.trans there
    rw [terminate, act_absent there]
    simp [its, apart, Effects.none]
  | some actor =>
    rw [terminate, session?_act there, queued_act there, itemsFor_map]
    by_cases same : j = i
    · subst same
      obtain rfl := Option.some.inj (there.symm.trans its)
      obtain ⟨id, port, target, levels, dead, state⟩ := actor
      cases dead <;> simp [Session.terminate, Session.rest]
    · simp [same, its]

theorem terminateAll_session {h : Hub} {endings : List (SessionId × Bool)} {restart : Bool}
    (flags : ∀ e ∈ endings, e.2 = restart) (its : h.session? j = some s) :
    let ended := decide (j ∈ endings.map Prod.fst)
    (h.terminateAll endings).1.session? j =
        some { s with terminated := s.terminated || ended } ∧
      itemsFor j (h.terminateAll endings).2.queued =
        if !s.terminated && ended then [Session.terminatedEvent restart, .close] else [] := by
  induction endings generalizing h s with
  | nil => simp [terminateAll, its, Effects.none]
  | cons e endings ih =>
    obtain ⟨flag, others⟩ := List.forall_mem_cons.mp flags
    obtain ⟨i, restart⟩ := e
    obtain rfl : restart = _ := flag
    obtain ⟨here, first⟩ := terminate_session its i restart
    obtain ⟨last, rest⟩ := ih others here
    show ((h.terminate i restart).1.terminateAll endings).1.session? j = _ ∧
      itemsFor j ((h.terminate i restart).2.queued ++
        ((h.terminate i restart).1.terminateAll endings).2.queued) = _
    rw [last, itemsFor_append, first, rest]
    by_cases same : j = i
    · cases s.terminated <;> simp [same]
    · simp [same]

theorem count_terminateAll (h : Hub) (endings : List (SessionId × Bool)) :
    (h.terminateAll endings).1.sessions.length = h.sessions.length := by
  induction endings generalizing h with
  | nil => rfl
  | cons e endings ih => exact (ih (h.terminate e.1 e.2).1).trans (h.count_act e.1 _)

theorem moves_terminateAll (h : Hub) {endings : List (SessionId × Bool)} {restart : Bool}
    (flags : ∀ e ∈ endings, e.2 = restart) : h.Moves (h.terminateAll endings) where
  count := h.count_terminateAll endings
  each j s its := by
    obtain ⟨left, queued⟩ := terminateAll_session flags its
    refine ⟨_, left, rfl, rfl, ?_⟩
    rw [queued]
    cases dead : s.terminated with
    | true => exact .ended dead rfl
    | false =>
      by_cases ended : j ∈ endings.map Prod.fst
      · exact .ends dead (by simp [ended]) (by simp [ended])
      · exact .lives dead (by simp [ended]) (by simp [ended])

def IsOver (h : Hub) (id : SessionId) : Prop := ∃ s, h.session? id = some s ∧ s.terminated = true

end Hub

namespace Server

-- ---------------------------------------------------------------------------
-- Connections of sessions
-- ---------------------------------------------------------------------------

/-- Sessions and connections have the same numbers, and a connection is open as
long as its session is live. -/
structure Paired (s : Server) : Prop where
  count : s.connections.length = s.hub.sessions.length
  closes : ∀ j session c, s.hub.session? j = some session → s.connection? j = some c →
    c.closed = session.terminated

/-- What time does to sessions: they stay for the same target and on the same
port, those that are over stay so, and a client is told about the end only when
its session ends. -/
structure Ages (s t : Server) (a : Activity) : Prop where
  stays : ∀ j session, s.hub.session? j = some session → ∃ later,
    t.hub.session? j = some later ∧ later.port = session.port ∧ later.target = session.target ∧
      (session.terminated = true → later.terminated = true)
  farewells : ∀ j, a.farewells j ≠ [] → ¬s.hub.IsOver j ∧ t.hub.IsOver j

theorem Ages.ended (ages : Ages s t a) (dead : s.hub.IsOver j) : t.hub.IsOver j := by
  obtain ⟨session, its, dead⟩ := dead
  obtain ⟨later, left, -, -, stays⟩ := ages.stays j session its
  exact ⟨later, left, stays dead⟩

theorem Ages.trans (first : Ages s m a) (second : Ages m t b) : Ages s t (a ++ b) where
  stays j session its := by
    obtain ⟨middle, there, port, target, dead⟩ := first.stays j session its
    obtain ⟨later, left, port', target', dead'⟩ := second.stays j middle there
    exact ⟨later, left, port'.trans port, target'.trans target, fun h => dead' (dead h)⟩
  farewells j told := by
    rw [Activity.farewells_append, Ne, List.append_eq_nil_iff, not_and_or] at told
    obtain told | told := told
    · exact ⟨(first.farewells j told).1, second.ended (first.farewells j told).2⟩
    · obtain ⟨live, dead⟩ := second.farewells j told
      exact ⟨fun h => live (first.ended h), dead⟩

theorem Ages.silent (same : t.hub.sessions = s.hub.sessions) (silent : a.sent = []) :
    Ages s t a where
  stays j session its := ⟨session, by rw [Hub.session?, same]; exact its, rfl, rfl, id⟩
  farewells j told := absurd (by rw [Activity.farewells, silent]; rfl) told

variable {s t : Server}

theorem connection?_of_session? (paired : s.Paired) (its : s.hub.session? j = some session) :
    ∃ c, s.connection? j = some c := by
  obtain ⟨bound, -⟩ := List.getElem?_eq_some_iff.mp its
  exact ⟨_, List.getElem?_eq_getElem (paired.count ▸ bound)⟩

theorem settle_connection (s : Server) (result : Hub × Effects) (j : SessionId) :
    (s.settle result).1.connection? j =
        (s.connection? j).map (fun c => (c.putAll (itemsFor j result.2.queued)).1) ∧
      (s.settle result).2.farewells j = ((s.connection? j).map fun c =>
        (c.putAll (itemsFor j result.2.queued)).2.filterMap Delivery.farewell?).getD [] := by
  obtain ⟨left, sent⟩ := deliverAll_connection { s with hub := result.1 } result.2.queued j
  refine ⟨left, (congrArg (List.filterMap Delivery.farewell?) sent).trans ?_⟩
  show List.filterMap _ (((s.connection? j).map _).getD []) = _
  cases s.connection? j <;> rfl

theorem settle_hub (s : Server) (result : Hub × Effects) : (s.settle result).1.hub = result.1 :=
  (deliverAll_hub { s with hub := result.1 } result.2.queued).1

theorem settle_paired {result : Hub × Effects} (paired : s.Paired) (moves : s.hub.Moves result) :
    (s.settle result).1.Paired ∧ Ages s (s.settle result).1 (s.settle result).2 := by
  have count := (deliverAll_hub { s with hub := result.1 } result.2.queued).2
  -- behind every connection there is a session, so its fate is the connection's
  have session {j : SessionId} {c : Connection} (there : s.connection? j = some c) :
      ∃ session later, s.hub.session? j = some session ∧ result.1.session? j = some later ∧
        session.Fate later (itemsFor j result.2.queued) := by
    obtain ⟨bound, -⟩ := List.getElem?_eq_some_iff.mp there
    have its := List.getElem?_eq_getElem (paired.count ▸ bound)
    obtain ⟨later, left, -, -, fate⟩ := moves.each j _ its
    exact ⟨_, later, its, left, fate⟩
  refine ⟨⟨?_, fun j later c left there => ?_⟩, ⟨fun j session its => ?_, fun j told => ?_⟩⟩
  · rw [settle_hub, moves.count, ← paired.count]
    exact count
  · rw [(s.settle_connection result j).1] at there
    obtain ⟨c, before, rfl⟩ := Option.map_eq_some_iff.mp there
    obtain ⟨old, new, its, left', fate⟩ := session before
    rw [settle_hub] at left
    obtain rfl := Option.some.inj (left.symm.trans left')
    exact (fate.connection (paired.closes j old c its before)).1
  · obtain ⟨later, left, port, target, fate⟩ := moves.each j session its
    rw [settle_hub]
    refine ⟨later, left, port, target, fun dead => ?_⟩
    cases fate with
    | ended _ dead => exact dead
    | lives live => cases dead.symm.trans live
    | ends live => cases dead.symm.trans live
  · rw [(s.settle_connection result j).2] at told
    cases before : s.connection? j with
    | none => simp [before] at told
    | some c =>
      rw [before] at told
      obtain ⟨old, new, its, left, fate⟩ := session before
      obtain ⟨live, dead⟩ := (fate.connection (paired.closes j old c its before)).2 told
      refine ⟨?_, new, settle_hub .. ▸ left, dead⟩
      rintro ⟨same, its', dead'⟩
      obtain rfl := Option.some.inj (its.symm.trans its')
      cases live.symm.trans dead'

theorem Serves.ages (serves : Serves s t a) (paired : s.Paired) :
    t.Paired ∧ Ages s t a ∧ t.hub.sessions.length = s.hub.sessions.length := by
  induction serves with
  | traces lines => exact ⟨paired, .silent rfl rfl, rfl⟩
  | @reads s id c received ended there =>
    refine ⟨⟨List.length_set.trans paired.count, fun j session c' its there' => ?_⟩,
      .silent rfl rfl, rfl⟩
    rw [connection?_setConnection there] at there'
    split at there'
    · rename_i same
      cases there'
      exact paired.closes j session c its (same ▸ there)
    · exact paired.closes j session c' its there'
  | @acts s result id event is =>
    have moves := s.hub.moves_act id event
    rw [← is] at moves
    obtain ⟨next, ages⟩ := settle_paired paired moves
    exact ⟨next, ages, settle_hub .. ▸ moves.count⟩
  | trans _ _ first second =>
    obtain ⟨middle, ages, count⟩ := first paired
    obtain ⟨next, ages', count'⟩ := second middle
    exact ⟨next, ages.trans ages', count'.trans count⟩

end Server

end DebugAdapter
