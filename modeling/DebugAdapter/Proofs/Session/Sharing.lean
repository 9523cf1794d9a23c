import DebugAdapter.Proofs.Session.Conduct
import DebugAdapter.Session.Hub

/-!
# Sessions that share a debuggee

Any number of sessions take steps in any order, each with the debuggee behind
its target. A debuggee reports to one session at most. `client_is_newest`: it is
the one whose client has introduced itself last, as long as that session is not
over; a session that was superseded takes nothing away from it.
-/

namespace DebugAdapter

inductive HubEvent where
  | opens (port : Nat) (target : Option Target) (defaultLevels : Nat)
  | session (id : SessionId) (event : Event)
  /-- A debuggee answers differently from now on. -/
  | refresh (key : InstanceKey) (answers : Debuggee)

namespace Hub

def step (h : Hub) : HubEvent → Hub × Effects
  | .opens port target levels => (h.openSession port target levels, .none)
  | .session id event => h.act id fun s d => s.step ⟨d, event⟩
  | .refresh key answers => (h.refresh key answers, .none)

def run (h : Hub) (events : List HubEvent) : Hub := events.foldl (fun h e => (h.step e).1) h

def introduced? (h : Hub) (key : InstanceKey) : HubEvent → Option SessionId
  | .session id event =>
    ((h.session? id).filter fun s => s.target.map Target.key = some key &&
      s.introduces ⟨h.debuggeeOf s.target, event⟩).map fun _ => id
  | _ => none

def introductions (h : Hub) (key : InstanceKey) : List HubEvent → List SessionId
  | [] => []
  | e :: rest => (h.introduced? key e).toList ++ (h.step e).1.introductions key rest

def IsLive (h : Hub) (id : SessionId) : Prop := ∃ s, h.session? id = some s ∧ s.terminated = false

/-- Who a debuggee reports to is the session introduced last, if that is live. -/
structure Claimed (h : Hub) (key : InstanceKey) (newest : Option SessionId) : Prop where
  numbered : ∀ id s, h.session? id = some s → s.id = id
  there : ∀ id, newest = some id →
    ∃ s, h.session? id = some s ∧ s.target.map Target.key = some key
  client : ∀ id, (h.debuggees key).client = some id ↔ newest = some id ∧ h.IsLive id

end Hub

theorem getElem?_concat (l : List α) (a : α) (i : Nat) :
    (l ++ [a])[i]? = if i = l.length then some a else l[i]? := by
  grind

-- ---------------------------------------------------------------------------
-- What one session does
-- ---------------------------------------------------------------------------

theorem Debuggee.client_work (d : Debuggee) {calls : List Call} (work : ∀ c ∈ calls, c.IsWork) :
    (calls.foldl Debuggee.after d).client = d.client := by
  induction calls generalizing d with
  | nil => rfl
  | cons c calls ih =>
    obtain ⟨first, others⟩ := List.forall_mem_cons.mp work
    have kept : (d.after c).client = d.client := by
      cases c <;> first | rfl | exact first.elim
    exact (ih (d.after c) others).trans kept

namespace Session

variable {s : Session} {d : Debuggee} {introduced : Bool} {outcome : Outcome}

theorem Conduct.keeps (c : s.Conduct d introduced outcome) :
    outcome.session.id = s.id ∧ outcome.session.port = s.port ∧
      outcome.session.target = s.target := by
  cases c <;> exact ⟨rfl, rfl, rfl⟩

theorem Conduct.stays (c : s.Conduct d introduced outcome) (dead : s.terminated = true) :
    outcome.session.terminated = true := by
  cases c <;> first | exact dead | rfl

theorem Conduct.live (c : s.Conduct d true outcome) : outcome.session.terminated = false := by
  cases c
  assumption

/-- The debuggee reports to a session once it is introduced, and to nobody once
the session that it reports to is over. -/
theorem Conduct.client (c : s.Conduct d introduced outcome) (debugs : s.target.isSome = true) :
    (outcome.calls.foldl Debuggee.after d).client =
      if introduced then some s.id
      else if outcome.session.terminated ∧ s.terminated = false ∧ d.client = some s.id then none
      else d.client := by
  obtain ⟨t, target⟩ := Option.isSome_iff_exists.mp debugs
  cases c with
  | ended queued dead => simp [dead]
  | claims state queued live ordinary => simp [target, Debuggee.after]
  | works state calls queued live work ordinary => simp [live, Debuggee.client_work d work]
  | ends queued live closes =>
    by_cases mine : d.client = some s.id <;> simp [unbind, target, live, mine, Debuggee.after]

end Session

namespace Hub

variable {h : Hub} {i : SessionId} {key : InstanceKey} {newest : Option SessionId}

-- ---------------------------------------------------------------------------
-- Steps
-- ---------------------------------------------------------------------------

theorem session?_act (there : h.session? i = some s) (step : Session → Debuggee → Outcome)
    (j : SessionId) : (h.act i step).1.session? j =
      if j = i then some (step s (h.debuggeeOf s.target)).session else h.session? j := by
  obtain ⟨bound, -⟩ := List.getElem?_eq_some_iff.mp there
  have left : (h.act i step).1.sessions =
      h.sessions.set i (step s (h.debuggeeOf s.target)).session := by
    simp only [act, there]
    cases s.target <;> rfl
  unfold session?
  rw [left]
  by_cases same : j = i
  · subst same
    simp [bound]
  · simp [same, List.getElem?_set_ne (Ne.symm same)]

theorem client_act (there : h.session? i = some s) (step : Session → Debuggee → Outcome) :
    ((h.act i step).1.debuggees key).client =
      if s.target.map Target.key = some key then
        ((step s (h.debuggees key)).calls.foldl Debuggee.after (h.debuggees key)).client
      else (h.debuggees key).client := by
  simp only [act, there]
  cases s.target with
  | none => rfl
  | some t =>
    by_cases mine : t.key = key
    · simp [call, debuggeeOf, mine]
    · simp [call, mine, Ne.symm mine]

theorem isLive_act (there : h.session? i = some s) (step : Session → Debuggee → Outcome)
    (j : SessionId) : (h.act i step).1.IsLive j ↔
      if j = i then (step s (h.debuggeeOf s.target)).session.terminated = false
      else h.IsLive j := by
  unfold IsLive
  rw [session?_act there]
  split <;> simp

theorem isLive_of_session? (there : h.session? i = some s) :
    h.IsLive i ↔ s.terminated = false := by
  simp [IsLive, there]

theorem debuggeeOf_eq {target : Option Target} (mine : target.map Target.key = some key) :
    h.debuggeeOf target = h.debuggees key := by
  obtain ⟨t, rfl, rfl⟩ := Option.map_eq_some_iff.mp mine
  rfl

theorem Claimed.client_session (claimed : h.Claimed key newest) (there : h.session? i = some s)
    (event : Event) (id : SessionId) :
    ((h.step (.session i event)).1.debuggees key).client = some id ↔
      (h.introduced? key (.session i event)).or newest = some id ∧
        (h.step (.session i event)).1.IsLive id := by
  have conduct := s.step_conduct ⟨h.debuggeeOf s.target, event⟩
  have before := claimed.client id
  simp only [step, isLive_act there, client_act there, introduced?, there, Option.filter_some]
  -- only a session of this debuggee calls it; of these, the one that steps differs from the rest
  by_cases mine : s.target.map Target.key = some key
  · have debugs : s.target.isSome = true := by
      simpa using (congrArg Option.isSome mine)
    rw [debuggeeOf_eq mine] at conduct ⊢
    rw [if_pos mine, conduct.client debugs, claimed.numbered i s there]
    cases introduces : s.introduces ⟨h.debuggees key, event⟩ with
    | true =>
      have live := (introduces ▸ conduct).live
      by_cases same : id = i
      · simp [mine, same, live]
      · simp [mine, same, Ne.symm same]
    | false =>
      have stays := conduct.stays
      by_cases same : id = i
      · subst same
        rw [isLive_of_session? there] at before
        cases dead : (s.step ⟨h.debuggees key, event⟩).session.terminated with
        | false =>
          have live : s.terminated = false := by simpa [dead] using stays
          simp [mine, before, live]
        | true => cases live : s.terminated <;> simp [mine, before, live]
      · have one : (h.debuggees key).client = some id → (h.debuggees key).client ≠ some i :=
          fun its => by simp [its, same]
        simpa [mine, same, ← before] using fun its _ _ => one its
  · have other : newest ≠ some i := fun last => by
      obtain ⟨t, found, its⟩ := claimed.there i last
      obtain rfl := Option.some.inj (there.symm.trans found)
      exact mine its
    by_cases same : id = i
    · subst same
      simp [mine, before, other]
    · simp [mine, before, same]

theorem Claimed.session (claimed : h.Claimed key newest) (there : h.session? i = some s)
    (event : Event) : (h.step (.session i event)).1.Claimed key
      ((h.introduced? key (.session i event)).or newest) := by
  obtain ⟨number, -, target⟩ := (s.step_conduct ⟨h.debuggeeOf s.target, event⟩).keeps
  have found (j : SessionId) := session?_act there (fun s d => s.step ⟨d, event⟩) j
  refine ⟨fun j t its => ?_, fun j last => ?_, claimed.client_session there event⟩
  · simp only [step, found] at its
    split at its
    · rename_i same
      cases its
      rw [number, same, claimed.numbered i s there]
    · exact claimed.numbered j t its
  · have mine : ∃ t, h.session? j = some t ∧ t.target.map Target.key = some key := by
      obtain introduced | ⟨-, last⟩ := Option.or_eq_some_iff.mp last
      · simp only [introduced?, there] at introduced
        obtain ⟨t, its, rfl⟩ := Option.map_eq_some_iff.mp introduced
        obtain ⟨its, introduces⟩ := Option.filter_eq_some_iff.mp its
        cases its
        exact ⟨s, there, of_decide_eq_true ((Bool.and_eq_true ..).mp introduces).1⟩
      · exact claimed.there j last
    obtain ⟨t, its, debugs⟩ := mine
    simp only [step, found]
    split
    · rename_i same
      obtain rfl := Option.some.inj (there.symm.trans (same ▸ its))
      exact ⟨_, rfl, (congrArg _ target).trans debugs⟩
    · exact ⟨t, its, debugs⟩

theorem act_absent (absent : h.session? i = none) (step : Session → Debuggee → Outcome) :
    h.act i step = (h, .none) := by
  simp only [act, absent]

theorem session?_openSession (h : Hub) (port : Nat) (target : Option Target) (levels : Nat)
    (j : SessionId) : (h.openSession port target levels).session? j =
      if j = h.sessions.length then some (.fresh j port target levels) else h.session? j := by
  refine (getElem?_concat h.sessions _ j).trans ?_
  split
  · rename_i last
    rw [last]
  · rfl

theorem openSession_keeps (its : h.session? j = some s) (port : Nat) (target : Option Target)
    (levels : Nat) : (h.openSession port target levels).session? j = some s := by
  rw [session?_openSession, if_neg, its]
  exact Nat.ne_of_lt (List.getElem?_eq_some_iff.mp its).1

theorem Claimed.opens (claimed : h.Claimed key newest) (port : Nat) (target : Option Target)
    (levels : Nat) : (h.openSession port target levels).Claimed key newest := by
  refine ⟨fun j t its => ?_, fun j last => ?_, fun j => ?_⟩
  · rw [session?_openSession] at its
    split at its
    · cases its
      rfl
    · exact claimed.numbered j t its
  · obtain ⟨s, its, debugs⟩ := claimed.there j last
    exact ⟨s, openSession_keeps its port target levels, debugs⟩
  · refine (claimed.client j).trans (and_congr_right fun last => ?_)
    obtain ⟨s, its, -⟩ := claimed.there j last
    rw [isLive_of_session? its,
      isLive_of_session? (openSession_keeps its port target levels)]

theorem Claimed.refresh (claimed : h.Claimed key newest) (other : InstanceKey)
    (answers : Debuggee) : (h.refresh other answers).Claimed key newest := by
  refine ⟨claimed.numbered, claimed.there, fun j => ?_⟩
  have kept : ((h.refresh other answers).debuggees key).client = (h.debuggees key).client := by
    simp only [Hub.refresh]
    split <;> rfl
  rw [kept]
  exact claimed.client j

theorem Claimed.step (claimed : h.Claimed key newest) (event : HubEvent) :
    (h.step event).1.Claimed key ((h.introduced? key event).or newest) := by
  cases event with
  | opens port target levels => exact claimed.opens port target levels
  | refresh other answers => exact claimed.refresh other answers
  | session i event =>
    cases there : h.session? i with
    | some s => exact claimed.session there event
    | none =>
      simp only [Hub.step, act_absent there, introduced?, there]
      exact claimed

-- ---------------------------------------------------------------------------
-- Runs
-- ---------------------------------------------------------------------------

theorem Claimed.run (claimed : h.Claimed key newest) (events : List HubEvent) :
    (h.run events).Claimed key ((h.introductions key events).getLast?.or newest) := by
  induction events generalizing h newest with
  | nil => exact claimed
  | cons e events ih =>
    have rest := ih (claimed.step e)
    show ((h.step e).1.run events).Claimed key _
    rw [introductions, List.getLast?_append, Option.or_assoc]
    cases introduced : h.introduced? key e <;> rwa [introduced] at rest

theorem claimed_start (debuggees : InstanceKey → Debuggee)
    (unclaimed : (debuggees key).client = none) : (start debuggees).Claimed key none := by
  refine ⟨fun id s there => ?_, by simp, fun id => ?_⟩
  · simp [session?, start] at there
  · simp [start, unclaimed]

/-- Whatever sessions do, a debuggee reports to the session whose client was
introduced last, and to nobody once that session is over. So it never reports
to a session that is over, and what other sessions do, unless their clients
introduce themselves again, does not change whom it reports to. -/
theorem client_is_newest (debuggees : InstanceKey → Debuggee) (key : InstanceKey)
    (unclaimed : (debuggees key).client = none) (events : List HubEvent) :
    let h := (start debuggees).run events
    let newest := ((start debuggees).introductions key events).getLast?
    (∀ id, (h.debuggees key).client = some id ↔ newest = some id ∧ h.IsLive id) ∧
      (∀ id s, h.session? id = some s → s.terminated = true →
        (h.debuggees key).client ≠ some id) ∧
      ∀ id event, newest ≠ some id → h.introduced? key (.session id event) = none →
        ((h.step (.session id event)).1.debuggees key).client = (h.debuggees key).client := by
  intro h newest
  have claimed : h.Claimed key newest := by
    simpa [newest] using (claimed_start debuggees unclaimed).run events
  refine ⟨claimed.client, fun id s there dead reports => ?_, fun id event other silent => ?_⟩
  · obtain ⟨-, live⟩ := (claimed.client id).mp reports
    rw [isLive_of_session? there, dead] at live
    cases live
  · have after := claimed.step (.session id event)
    rw [silent, Option.none_or] at after
    refine Option.ext fun last => (after.client last).trans ((claimed.client last).trans ?_).symm
    refine and_congr_right fun its => ?_
    have apart : last ≠ id := fun same => other (same ▸ its)
    cases there : h.session? id with
    | none => rw [step, act_absent there]
    | some s => rw [step, isLive_act there, if_neg apart]

/-- Of two clients the older introduces itself again, then the newer does; when
the older is gone, the debuggee still reports to the newer. -/
theorem older_client_leaves :
    let greeting : Event := .request [] ⟨1, "request", "initialize", .null⟩
    let events : List HubEvent := [.opens 4711 (some ⟨7, 1, "main"⟩) 20,
      .opens 4711 (some ⟨7, 1, "main"⟩) 20, .session 0 greeting, .session 1 greeting,
      .session 0 greeting, .session 1 greeting, .session 0 .connectionClosed]
    (((start fun _ => .silent).run events).debuggees 7).client = some 1 := by
  intro greeting events
  obtain ⟨client, -, -⟩ := client_is_newest (fun _ => .silent) 7 rfl events
  exact (client 1).mpr ⟨by decide +kernel, _, rfl, by decide +kernel⟩

end Hub

end DebugAdapter
