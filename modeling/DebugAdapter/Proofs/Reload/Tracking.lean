import DebugAdapter.Proofs.Server.Offers
import DebugAdapter.Reload.Generations

/-!
# Generations and what a host offers

A host is lawful if its calls do to the targets it offers what they say.
`Agrees` relates the generations to such a host: what is tracked is what is
offered, and every name is tracked once. Loads, removals and the end of a
reload keep it, whether the host does what it is asked to or not.
-/

namespace DebugAdapter

-- ---------------------------------------------------------------------------
-- Generations
-- ---------------------------------------------------------------------------

namespace Generation

def target (e : String × Loaded) : Target := ⟨e.2.key, e.2.id, e.1⟩

def names (g : Generation) : List String := g.map Prod.fst

def targets (g : Generation) : Multiset Target := (g.map target : List Target)

theorem targets_perm {a b : Generation} (h : List.Perm a b) : targets a = targets b :=
  Multiset.coe_eq_coe.mpr (h.map _)

@[simp] theorem targets_nil : targets [] = 0 := rfl

theorem targets_cons (e : String × Loaded) (g : Generation) :
    targets (e :: g) = target e ::ₘ targets g := rfl

theorem mem_of_find? {g : Generation} (h : g.find? name = some l) : (name, l) ∈ g := by
  obtain ⟨e, found, rfl⟩ := Option.map_eq_some_iff.mp h
  have same : e.1 = name := by simpa using List.find?_some found
  exact same ▸ List.mem_of_find?_eq_some found

theorem find?_eq_none_iff {g : Generation} : g.find? name = none ↔ name ∉ g.names := by
  simp only [find?, Option.map_eq_none_iff, List.find?_eq_none, decide_eq_true_eq, names,
    List.mem_map, not_exists, not_and]

theorem find?_of_mem {g : Generation} (once : g.names.Nodup) (h : (name, l) ∈ g) :
    g.find? name = some l := by
  induction g with
  | nil => cases h
  | cons e rest ih =>
    rw [names, List.map_cons, List.nodup_cons] at once
    obtain rfl | h := List.mem_cons.mp h
    · simp [find?]
    · have differ : e.1 ≠ name := fun same =>
        once.1 (List.mem_map.mpr ⟨_, h, same.symm⟩)
      have others := ih once.2 h
      simp only [find?, List.find?_cons, differ, decide_false] at others ⊢
      exact others

theorem insert_perm {g : Generation} (new : name ∉ g.names) :
    List.Perm (g.insert name l) ((name, l) :: g) := by
  induction g with
  | nil => exact .refl _
  | cons e rest ih =>
    rw [names, List.map_cons, List.mem_cons, not_or] at new
    unfold insert
    split
    · exact .refl _
    · rw [if_neg new.1]
      exact ((ih new.2).cons e).trans (.swap ..)

theorem erase_perm {g : Generation} (once : g.names.Nodup) (h : (name, l) ∈ g) :
    List.Perm g ((name, l) :: g.erase name) := by
  obtain ⟨a, b, rfl⟩ := List.append_of_mem h
  rw [names, List.map_append, List.map_cons] at once
  have others := (List.nodup_middle.mp once).notMem
  rw [← List.map_append] at others
  have left : erase (a ++ (name, l) :: b) name = a ++ b := by
    have all : (a ++ b).filter (fun e => e.1 ≠ name) = a ++ b :=
      List.filter_eq_self.mpr fun e he => by
        simpa using fun same => others (List.mem_map.mpr ⟨e, he, same⟩)
    rw [erase, List.filter_append, List.filter_cons_of_neg (by simp), ← List.filter_append, all]
  rw [left]
  exact List.perm_middle

end Generation

namespace Generations

def entries (g : Generations) : Generation := g.current ++ g.superseded

def tracked (g : Generations) : Multiset Target := Generation.targets g.entries

def Once (g : Generations) : Prop := (Generation.names g.entries).Nodup

theorem tracked_perm {a b : Generations} (h : List.Perm a.entries b.entries) :
    a.tracked = b.tracked := Generation.targets_perm h

theorem once_perm {a b : Generations} (h : List.Perm a.entries b.entries) : a.Once ↔ b.Once :=
  (h.map Prod.fst).nodup_iff

theorem once_empty : empty.Once := .nil

theorem Once.current {g : Generations} (once : g.Once) : (Generation.names g.current).Nodup := by
  rw [Once, Generation.names, entries, List.map_append] at once
  exact (List.nodup_append.mp once).1

theorem Once.superseded {g : Generations} (once : g.Once) :
    (Generation.names g.superseded).Nodup := by
  rw [Once, Generation.names, entries, List.map_append] at once
  exact (List.nodup_append.mp once).2.1

-- ---------------------------------------------------------------------------
-- Changes of the generations
-- ---------------------------------------------------------------------------

/-- Nothing is withdrawn while instances move, as no name is in both generations. -/
theorem supersede_perm (host : TargetHost σ) (s : σ) {current superseded : Generation}
    (once : (Generation.names (current ++ superseded)).Nodup) :
    ∃ moved, supersede host s superseded current = (s, moved) ∧
      List.Perm moved (current ++ superseded) := by
  induction current generalizing superseded with
  | nil => exact ⟨superseded, rfl, .refl _⟩
  | cons e rest ih =>
    obtain ⟨name, l⟩ := e
    rw [Generation.names, List.cons_append, List.map_cons, List.nodup_cons] at once
    have new : name ∉ superseded.names := fun h => once.1 (by
      rw [List.map_append]
      exact List.mem_append_right _ h)
    have inserted := Generation.insert_perm (l := l) new
    have order : List.Perm (rest ++ superseded.insert name l)
        ((name, l) :: (rest ++ superseded)) :=
      (inserted.append_left rest).trans List.perm_middle
    obtain ⟨moved, same, perm⟩ := ih (((order.map Prod.fst).nodup_iff).mpr
      (List.nodup_cons.mpr once))
    refine ⟨moved, ?_, perm.trans order⟩
    simp only [supersede, Generation.find?_eq_none_iff.mpr new, same]

theorem turn_perm (host : TargetHost σ) (s : σ) {g : Generations} (once : g.Once) :
    ∃ moved, turn host s g = (s, ⟨[], moved⟩) ∧ List.Perm moved g.entries := by
  obtain ⟨moved, same, perm⟩ := supersede_perm host s once
  exact ⟨moved, by simp only [turn, same], perm⟩

theorem continue_perm {g : Generations} (once : g.Once) (new : g.current.find? name = none)
    (found : g.superseded.find? name = some old) (l : Loaded) :
    List.Perm g.entries ((name, old) :: (g.current ++ g.superseded.erase name)) ∧
      List.Perm (entries ⟨g.current.insert name l, g.superseded.erase name⟩)
        ((name, l) :: (g.current ++ g.superseded.erase name)) := by
  have before := Generation.erase_perm once.superseded (Generation.mem_of_find? found)
  have after := Generation.insert_perm (l := l) (Generation.find?_eq_none_iff.mp new)
  exact ⟨(before.append_left _).trans List.perm_middle, after.append_right _⟩

theorem insert_entries {g : Generations} (new : g.current.find? name = none) (l : Loaded) :
    List.Perm (entries ⟨g.current.insert name l, g.superseded⟩) ((name, l) :: g.entries) :=
  (Generation.insert_perm (Generation.find?_eq_none_iff.mp new)).append_right _

/-- What comes of entering an instance: it takes the place of the old one of
its name, or it is a new target, or the host refuses. -/
inductive Entering (host : TargetHost σ) (s : σ) (g : Generations) (name : String) (l : Loaded) :
    σ × Generations × Except Failure Unit → Prop where
  | replaced (found : g.superseded.find? name = some old)
      (done : host.replace s old.id l (some name) = (s', .ok ())) :
      Entering host s g name l
        (s', ⟨g.current.insert name l, g.superseded.erase name⟩, .ok ())
  | unreplaced (found : g.superseded.find? name = some old)
      (refused : host.replace s old.id l (some name) = (s', .error e)) :
      Entering host s g name l (s', g, .error e)
  | attached (absent : g.superseded.find? name = none)
      (done : host.attach s l name = (s', .ok ())) :
      Entering host s g name l (s', ⟨g.current.insert name l, g.superseded⟩, .ok ())
  | unattached (absent : g.superseded.find? name = none)
      (refused : host.attach s l name = (s', .error e)) :
      Entering host s g name l (s', g, .error e)

theorem entering (host : TargetHost σ) (s : σ) (g : Generations) (name : String) (l : Loaded) :
    Entering host s g name l (g.enter host s name l) := by
  unfold enter
  split
  · rename_i old found
    split
    · exact .replaced found ‹_›
    · exact .unreplaced found ‹_›
  · rename_i absent
    split
    · exact .attached absent ‹_›
    · exact .unattached absent ‹_›

theorem once_entering {g : Generations} (once : g.Once) (new : g.current.find? name = none)
    (entered : Entering host s g name l (s', g', result)) : g'.Once := by
  cases entered with
  | replaced found =>
    obtain ⟨before, after⟩ := continue_perm once new found l
    exact ((after.map Prod.fst).nodup_iff).mpr (((before.map Prod.fst).nodup_iff).mp once)
  | attached absent =>
    refine (((insert_entries new l).map Prod.fst).nodup_iff).mpr
      (List.nodup_cons.mpr ⟨?_, once⟩)
    rw [entries, List.map_append, List.mem_append, not_or]
    exact ⟨Generation.find?_eq_none_iff.mp new, Generation.find?_eq_none_iff.mp absent⟩
  | unreplaced => exact once
  | unattached => exact once

theorem load_cases (host : TargetHost σ) (s : σ) {g : Generations} (once : g.Once) (name : String)
    (l : Loaded) :
    (∃ known, g.current.find? name = some known ∧ known.id = l.id ∧
        g.load host s name l = (s, g, .ok ())) ∨
      (g.current.find? name = none ∧ Entering host s g name l (g.load host s name l)) ∨
      ∃ known moved, g.current.find? name = some known ∧ known.id ≠ l.id ∧
        List.Perm moved g.entries ∧ Entering host s ⟨[], moved⟩ name l (g.load host s name l) := by
  unfold load
  cases found : g.current.find? name with
  | none => exact .inr (.inl ⟨rfl, entering ..⟩)
  | some known =>
    by_cases same : known.id = l.id
    · exact .inl ⟨known, rfl, same, by simp [same]⟩
    · obtain ⟨moved, turned, perm⟩ := turn_perm host s once
      refine .inr (.inr ⟨known, moved, rfl, same, perm, ?_⟩)
      simpa only [if_neg same, turned] using entering ..

theorem once_load {g : Generations} (once : g.Once)
    (loaded : g.load host s name l = (s', g', result)) : g'.Once := by
  obtain ⟨known, -, -, again⟩ | ⟨new, entered⟩ | ⟨known, moved, -, -, perm, entered⟩ :=
    load_cases host s once name l
  · cases again.symm.trans loaded
    exact once
  · exact once_entering once new (loaded ▸ entered)
  · have turned : Once ⟨[], moved⟩ := (once_perm (a := ⟨[], moved⟩) perm).mpr once
    exact once_entering turned rfl (loaded ▸ entered)

theorem remove_cases (host : TargetHost σ) (s : σ) {g : Generations} (once : g.Once)
    (name : String) :
    (∃ l, List.Perm g.entries ((name, l) :: (g.remove host s name).2.1.entries) ∧
        (g.remove host s name).1 = (host.detach s l.id).1) ∨
      g.remove host s name = (s, g, .ok ()) := by
  unfold remove
  split
  · rename_i l found
    have entry := Generation.erase_perm once.current (Generation.mem_of_find? found)
    exact .inl ⟨l, entry.append_right g.superseded, rfl⟩
  split
  · rename_i l found
    have entry := Generation.erase_perm once.superseded (Generation.mem_of_find? found)
    exact .inl ⟨l, (entry.append_left _).trans List.perm_middle, rfl⟩
  · exact .inr rfl

theorem once_remove (host : TargetHost σ) (s : σ) {g : Generations} (once : g.Once)
    (name : String) : (g.remove host s name).2.1.Once := by
  obtain ⟨l, entry, -⟩ | same := remove_cases host s once name
  · exact (List.nodup_cons.mp (((entry.map Prod.fst).nodup_iff).mp once)).2
  · rw [same]
    exact once

theorem once_expire {g : Generations} (once : g.Once) : Once ⟨g.current, []⟩ := by
  rw [Once, entries, List.append_nil]
  exact once.current

end Generations

-- ---------------------------------------------------------------------------
-- Hosts
-- ---------------------------------------------------------------------------

/-- What each call of a host does to the targets it offers, in a sound state. -/
structure TargetHost.Lawful (host : TargetHost σ) (sound : σ → Prop)
    (offered : σ → Multiset Target) : Prop where
  ids : sound s → ((offered s).map Target.id).Nodup
  attach_ok : sound s → host.attach s l name = (s', .ok ()) →
    sound s' ∧ offered s' = ⟨l.key, l.id, name⟩ ::ₘ offered s
  attach_error : sound s → host.attach s l name = (s', .error e) →
    sound s' ∧ offered s' = offered s
  replace_ok : sound s → host.replace s old l (some name) = (s', .ok ()) →
    sound s' ∧ ∃ t rest, t.id = old ∧ offered s = t ::ₘ rest ∧
      offered s' = ⟨l.key, l.id, name⟩ ::ₘ rest
  replace_error : sound s → host.replace s old l (some name) = (s', .error e) →
    sound s' ∧ offered s' = offered s
  detach : sound s → ∀ old, sound (host.detach s old).1 ∧
    offered (host.detach s old).1 = (offered s).filter fun t => t.id ≠ old

namespace TargetHost.Lawful

variable {host : TargetHost σ} {sound : σ → Prop} {offered : σ → Multiset Target}
variable (lawful : host.Lawful sound offered)

include lawful

theorem sound_entering {s : σ} (before : sound s)
    (entered : Generations.Entering host s g name l (s', g', result)) : sound s' := by
  cases entered with
  | replaced _ done => exact (lawful.replace_ok before done).1
  | unreplaced _ refused => exact (lawful.replace_error before refused).1
  | attached _ done => exact (lawful.attach_ok before done).1
  | unattached _ refused => exact (lawful.attach_error before refused).1

theorem sound_load {s : σ} {g : Generations} (before : sound s) (once : g.Once)
    (loaded : g.load host s name l = (s', g', result)) : sound s' := by
  obtain ⟨known, -, -, again⟩ | ⟨-, entered⟩ | ⟨known, moved, -, -, -, entered⟩ :=
    Generations.load_cases host s once name l
  · cases again.symm.trans loaded
    exact before
  · exact lawful.sound_entering before (loaded ▸ entered)
  · exact lawful.sound_entering before (loaded ▸ entered)

theorem sound_remove {s : σ} {g : Generations} (before : sound s) (once : g.Once)
    (name : String) : sound (g.remove host s name).1 := by
  obtain ⟨l, -, removed⟩ | same := Generations.remove_cases host s once name
  · rw [removed]
    exact (lawful.detach before l.id).1
  · rw [same]
    exact before

theorem detachAll {s : σ} (before : sound s) (old : Generation) :
    sound (Generations.detachAll host s old) ∧
      offered (Generations.detachAll host s old) =
        (offered s).filter fun t => t.id ∉ old.map fun e => e.2.id := by
  induction old generalizing s with
  | nil =>
    refine ⟨before, ?_⟩
    exact (Multiset.filter_eq_self.mpr fun t _ => List.not_mem_nil).symm
  | cons e rest ih =>
    obtain ⟨kept, left⟩ := lawful.detach before e.2.id
    obtain ⟨after, others⟩ := ih kept
    refine ⟨after, others.trans ?_⟩
    rw [left, Multiset.filter_filter]
    refine Multiset.filter_congr fun t _ => ?_
    rw [List.map_cons, List.mem_cons, not_or, and_comm]

end TargetHost.Lawful

structure Agrees (sound : σ → Prop) (offered : σ → Multiset Target) (s : σ) (g : Generations) :
    Prop where
  sound : sound s
  offers : offered s = g.tracked
  once : g.Once

namespace Agrees

variable {host : TargetHost σ} {sound : σ → Prop} {offered : σ → Multiset Target}

theorem perm {s : σ} {g g' : Generations} (agrees : Agrees sound offered s g)
    (entries : List.Perm g'.entries g.entries) : Agrees sound offered s g' :=
  ⟨agrees.sound, agrees.offers.trans (Generations.tracked_perm entries).symm,
    (Generations.once_perm entries).mpr agrees.once⟩

theorem offered_cons {s : σ} {g : Generations} (agrees : Agrees sound offered s g)
    (entry : List.Perm g.entries (e :: others)) :
    offered s = Generation.target e ::ₘ Generation.targets others := by
  rw [agrees.offers, Generations.tracked, Generation.targets_perm entry, Generation.targets_cons]

variable (lawful : host.Lawful sound offered)

include lawful

theorem entry_eq {s : σ} {g : Generations} (agrees : Agrees sound offered s g)
    (entry : List.Perm g.entries (e :: others)) (same : t.id = e.2.id)
    (offers : offered s = t ::ₘ rest) :
    t = Generation.target e ∧ rest = Generation.targets others := by
  have tracked := agrees.offered_cons entry
  have equal : t = Generation.target e :=
    Multiset.inj_on_of_nodup_map (lawful.ids agrees.sound) t (by simp [offers])
      (Generation.target e) (by simp [tracked]) same
  rw [equal, tracked] at offers
  exact ⟨equal, ((Multiset.cons_inj_right _).mp offers).symm⟩

theorem detach {s : σ} {g g' : Generations} (agrees : Agrees sound offered s g)
    (entry : List.Perm g.entries (e :: g'.entries)) :
    Agrees sound offered (host.detach s e.2.id).1 g' := by
  obtain ⟨kept, left⟩ := lawful.detach agrees.sound e.2.id
  have others := Target.filter_of_cons (lawful.ids agrees.sound) (agrees.offered_cons entry)
  have once := ((entry.map Prod.fst).nodup_iff).mp agrees.once
  exact ⟨kept, left.trans others, (List.nodup_cons.mp once).2⟩

theorem entering {s : σ} {g : Generations} (agrees : Agrees sound offered s g)
    (new : g.current.find? name = none)
    (entered : Generations.Entering host s g name l (s', g', result)) :
    Agrees sound offered s' g' := by
  refine ⟨lawful.sound_entering agrees.sound entered, ?_,
    Generations.once_entering agrees.once new entered⟩
  cases entered with
  | replaced found done =>
    obtain ⟨before, after⟩ := Generations.continue_perm agrees.once new found l
    obtain ⟨-, t, rest, same, offers, changed⟩ := lawful.replace_ok agrees.sound done
    rw [changed, (agrees.entry_eq lawful before same offers).2, Generations.tracked,
      Generation.targets_perm after, Generation.targets_cons]
    rfl
  | attached absent done =>
    rw [(lawful.attach_ok agrees.sound done).2, agrees.offers, Generations.tracked,
      Generations.tracked, Generation.targets_perm (Generations.insert_entries new l),
      Generation.targets_cons]
    rfl
  | unreplaced _ refused =>
    exact (lawful.replace_error agrees.sound refused).2.trans agrees.offers
  | unattached _ refused =>
    exact (lawful.attach_error agrees.sound refused).2.trans agrees.offers

theorem load {s : σ} {g : Generations} (agrees : Agrees sound offered s g)
    (loaded : g.load host s name l = (s', g', result)) : Agrees sound offered s' g' := by
  obtain ⟨known, -, -, again⟩ | ⟨new, entered⟩ | ⟨known, moved, -, -, perm, entered⟩ :=
    Generations.load_cases host s agrees.once name l
  · cases again.symm.trans loaded
    exact agrees
  · exact agrees.entering lawful new (loaded ▸ entered)
  · have turned : Agrees sound offered s ⟨[], moved⟩ := agrees.perm perm
    exact turned.entering lawful rfl (loaded ▸ entered)

theorem remove {s : σ} {g : Generations} (agrees : Agrees sound offered s g) :
    Agrees sound offered (g.remove host s name).1 (g.remove host s name).2.1 := by
  obtain ⟨l, entry, removed⟩ | same := Generations.remove_cases host s agrees.once name
  · rw [removed]
    exact agrees.detach lawful (e := (name, l)) entry
  · rw [same]
    exact agrees

theorem detachAll {s : σ} {current superseded : Generation}
    (agrees : Agrees sound offered s ⟨current, superseded⟩) :
    Agrees sound offered (Generations.detachAll host s superseded) ⟨current, []⟩ := by
  induction superseded generalizing s with
  | nil => exact agrees
  | cons e rest ih =>
    have left : Agrees sound offered (host.detach s e.2.id).1 ⟨current, rest⟩ :=
      agrees.detach lawful List.perm_middle
    exact ih left

theorem expire {s : σ} {g : Generations} (agrees : Agrees sound offered s g) :
    Agrees sound offered (g.expire host s).1 ⟨g.current, []⟩ := agrees.detachAll lawful

end Agrees

end DebugAdapter
