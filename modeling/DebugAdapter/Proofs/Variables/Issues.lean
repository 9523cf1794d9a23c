import DebugAdapter.Proofs.Variables.Codec
import DebugAdapter.Variables.Rows

/-!
# Handles that are issued

Making rows for a client stores values and gives out handles for them.
`ValueTable.Issues` says which: one handle for each row, zero or the next slot
of the table. All rows are made this way, and all that is promised of handles
follows from it: slots ascend, every handle finds its value, and what was
stored before stays.
-/

namespace DebugAdapter

namespace ValueTable

-- ---------------------------------------------------------------------------
-- Growth
-- ---------------------------------------------------------------------------

def Grows (t u : ValueTable) : Prop :=
  u.first = t.first ∧ t.values.toList <+: u.values.toList

theorem Grows.refl (t : ValueTable) : t.Grows t := ⟨rfl, List.prefix_rfl⟩

theorem Grows.trans {t u w : ValueTable} (h : t.Grows u) (k : u.Grows w) : t.Grows w :=
  ⟨k.1.trans h.1, h.2.trans k.2⟩

theorem Grows.nextSlot_le {t u : ValueTable} (h : t.Grows u) : t.nextSlot ≤ u.nextSlot := by
  have hl := h.2.length_le
  simp only [Array.length_toList] at hl
  simp only [nextSlot, h.1]
  omega

theorem Grows.get? {t u : ValueTable} (h : t.Grows u) (hv : t.get? slot = some v) :
    u.get? slot = some v := by
  obtain ⟨hf, added, ha⟩ := h
  unfold ValueTable.get? at hv ⊢
  rw [hf]
  split at hv
  · have hi := (Array.getElem?_eq_some_iff.mp hv).1
    rename_i hle
    rw [if_pos hle, ← Array.getElem?_toList, ← ha, List.getElem?_append_left (by simpa using hi),
      Array.getElem?_toList]
    exact hv
  · cases hv

theorem lt_nextSlot_of_get? {t : ValueTable} (hv : t.get? slot = some v) : slot < t.nextSlot := by
  unfold ValueTable.get? at hv
  split at hv
  · have hi := (Array.getElem?_eq_some_iff.mp hv).1
    simp only [nextSlot]
    omega
  · cases hv

theorem get?_of_lt_first {t : ValueTable} (h : slot < t.first) : t.get? slot = none :=
  if_neg (Nat.not_le_of_lt h)

-- ---------------------------------------------------------------------------
-- Storing a value
-- ---------------------------------------------------------------------------

theorem insert_of_le {t : ValueTable} (h : t.nextSlot ≤ VarRef.maxSlot) (v : Value) :
    t.insert v = (some t.nextSlot, { t with values := t.values.push v }) := if_pos h

theorem insert_of_gt {t : ValueTable} (h : ¬t.nextSlot ≤ VarRef.maxSlot) (v : Value) :
    t.insert v = (none, t) := if_neg h

theorem grows_insert (t : ValueTable) (v : Value) : t.Grows (t.insert v).2 := by
  by_cases h : t.nextSlot ≤ VarRef.maxSlot
  · rw [insert_of_le h]
    exact ⟨rfl, by simp⟩
  · rw [insert_of_gt h]
    exact .refl t

theorem get?_insert {t : ValueTable} (h : t.nextSlot ≤ VarRef.maxSlot) (v : Value) :
    (t.insert v).2.get? t.nextSlot = some v := by
  rw [insert_of_le h]
  simp [ValueTable.get?, nextSlot]

theorem nextSlot_insert {t : ValueTable} (h : t.nextSlot ≤ VarRef.maxSlot) (v : Value) :
    (t.insert v).2.nextSlot = t.nextSlot + 1 := by
  rw [insert_of_le h]
  simp only [nextSlot, Array.size_push]
  omega

-- ---------------------------------------------------------------------------
-- Issuing handles
-- ---------------------------------------------------------------------------

/-- From a table, handles are issued for some subjects, one for each, and
another table is left. A subject is a value, or none for a row that is about
no value. Zero is no handle; a value that gets none may still have been
stored, in a slot that is lost. -/
inductive Issues : ValueTable → List Int → List (Option Value) → ValueTable → Prop
  | done : Issues t [] [] t
  | nothing : Issues t hs vs u → Issues t (0 :: hs) (v :: vs) u
  | lost (t : ValueTable) (v : Value) : Issues (t.insert v).2 hs vs u →
      Issues t (0 :: hs) (some v :: vs) u
  | handle (t : ValueTable) (v : Value) (ref : VarRef) : ref.slot = t.nextSlot → ref.Fits →
      Issues (t.insert v).2 hs vs u → Issues t (ref.encode :: hs) (some v :: vs) u

theorem Issues.append (h : Issues t hs vs u) (k : Issues u hs' vs' w) :
    Issues t (hs ++ hs') (vs ++ vs') w := by
  induction h with
  | done => exact k
  | nothing _ ih => exact .nothing (ih k)
  | lost t v _ ih => exact .lost t v (ih k)
  | handle t v ref slot fits _ ih => exact .handle t v ref slot fits (ih k)

theorem Issues.grows (h : Issues t hs vs u) : t.Grows u := by
  induction h with
  | done => exact .refl _
  | nothing _ ih => exact ih
  | lost t v _ ih => exact (grows_insert t v).trans ih
  | handle t v _ _ _ _ ih => exact (grows_insert t v).trans ih

theorem issues_blank (t : ValueTable) (rows : List α) :
    Issues t (rows.map fun _ => 0) (rows.map fun _ => none) t := by
  induction rows with
  | nil => exact .done
  | cons _ _ ih => exact .nothing ih

def nonzero (hs : List Int) : List Int := hs.filter fun n => n ≠ 0

@[simp] theorem nonzero_nil : nonzero [] = [] := rfl

@[simp] theorem nonzero_cons_zero : nonzero (0 :: hs) = nonzero hs := rfl

@[simp] theorem nonzero_cons_encode (ref : VarRef) (hs : List Int) :
    nonzero (ref.encode :: hs) = (ref.encode : Int) :: nonzero hs := by
  have hp := ref.encode_pos
  exact List.filter_cons_of_pos (by simp; omega)

@[simp] theorem nonzero_append (a b : List Int) : nonzero (a ++ b) = nonzero a ++ nonzero b :=
  List.filter_append ..

def issued (hs : List Int) (vs : List (Option Value)) : List (Int × Value) :=
  (hs.zip vs).filterMap fun e => if e.1 = 0 then none else e.2.map (e.1, ·)

@[simp] theorem issued_nil : issued [] vs = [] := rfl

@[simp] theorem issued_cons_zero : issued (0 :: hs) (v :: vs) = issued hs vs := by
  simp [issued]

@[simp] theorem issued_cons_encode (ref : VarRef) (v : Value) (hs : List Int)
    (vs : List (Option Value)) :
    issued (ref.encode :: hs) (some v :: vs) = ((ref.encode : Int), v) :: issued hs vs := by
  have hp := ref.encode_pos
  have nonzero : ¬(ref.encode : Int) = 0 := by omega
  rw [issued, List.zip_cons_cons, List.filterMap_cons_some (b := ((ref.encode : Int), v))]
  · rfl
  · exact if_neg nonzero

theorem Issues.get? (h : Issues t hs vs u) (he : (n, v) ∈ issued hs vs) :
    ∃ ref, VarRef.decode n = .ok ref ∧ VarRef.slotOf n = ref.slot ∧
      t.nextSlot ≤ ref.slot ∧ u.get? ref.slot = some v := by
  induction h with
  | done => simp at he
  | nothing _ ih => exact ih (by simpa using he)
  | lost t w _ ih =>
    obtain ⟨ref, hd, hs, hl, hg⟩ := ih (by simpa using he)
    exact ⟨ref, hd, hs, Nat.le_trans (grows_insert t w).nextSlot_le hl, hg⟩
  | handle t w ref slot fits rest ih =>
    rw [issued_cons_encode, List.mem_cons, Prod.mk.injEq] at he
    obtain ⟨rfl, rfl⟩ | he := he
    · refine ⟨ref, VarRef.decode_encode fits, VarRef.slotOf_encode fits, slot ▸ Nat.le_refl _, ?_⟩
      rw [slot]
      exact rest.grows.get? (get?_insert (slot ▸ fits.2) v)
    · obtain ⟨ref, hd, hs, hl, hg⟩ := ih he
      exact ⟨ref, hd, hs, Nat.le_trans (grows_insert t w).nextSlot_le hl, hg⟩

theorem Issues.map_issued (h : Issues t hs vs u) : (issued hs vs).map Prod.fst = nonzero hs := by
  induction h with
  | done => rfl
  | nothing _ ih => simpa using ih
  | lost _ _ _ ih => simpa using ih
  | handle t w ref slot fits rest ih => simpa using ih

theorem Issues.ascending (h : Issues t hs vs u) :
    (nonzero hs).Pairwise (VarRef.slotOf · < VarRef.slotOf ·) ∧
      ∀ n ∈ nonzero hs, t.nextSlot ≤ VarRef.slotOf n ∧ VarRef.slotOf n < u.nextSlot := by
  induction h with
  | done => simp
  | nothing _ ih => simpa using ih
  | lost t w _ ih =>
    have hl := (grows_insert t w).nextSlot_le
    refine ⟨by simpa using ih.1, fun n hn => ?_⟩
    have hn := ih.2 n (by simpa using hn)
    omega
  | handle t w ref slot fits rest ih =>
    have hi := nextSlot_insert (slot ▸ fits.2) w
    have hu := rest.grows.nextSlot_le
    have hs := VarRef.slotOf_encode fits
    rw [nonzero_cons_encode, List.pairwise_cons, List.forall_mem_cons]
    refine ⟨⟨fun n hn => ?_, ih.1⟩, by omega, fun n hn => ?_⟩
    · have hn := ih.2 n hn
      omega
    · have hn := ih.2 n hn
      omega

theorem Issues.range (h : Issues t hs vs u) :
    ∀ n ∈ nonzero hs, 1 ≤ n ∧ n ≤ VarRef.maxHandle := by
  induction h with
  | done => simp
  | nothing _ ih => simpa using ih
  | lost _ _ _ ih => simpa using ih
  | handle t w ref slot fits rest ih =>
    have hp := ref.encode_pos
    have hm := VarRef.encode_le fits
    rw [nonzero_cons_encode, List.forall_mem_cons]
    exact ⟨by omega, ih⟩

/-- Numbers shown to a client, for subjects that the rows may turn out not to
be about: then all of them are zero. -/
def Shows (t : ValueTable) (hs : List Int) (vs : List (Option Value)) (u : ValueTable) : Prop :=
  ∃ ws, t.Issues hs ws u ∧ issued hs vs = issued hs ws

theorem Issues.shows (h : Issues t hs vs u) : Shows t hs vs u := ⟨vs, h, rfl⟩

theorem issued_of_zero (hz : ∀ n ∈ hs, n = 0) : issued hs vs = [] := by
  refine List.filterMap_eq_nil_iff.mpr fun e he => ?_
  rw [if_pos (hz e.1 (List.of_mem_zip he).1)]

theorem shows_of_zero (t : ValueTable) (hz : ∀ n ∈ hs, n = 0) : Shows t hs vs t := by
  refine ⟨hs.map fun _ => none, ?_, (issued_of_zero hz).trans (issued_of_zero hz).symm⟩
  have zeros : (hs.map fun _ => 0) = hs :=
    (List.map_congr_left fun n hn => (hz n hn).symm).trans (List.map_id' hs)
  simpa only [zeros] using t.issues_blank hs

-- ---------------------------------------------------------------------------
-- Rows
-- ---------------------------------------------------------------------------

def numbers (rows : List Variable) : List Int := rows.map fun row => (row.handle : Int)

theorem Issues.handleFor {t : ValueTable} {v : Value}
    (rest : Issues (t.handleFor scope frame v).2 hs vs u) :
    Issues t ((t.handleFor scope frame v).1 :: hs) (some v :: vs) u := by
  unfold ValueTable.handleFor at rest ⊢
  by_cases structured : v.isStructured
  · simp only [if_pos structured] at rest ⊢
    by_cases room : t.nextSlot ≤ VarRef.maxSlot
    · by_cases fits : (VarRef.mk scope frame t.nextSlot).Fits
      · have made : VarRef.make? scope frame t.nextSlot = some ⟨scope, frame, t.nextSlot⟩ :=
          if_pos fits
        simp only [insert_of_le room, Option.bind_some, made] at rest ⊢
        exact .handle t v _ rfl fits (by rwa [insert_of_le room])
      · have made : VarRef.make? scope frame t.nextSlot = none := if_neg fits
        simp only [insert_of_le room, Option.bind_some, made] at rest ⊢
        exact .lost t v (by rwa [insert_of_le room])
    · simp only [insert_of_gt room, Option.bind_none] at rest ⊢
      exact .nothing rest
  · simp only [if_neg structured] at rest ⊢
    exact .nothing rest

theorem Issues.row {t : ValueTable} {v : Value}
    (rest : Issues (t.row scope frame name v).2 hs vs u) :
    Issues t ((t.row scope frame name v).1.handle :: hs) (some v :: vs) u := rest.handleFor

theorem issues_rows (t : ValueTable) (scope : ScopeKind) (frame : Nat)
    (named : List (String × Value)) :
    Issues t (numbers (t.rows scope frame named).1) (named.map fun e => some e.2)
      (t.rows scope frame named).2 := by
  induction named generalizing t with
  | nil => exact .done
  | cons e named ih => exact (ih (t.row scope frame e.1 e.2).2).row

theorem issues_watchRows (t : ValueTable) (scope : ScopeKind) (frame : Nat)
    (watches : List Watch) :
    Issues t (numbers (t.watchRows scope frame watches).1) (watches.map Watch.value)
      (t.watchRows scope frame watches).2 := by
  induction watches generalizing t with
  | nil => exact .done
  | cons w watches ih =>
    obtain ⟨name, value⟩ := w
    cases value with
    | none => exact .nothing (ih t)
    | some v => exact (ih (t.row scope frame name v).2).row

/-- What the rows of an expanded value are about: the head rows about no value
of their own, the others about its children. -/
def subjects (v : Value) : List (Option Value) :=
  ((headRows v).map fun _ => none) ++ (children v).map fun e => some e.2

theorem handle_headRows (v : Value) : ∀ row ∈ headRows v, row.handle = 0 := by
  cases v <;> simp [headRows, valueRow, Variable.leaf]
  all_goals split <;> simp

theorem issues_expand (t : ValueTable) (scope : ScopeKind) (frame : Nat) (v : Value) :
    Issues t (numbers (t.expand scope frame v).1) (subjects v) (t.expand scope frame v).2 := by
  have heads : numbers (headRows v) = (headRows v).map fun _ => 0 :=
    List.map_congr_left fun row hr => by simp [handle_headRows v row hr]
  have head : Issues t (numbers (headRows v)) ((headRows v).map fun _ => none) t := by
    rw [heads]
    exact t.issues_blank (headRows v)
  have all := head.append (t.issues_rows scope frame (children v))
  simpa [numbers, subjects, expand] using all

end ValueTable

end DebugAdapter
