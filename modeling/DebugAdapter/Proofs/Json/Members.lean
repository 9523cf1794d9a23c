import DebugAdapter.Json.Basic

/-!
# Members of objects

Looking a member up in an object finds the last one that was given under its
name, in whatever order the members are kept. Members that are sorted already
stay as they are, and none is lost if each has a name of its own.
-/

namespace DebugAdapter

namespace Json

@[simp] theorem lookup_nil (key : String) : lookup key [] = none := rfl

theorem lookup_cons (key : String) (m : String × Json) (members : List (String × Json)) :
    lookup key (m :: members) = if m.1 = key then some m.2 else lookup key members := by
  by_cases h : m.1 = key <;> simp [lookup, h]

theorem lookup_insertMember (key name : String) (value : Json) (members : List (String × Json)) :
    lookup key (insertMember name value members) =
      if name = key then some value else lookup key members := by
  induction members with
  | nil => exact lookup_cons ..
  | cons m members ih =>
    unfold insertMember
    split
    · exact lookup_cons ..
    split
    · rename_i same
      rw [lookup_cons, lookup_cons, ← same]
      split <;> rfl
    · rename_i other
      rw [lookup_cons, lookup_cons, ih]
      by_cases hm : m.1 = key
      · rw [if_pos hm, if_pos hm, if_neg fun hn => other (hn.trans hm.symm)]
      · rw [if_neg hm, if_neg hm]

theorem lookup_append (key : String) (a b : List (String × Json)) :
    lookup key (a ++ b) = (lookup key a).or (lookup key b) := by
  unfold lookup
  rw [List.find?_append]
  cases a.find? fun m => m.1 = key <;> rfl

theorem lookup_foldl (key : String) (members sorted : List (String × Json)) :
    lookup key (members.foldl (fun sorted m => insertMember m.1 m.2 sorted) sorted) =
      (lookup key members.reverse).or (lookup key sorted) := by
  induction members generalizing sorted with
  | nil => rfl
  | cons m members ih =>
    rw [List.foldl_cons, ih, lookup_insertMember, List.reverse_cons, lookup_append, lookup_cons,
      Option.or_assoc]
    congr 1
    split <;> rfl

theorem get?_object (members : List (String × Json)) (key : String) :
    (object members).get? key = lookup key members.reverse :=
  (lookup_foldl key members []).trans (Option.or_none)

theorem insertMember_of_greater {name : String} {members : List (String × Json)}
    (greater : ∀ m ∈ members, m.1 < name) (value : Json) :
    insertMember name value members = members ++ [(name, value)] := by
  induction members with
  | nil => rfl
  | cons m members ih =>
    have less : m.1 < name := greater m List.mem_cons_self
    have other : name ≠ m.1 := fun same => String.lt_irrefl m.1 (same ▸ less)
    rw [insertMember, if_neg (String.lt_asymm less), if_neg other,
      ih fun k mem => greater k (List.mem_cons_of_mem m mem)]
    rfl

theorem object_of_sorted {members : List (String × Json)}
    (sorted : members.Pairwise fun a b => a.1 < b.1) : object members = .obj members := by
  suffices kept : ∀ before, (before ++ members).Pairwise (fun a b => a.1 < b.1) →
      members.foldl (fun sorted m => insertMember m.1 m.2 sorted) before = before ++ members by
    exact congrArg Json.obj (kept [] sorted)
  clear sorted
  induction members with
  | nil => exact fun before _ => (List.append_nil before).symm
  | cons m members ih =>
    intro before sorted
    have greater : ∀ k ∈ before, k.1 < m.1 := fun k mem =>
      (List.pairwise_append.mp sorted).2.2 k mem m List.mem_cons_self
    rw [List.append_cons] at sorted ⊢
    rw [List.foldl_cons, insertMember_of_greater greater]
    exact ih _ sorted

theorem mem_insertMember_self (name : String) (value : Json) (members : List (String × Json)) :
    (name, value) ∈ insertMember name value members := by
  induction members with
  | nil => exact List.mem_cons_self
  | cons m members ih =>
    unfold insertMember
    split
    · exact List.mem_cons_self
    split
    · exact List.mem_cons_self
    · exact List.mem_cons_of_mem m ih

theorem mem_insertMember_of_ne {m : String × Json} {name : String} {members : List (String × Json)}
    (mem : m ∈ members) (other : m.1 ≠ name) (value : Json) :
    m ∈ insertMember name value members := by
  induction members with
  | nil => cases mem
  | cons k members ih =>
    unfold insertMember
    split
    · exact List.mem_cons_of_mem _ mem
    split
    · rename_i same
      cases mem with
      | head => exact absurd same.symm other
      | tail _ mem => exact List.mem_cons_of_mem _ mem
    · cases mem with
      | head => exact List.mem_cons_self
      | tail _ mem => exact List.mem_cons_of_mem k (ih mem)

theorem mem_object {members sorted : List (String × Json)} (names : (members.map Prod.fst).Nodup)
    (h : object members = .obj sorted) {m : String × Json} (mem : m ∈ members) : m ∈ sorted := by
  suffices kept : ∀ before, m ∈ members ∨ m ∈ before ∧ m.1 ∉ members.map Prod.fst →
      m ∈ members.foldl (fun sorted m => insertMember m.1 m.2 sorted) before by
    exact Json.obj.inj h ▸ kept [] (.inl mem)
  clear h mem
  induction members with
  | nil => exact fun before mem => mem.elim (fun mem => absurd mem List.not_mem_nil) And.left
  | cons k members ih =>
    obtain ⟨here, names⟩ := List.nodup_cons.mp names
    intro before mem
    refine ih names _ ?_
    obtain mem | ⟨mem, new⟩ := mem
    · cases mem with
      | head => exact .inr ⟨mem_insertMember_self .., here⟩
      | tail _ mem => exact .inl mem
    · rw [List.map_cons, List.mem_cons, not_or] at new
      obtain ⟨other, new⟩ := new
      exact .inr ⟨mem_insertMember_of_ne mem other _, new⟩

end Json

end DebugAdapter
