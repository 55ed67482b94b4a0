import Mathlib.Data.List.Sort
import UnitOfWork.Proofs.Json.Members

/-!
# The order of members

Members are written in the order of their names: list indices ascending, and before all other names.
Putting members into that order keeps every one of them (`ordered_perm`), leaves none out of place
(`inOrder_ordered`), and changes nothing where none is (`ordered_eq`).
-/

namespace UnitOfWork.Json.Members

variable {name : Text} {members : Members} {i : Nat}

/-- A name may be written before another: an index before greater ones, and every name before what
is none. -/
def Precedes (a b : Text) : Prop :=
  ∀ j, index? b = some j → ∃ i, index? a = some i ∧ i < j

instance (a b : Text) : Decidable (Precedes a b) :=
  decidable_of_iff ((index? b).all fun j => (index? a).any (· < j)) <| by
    simp [Precedes, Option.all_eq_true, Option.any_eq_true]

/-- The members are in the order in which they are written. -/
def InOrder (members : Members) : Prop :=
  members.names.Pairwise Precedes

instance (members : Members) : Decidable members.InOrder :=
  inferInstanceAs (Decidable (members.names.Pairwise Precedes))

/-- A name that is an index is its decimal numeral. -/
theorem eq_ofNat_of_index? (h : index? name = some i) : name = Text.ofNat i := by
  rw [index?, Option.ite_none_left_eq_some] at h
  obtain ⟨⟨hname, -⟩, hi⟩ := Option.ite_none_right_eq_some.1 h.2
  rw [← Option.some.inj hi]
  exact hname.symm

/-- The members under indices, each with its index. -/
def indexed (members : Members) : List (Nat × Text × Json) :=
  members.filterMap fun m => (index? m.1).map fun i => (i, m)

/-- The indexed members are those whose names are indices. -/
theorem mem_indexed {e : Nat × Text × Json} :
    e ∈ indexed members ↔ e.2 ∈ members ∧ index? e.2.1 = some e.1 := by
  rw [indexed, List.mem_filterMap]
  constructor
  · rintro ⟨m, hm, he⟩
    obtain ⟨i, hi, rfl⟩ := Option.map_eq_some_iff.1 he
    exact ⟨hm, hi⟩
  · rintro ⟨hm, hi⟩
    exact ⟨e.2, hm, by rw [hi]; rfl⟩

/-- The indexed members stand as they did among all. -/
theorem map_indexed (members : Members) :
    (indexed members).map (·.2) = members.filter fun m => (index? m.1).isSome := by
  induction members with
  | nil => rfl
  | cons m members ih =>
    rw [indexed] at ih ⊢
    cases hm : index? m.1 <;> simp [hm, ih]

/-- An indexed member is inserted in the order of indices. -/
theorem insertIndex_eq (i : Nat) (m : Text × Json) (l : List (Nat × Text × Json)) :
    insertIndex i m l = l.orderedInsert (fun a b => a.1 < b.1) (i, m) := by
  induction l with
  | nil => rfl
  | cons e l ih =>
    rw [insertIndex, List.orderedInsert, ih]

/-- Members in order are the indexed ones, sorted, and then the others as they stood. -/
theorem ordered_eq_append (members : Members) :
    ordered members = ((indexed members).insertionSort fun a b => a.1 < b.1).map (·.2)
      ++ members.filter fun m => (index? m.1).isNone := by
  have hinsert : (fun (e : Nat × Text × Json) done => insertIndex e.1 e.2 done)
      = List.orderedInsert fun a b => a.1 < b.1 :=
    funext fun e => funext fun l => insertIndex_eq e.1 e.2 l
  rw [List.insertionSort, ← hinsert]
  rfl

/-- Every member stays. -/
theorem ordered_perm (members : Members) : (ordered members).Perm members := by
  rw [ordered_eq_append]
  have hperm := List.perm_insertionSort (fun a b : Nat × Text × Json => a.1 < b.1) (indexed members)
  have hsorted := hperm.map (·.2)
  rw [map_indexed] at hsorted
  refine (hsorted.append_right _).trans ?_
  have := List.filter_append_perm (fun m : Text × Json => (index? m.1).isSome) members
  simpa using this

/-- Members with names of their own have indices of their own. -/
theorem nodup_indexed (h : members.names.Nodup) : (indexed members).Pairwise fun a b => a.1 ≠ b.1 := by
  rw [indexed, List.pairwise_filterMap]
  refine (List.pairwise_map.1 h).imp fun hne e he e' he' heq => hne ?_
  obtain ⟨i, hi, rfl⟩ := Option.map_eq_some_iff.1 he
  obtain ⟨j, hj, rfl⟩ := Option.map_eq_some_iff.1 he'
  obtain rfl : i = j := heq
  rw [eq_ofNat_of_index? hi, eq_ofNat_of_index? hj]

/-- A new index is inserted where it keeps the order strict. -/
theorem pairwise_orderedInsert {e : Nat × Text × Json} {l : List (Nat × Text × Json)}
    (hl : l.Pairwise fun a b => a.1 < b.1) (he : ∀ a ∈ l, e.1 ≠ a.1) :
    (l.orderedInsert (fun a b => a.1 < b.1) e).Pairwise fun a b => a.1 < b.1 := by
  induction l with
  | nil => exact List.pairwise_singleton _ _
  | cons a l ih =>
    obtain ⟨hea, hel⟩ := List.forall_mem_cons.1 he
    obtain ⟨hal, hl⟩ := List.pairwise_cons.1 hl
    rw [List.orderedInsert]
    split
    next hlt => exact .cons (List.forall_mem_cons.2 ⟨hlt, fun b hb => hlt.trans (hal b hb)⟩) (.cons hal hl)
    next hge =>
      refine .cons (fun b hb => ?_) (ih hl hel)
      rcases (List.mem_orderedInsert _).1 hb with rfl | hb
      · omega
      · exact hal b hb

/-- Different indices are sorted strictly. -/
theorem pairwise_insertionSort {l : List (Nat × Text × Json)} (h : l.Pairwise fun a b => a.1 ≠ b.1) :
    (l.insertionSort fun a b => a.1 < b.1).Pairwise fun a b => a.1 < b.1 := by
  induction h with
  | nil => exact .nil
  | cons he _ ih => exact pairwise_orderedInsert ih fun a ha => he a ((List.mem_insertionSort _).1 ha)

/-- No member is out of place. -/
theorem inOrder_ordered (h : members.names.Nodup) : (ordered members).InOrder := by
  rw [InOrder, names, List.pairwise_map, ordered_eq_append, List.pairwise_append, List.pairwise_map]
  have hnone {m : Text × Json} {j : Nat} (hm : m ∈ members.filter fun m => (index? m.1).isNone) :
      index? m.1 ≠ some j := by
    intro hj
    have := (List.mem_filter.1 hm).2
    rw [hj] at this
    cases this
  have hindex {e : Nat × Text × Json} (he : e ∈ (indexed members).insertionSort fun a b => a.1 < b.1) :
      index? e.2.1 = some e.1 :=
    (mem_indexed.1 ((List.mem_insertionSort _).1 he)).2
  refine ⟨?_, ?_, ?_⟩
  · refine (pairwise_insertionSort (nodup_indexed h)).imp_of_mem fun ha hb hlt j hj => ?_
    rw [hindex hb, Option.some.injEq] at hj
    exact ⟨_, hindex ha, hj ▸ hlt⟩
  · exact List.pairwise_of_forall_mem_list fun a _ b hb j hj => absurd hj (hnone hb)
  · exact fun a _ b hb j hj => absurd hj (hnone hb)

/-- Members that are in order begin with those under indices. -/
theorem filter_append_filter (h : members.InOrder) :
    (members.filter fun m => (index? m.1).isSome) ++ (members.filter fun m => (index? m.1).isNone)
      = members := by
  induction members with
  | nil => rfl
  | cons m members ih =>
    rw [InOrder, names, List.map_cons, List.pairwise_cons] at h
    obtain ⟨hm, h⟩ := h
    cases hindex : index? m.1 with
    | some i =>
      rw [List.filter_cons_of_pos (by simp [hindex]), List.filter_cons_of_neg (by simp [hindex]),
        List.cons_append, ih h]
    | none =>
      -- No index comes after a name that is none.
      have hnone : ∀ m' ∈ m :: members, index? m'.1 = none := by
        refine List.forall_mem_cons.2 ⟨hindex, fun m' hm' => ?_⟩
        rw [Option.eq_none_iff_forall_ne_some]
        intro j hj
        obtain ⟨i, hi, -⟩ := hm m'.1 (List.mem_map_of_mem hm') j hj
        rw [hindex] at hi
        cases hi
      rw [List.filter_eq_nil_iff.2 fun m' hm' => by simp [hnone m' hm'],
        List.filter_eq_self.2 fun m' hm' => by simp [hnone m' hm'], List.nil_append]

/-- Members that are in order stay as they are. -/
theorem ordered_eq (h : members.InOrder) : ordered members = members := by
  have hsorted : (indexed members).Pairwise fun a b => a.1 < b.1 := by
    rw [indexed, List.pairwise_filterMap]
    refine (List.pairwise_map.1 h).imp fun hprecedes e he e' he' => ?_
    obtain ⟨i, hi, rfl⟩ := Option.map_eq_some_iff.1 he
    obtain ⟨j, hj, rfl⟩ := Option.map_eq_some_iff.1 he'
    obtain ⟨i', hi', hlt⟩ := hprecedes j hj
    rw [hi, Option.some.injEq] at hi'
    exact hi' ▸ hlt
  rw [ordered_eq_append, hsorted.insertionSort_eq, map_indexed, filter_append_filter h]

end UnitOfWork.Json.Members
