import Mathlib.Data.List.Nodup
import UnitOfWork.Json.Basic

/-!
# Members of objects

Looking up a member of an object, also after others were put (`get?_putAll`).
-/

namespace UnitOfWork.Json.Members

variable {name : Text} {value : Json} {members : Members}

/-- The names of the members, in order. -/
def names (members : Members) : List Text :=
  members.map (·.1)

/-- A name is not found if no member has it. -/
theorem get?_eq_none_iff : members.get? name = none ↔ name ∉ members.names := by
  induction members with
  | nil => exact iff_of_true rfl List.not_mem_nil
  | cons m members ih =>
    rw [get?, names, List.map_cons, List.mem_cons, not_or, ← names]
    by_cases hname : m.1 = name
    · simp [hname]
    · rw [if_neg hname, ih]
      exact (and_iff_right (Ne.symm hname)).symm

/-- A member with a name of its own is the one that is found. -/
theorem get?_eq_some_iff (hnames : members.names.Nodup) :
    members.get? name = some value ↔ (name, value) ∈ members := by
  induction members with
  | nil => exact iff_of_false nofun List.not_mem_nil
  | cons m members ih =>
    rw [names, List.map_cons, List.nodup_cons] at hnames
    rw [get?, List.mem_cons, Prod.ext_iff]
    by_cases hname : m.1 = name
    · have hother : (name, value) ∉ members := fun hmem =>
        hnames.1 (hname ▸ List.mem_map_of_mem (f := (·.1)) hmem)
      simp [hname, hother, eq_comm]
    · simp [hname, Ne.symm hname, ih hnames.2]

/-- The order of members with names of their own does not matter. -/
theorem get?_eq_of_perm {members' : Members} (hperm : members.Perm members')
    (hnames : members.names.Nodup) :
    members.get? name = members'.get? name := by
  have hnames' : members'.names.Nodup := (hperm.map Prod.fst).nodup_iff.1 hnames
  refine Option.ext fun value => ?_
  rw [get?_eq_some_iff hnames, get?_eq_some_iff hnames', hperm.mem_iff]

/-! ## Entries that may be absent -/

/-- Of entries with names of their own each is found as it was given, or is absent. -/
theorem get?_present {entries : List (Text × Option Json)} {entry : Option Json}
    (hnames : (entries.map (·.1)).Nodup) (hentry : (name, entry) ∈ entries) :
    get? name (entries.filterMap fun (name, value) => value.map (name, ·)) = entry := by
  have hsame {entry' : Option Json} (h : (name, entry') ∈ entries) : entry' = entry :=
    congrArg Prod.snd (List.inj_on_of_nodup_map hnames h hentry rfl)
  have hmem {value : Json} :
      (name, value) ∈ entries.filterMap (fun (name, value) => value.map (name, ·))
        ↔ entry = some value := by
    simp only [List.mem_filterMap, Option.map_eq_some_iff, Prod.mk.injEq, Prod.exists]
    constructor
    · rintro ⟨_, entry', hentry', _, rfl, rfl, rfl⟩
      exact (hsame hentry').symm
    · rintro rfl
      exact ⟨name, some value, hentry, value, rfl, rfl, rfl⟩
  cases entry with
  | none =>
    refine get?_eq_none_iff.2 fun hname => ?_
    obtain ⟨⟨_, value⟩, hvalue, rfl⟩ := List.mem_map.1 hname
    cases hmem.1 hvalue
  | some value =>
    refine (get?_eq_some_iff ?_).2 (hmem.2 rfl)
    rw [names, List.Nodup, List.pairwise_map, List.pairwise_filterMap]
    refine (List.pairwise_map.1 hnames).imp fun hne m hm m' hm' => ?_
    obtain ⟨_, -, rfl⟩ := Option.map_eq_some_iff.1 hm
    obtain ⟨_, -, rfl⟩ := Option.map_eq_some_iff.1 hm'
    exact hne

/-! ## Putting members -/

variable {more : Members}

/-- Members are put one after another. -/
theorem putAll_cons (members more : Members) (m : Text × Json) :
    putAll members (m :: more) = putAll (put m.1 m.2 members) more := by
  rw [putAll, List.foldl_cons]
  rfl

/-- A new name goes behind the others. -/
theorem put_of_not_mem (h : name ∉ members.names) :
    put name value members = members ++ [(name, value)] := by
  induction members with
  | nil => rfl
  | cons m members ih =>
    rw [names, List.map_cons, List.mem_cons, not_or] at h
    rw [put, if_neg (Ne.symm h.1), ih h.2, List.cons_append]

/-- Putting a member adds its name, unless it is there. -/
theorem names_put (name : Text) (value : Json) (members : Members) :
    (put name value members).names
      = if name ∈ members.names then members.names else members.names ++ [name] := by
  split
  next h =>
    induction members with
    | nil => cases h
    | cons m members ih =>
      rw [put]
      split
      next => rfl
      next hne =>
        have hmem : name ∈ names members := (List.mem_cons.1 h).resolve_left (Ne.symm hne)
        exact congrArg (m.1 :: ·) (ih hmem)
  next h => rw [put_of_not_mem h, names, List.map_append]; rfl

/-- Putting a member keeps names different. -/
theorem nodup_names_put (h : members.names.Nodup) : (put name value members).names.Nodup := by
  rw [names_put]
  split
  next => exact h
  next hname =>
    rw [← List.concat_eq_append]
    exact h.concat hname

/-- Putting members keeps names different. -/
theorem nodup_names_putAll (h : members.names.Nodup) : (putAll members more).names.Nodup := by
  induction more generalizing members with
  | nil => exact h
  | cons m more ih =>
    rw [putAll_cons]
    exact ih (nodup_names_put h)

/-- Members with new names of their own are put at the end. -/
theorem putAll_eq_append (h : (members.names ++ more.names).Nodup) :
    putAll members more = members ++ more := by
  induction more generalizing members with
  | nil => rw [List.append_nil]; rfl
  | cons m more ih =>
    rw [names, names, List.map_cons] at h
    have hname : m.1 ∉ members.names := fun hmem =>
      (List.nodup_append.1 h).2.2 _ hmem _ List.mem_cons_self rfl
    rw [putAll_cons, put_of_not_mem hname, ih, List.append_assoc, List.singleton_append]
    rw [names, names, List.map_append, List.append_assoc]
    exact h

/-- A member that was put is found under its name, and no other is lost. -/
theorem get?_put (name name' : Text) (value : Json) (members : Members) :
    (put name value members).get? name' = if name = name' then some value else members.get? name' := by
  induction members with
  | nil => rfl
  | cons m members ih =>
    rw [put]
    split
    next hname =>
      rw [get?, get?, hname]
      split
      next => rfl
      next => rfl
    next hne =>
      rw [get?, get?, ih]
      split
      next hm => rw [if_neg fun hname => hne (hm.trans hname.symm)]
      next => rfl

/-- What was put last is found. -/
theorem get?_putAll (hnames : more.names.Nodup) (members : Members) :
    (putAll members more).get? name = (more.get? name).or (members.get? name) := by
  induction more generalizing members with
  | nil => rfl
  | cons m more ih =>
    rw [names, List.map_cons, List.nodup_cons] at hnames
    rw [putAll_cons, ih hnames.2, get?_put, get?]
    split
    next hname =>
      have hnone : get? name more = none := get?_eq_none_iff.2 (hname ▸ hnames.1)
      rw [hnone]
      rfl
    next => rfl

/-- What is there after a member was put has its value or was there before. -/
theorem mem_of_mem_put {m : Text × Json} (h : m ∈ put name value members) :
    m.2 = value ∨ m ∈ members := by
  induction members with
  | nil => exact .inl (congrArg Prod.snd (List.mem_singleton.1 h))
  | cons m' members ih =>
    rw [put] at h
    split at h
    next =>
      rcases List.mem_cons.1 h with rfl | h
      · exact .inl rfl
      · exact .inr (List.mem_cons_of_mem _ h)
    next =>
      rcases List.mem_cons.1 h with rfl | h
      · exact .inr List.mem_cons_self
      · exact (ih h).imp_right (List.mem_cons_of_mem _)

/-- What holds of the values before and of those that are put holds of all. -/
theorem forall_mem_putAll {p : Json → Prop} (hmembers : ∀ m ∈ members, p m.2)
    (hmore : ∀ m ∈ more, p m.2) :
    ∀ m ∈ putAll members more, p m.2 := by
  induction more generalizing members with
  | nil => exact hmembers
  | cons m more ih =>
    obtain ⟨hm, hmore⟩ := List.forall_mem_cons.1 hmore
    rw [putAll_cons]
    refine ih (fun m' hm' => ?_) hmore
    rcases mem_of_mem_put hm' with hvalue | hmem
    · rwa [hvalue]
    · exact hmembers m' hmem

end UnitOfWork.Json.Members
