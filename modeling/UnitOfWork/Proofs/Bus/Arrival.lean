import UnitOfWork.Proofs.Bus.Registrations
import UnitOfWork.Proofs.Text.Parts

/-!
# The order in which handlers came

`Arrivals` notes when each key and each handler came that is registered. That is no part of the
subscriptions, so it can say what their order means: `Due` lists what a publication is for by what
is registered and when it came, and `Reachable.due` shows that a publication calls just that.
-/

namespace UnitOfWork

variable {H : Type}

namespace Registration

/-- What a handler is registered under. -/
def under (r : Registration H) : Interest × Text :=
  (r.interest, r.key)

/-- A publication on a channel is for what is registered under the channel, under a pattern in a
wildcard that the channel goes on from the point of, or under the channel as a pattern. -/
def Hears (channel : Text) (r : Registration H) : Prop :=
  match r.interest with
  | .channel => r.key = channel
  | .pattern =>
    if Subscriptions.wildcard <:+ r.key then r.key.dropLast <+: channel else r.key = channel

/-- Whether a registration hears a channel is computed as it is defined. -/
theorem hears_iff {channel : Text} {r : Registration H} : r.hears channel = true ↔ r.Hears channel := by
  obtain ⟨interest, key, handler⟩ := r
  cases interest with
  | channel => exact decide_eq_true_iff
  | pattern =>
    simp only [hears, Hears, Subscriptions.isMatch, ← Text.endsWith_iff, ← List.dropLast_eq_take]
    split
    · exact Text.startsWith_iff
    · exact decide_eq_true_iff

end Registration

/-- When the keys and the handlers came that are registered. -/
structure Arrivals (H : Type) where
  now : Nat := 0
  key : Interest × Text → Nat := fun _ => 0
  handler : Registration H → Nat := fun _ => 0

/-- A registration goes before another: channels before patterns, and then by when the key came, and
under one key by when the handler came. -/
def Arrivals.Before (a : Arrivals H) (r r' : Registration H) : Prop :=
  r.interest = .channel ∧ r'.interest = .pattern
    ∨ r.interest = r'.interest ∧ a.key r.under < a.key r'.under
    ∨ r.under = r'.under ∧ a.handler r < a.handler r'

/-- Of two registrations at most one comes before the other. -/
theorem Arrivals.Before.asymm {a : Arrivals H} {r r' : Registration H} (h : a.Before r r') :
    ¬ a.Before r' r := by
  grind [Arrivals.Before, Registration.under]

namespace Subscriptions

/-- A handler stands in the set under its key. -/
def Holds (s : Subscriptions H) (r : Registration H) : Prop :=
  ∃ set, (s.table r.interest).get? r.key = some set ∧ r.handler ∈ s.handlers set

/-- What a publication on a channel is for: everything registered that hears the channel, once, in
the order in which it came. -/
structure Due (s : Subscriptions H) (a : Arrivals H) (channel : Text) (calls : List (Registration H)) :
    Prop where
  mem_iff : ∀ r, r ∈ calls ↔ s.Holds r ∧ r.Hears channel
  once : calls.Nodup
  ordered : calls.Pairwise a.Before

/-- There is one list of what a publication is for. -/
theorem Due.unique {s : Subscriptions H} {a : Arrivals H} {channel : Text}
    {calls calls' : List (Registration H)} (h : s.Due a channel calls) (h' : s.Due a channel calls') :
    calls = calls' := by
  have hperm : calls.Perm calls' := (List.perm_ext_iff_of_nodup h.once h'.once).2 fun r =>
    (h.mem_iff r).trans (h'.mem_iff r).symm
  exact hperm.eq_of_pairwise (fun r r' _ _ hlt hgt => absurd hgt hlt.asymm) h.ordered h'.ordered

/-- Keys and handlers stand in the order in which they came. -/
structure Dated (s : Subscriptions H) (a : Arrivals H) : Prop where
  keys : ∀ i, (s.table i).Pairwise fun e e' => a.key (i, e.1) < a.key (i, e'.1)
  handlers : ∀ i, ∀ e ∈ s.table i, (s.handlers e.2).Pairwise fun h h' =>
    a.handler ⟨i, e.1, h⟩ < a.handler ⟨i, e.1, h'⟩
  keys_lt : ∀ i, ∀ e ∈ s.table i, a.key (i, e.1) < a.now
  handlers_lt : ∀ i, ∀ e ∈ s.table i, ∀ h ∈ s.handlers e.2, a.handler ⟨i, e.1, h⟩ < a.now

/-! ## What a publication calls -/

section

variable {s : Subscriptions H} {a : Arrivals H} {subs : List (Subscription H)}

/-- A sound bus holds the registrations that it lists. -/
theorem Sound.holds_iff (h : s.Sound subs) {r : Registration H} : s.Holds r ↔ r ∈ s.registrations := by
  rw [mem_registrations]
  refine exists_congr fun set => and_congr_left fun _ => ?_
  rw [mem_places_iff]
  constructor
  · exact KeyTable.mem_of_get?
  · intro hmem
    cases hget : (s.table r.interest).get? r.key with
    | none => exact absurd hmem (KeyTable.notMem_of_get? hget set)
    | some other =>
      have hother := (s.mem_places_iff r.interest r.key other).2 (KeyTable.mem_of_get? hget)
      have hset := (s.mem_places_iff r.interest r.key set).2 hmem
      exact congrArg some (congrArg Place.set (h.eq_of_key hother hset rfl rfl))

/-- A sound bus lists every registration once. -/
theorem Sound.nodup_registrations (h : s.Sound subs) : s.registrations.Nodup := by
  refine List.nodup_flatMap.2 ⟨fun p _ => (h.distinct p.set).map fun _ _ heq => ?_, ?_⟩
  · exact congrArg Registration.handler heq
  · refine (List.pairwise_map.1 h.keys_nodup).imp fun {p q} hne r hp hq => hne ?_
    obtain ⟨_, -, rfl⟩ := List.mem_map.1 hp
    obtain ⟨_, -, heq⟩ := List.mem_map.1 hq
    exact Prod.ext (congrArg Registration.interest heq).symm (congrArg Registration.key heq).symm

/-- The keys stand in their order, channels before patterns. -/
theorem Dated.places (h : s.Dated a) :
    s.places.Pairwise fun p q => p.interest = .channel ∧ q.interest = .pattern
      ∨ p.interest = q.interest ∧ a.key (p.interest, p.key) < a.key (q.interest, q.key) := by
  refine List.pairwise_append.2 ⟨?_, ?_, fun p hp q hq => .inl ?_⟩
  · exact List.pairwise_map.2 ((h.keys .channel).imp fun hlt => .inr ⟨rfl, hlt⟩)
  · exact List.pairwise_map.2 ((h.keys .pattern).imp fun hlt => .inr ⟨rfl, hlt⟩)
  · obtain ⟨_, -, rfl⟩ := List.mem_map.1 hp
    obtain ⟨_, -, rfl⟩ := List.mem_map.1 hq
    exact ⟨rfl, rfl⟩

/-- What is registered stands in its order. -/
theorem Dated.registrations (h : s.Dated a) : s.registrations.Pairwise a.Before := by
  refine List.pairwise_flatMap.2 ⟨fun p hp => List.pairwise_map.2 ?_,
    h.places.imp fun hpq r hr r' hr' => ?_⟩
  · have hmem := (s.mem_places_iff p.interest p.key p.set).1 hp
    exact (h.handlers p.interest _ hmem).imp fun hlt => .inr (.inr ⟨rfl, hlt⟩)
  · obtain ⟨_, -, rfl⟩ := List.mem_map.1 hr
    obtain ⟨_, -, rfl⟩ := List.mem_map.1 hr'
    exact hpq.imp_right .inl

/-- A publication calls what it is for. -/
theorem Dated.due (h : s.Dated a) (hsound : s.Sound subs) (channel : Text) :
    s.Due a channel (s.calls channel) where
  mem_iff r := by rw [calls, List.mem_filter, ← hsound.holds_iff, Registration.hears_iff]
  once := hsound.nodup_registrations.filter _
  ordered := h.registrations.filter _

end

/-! ## When handlers come -/

variable {s s' : Subscriptions H} {a : Arrivals H} {subs : List (Subscription H)}

/-- Keys and handlers that go leave the others in their order. -/
theorem Dated.thin (h : s.Dated a) (htable : ∀ i, (s'.table i).Sublist (s.table i))
    (hhandlers : ∀ set, (s'.handlers set).Sublist (s.handlers set)) : s'.Dated a where
  keys i := (h.keys i).sublist (htable i)
  handlers i e he := (h.handlers i e ((htable i).subset he)).sublist (hhandlers e.2)
  keys_lt i e he := h.keys_lt i e ((htable i).subset he)
  handlers_lt i e he x hx := h.handlers_lt i e ((htable i).subset he) x ((hhandlers e.2).subset hx)

/-- What was published does not matter. -/
theorem Dated.setPublished (h : s.Dated a) (published : List Message) : { s with published }.Dated a :=
  h.thin (fun i => by cases i <;> exact .refl _) fun _ => .refl _

/-- A change of the table of one interest leaves the other table. -/
theorem table_mapTable (s : Subscriptions H) (i interest : Interest) (f : KeyTable → KeyTable) :
    (s.mapTable interest f).table i = if i = interest then f (s.table i) else s.table i := by
  cases i <;> cases interest <;> rfl

variable [DecidableEq H]

/-- The dates stay right when somebody leaves, for it dates nothing anew. -/
theorem Dated.unsubscribe (h : s.Dated a) (hsound : s.Sound subs) {sub : Subscription H}
    (hsub : sub ∈ subs) : (s.unsubscribe sub).Dated a := by
  have hleave : ∀ set, ((s.leave sub).handlers set).Sublist (s.handlers set) := fun set => by
    rw [hsound.handlers_leave hsub]
    split
    · exact List.erase_sublist
    · exact List.Sublist.refl _
  have htable : ∀ i, (s.leave sub).table i = s.table i := fun i => by cases i <;> rfl
  rw [unsubscribe_eq]
  split
  · refine h.thin (fun i => ?_) fun set => ?_
    · rw [table_mapTable, htable]
      split
      · exact List.filter_sublist
      · exact List.Sublist.refl _
    · rw [handlers_mapTable]
      exact hleave set
  · exact h.thin (fun i => by rw [htable]) hleave

end Subscriptions

/-- What is noted of a handler that comes under a key: when, and when the key came if it comes with
it. A handler that is there already does not come again. -/
def Arrivals.note [DecidableEq H] (s : Subscriptions H) (r : Registration H) (a : Arrivals H) :
    Arrivals H where
  now := a.now + 1
  key := if (s.table r.interest).get? r.key = none then Function.update a.key r.under a.now else a.key
  handler := if r ∈ s.registrations then a.handler else Function.update a.handler r a.now

namespace Subscriptions

variable [DecidableEq H] {s s' : Subscriptions H} {a : Arrivals H} {subs : List (Subscription H)}
  {r : Registration H}

/-- A key that stands in the table keeps its date. -/
theorem key_note_of_mem {i : Interest} {e : Text × SetRef} (he : e ∈ s.table i) :
    (a.note s r).key (i, e.1) = a.key (i, e.1) := by
  unfold Arrivals.note
  split
  · next hnone =>
    refine Function.update_of_ne (fun heq => ?_) ..
    obtain ⟨rfl, hkey⟩ := Prod.mk.inj heq
    exact KeyTable.notMem_of_get? hnone e.2 (hkey ▸ he)
  · rfl

/-- A handler that is in its set keeps its date. -/
theorem handler_note_of_mem {i : Interest} {e : Text × SetRef} (he : e ∈ s.table i) {h : H}
    (hh : h ∈ s.handlers e.2) : (a.note s r).handler ⟨i, e.1, h⟩ = a.handler ⟨i, e.1, h⟩ := by
  by_cases hr : r ∈ s.registrations
  · simp only [Arrivals.note, hr, ↓reduceIte]
  · simp only [Arrivals.note, hr, ↓reduceIte]
    refine Function.update_of_ne ?_ ..
    rintro rfl
    exact hr (mem_registrations.2 ⟨e.2, (s.mem_places_iff i e.1 e.2).2 he, hh⟩)

/-- What is there keeps its order when a handler comes. -/
theorem Dated.note (h : s.Dated a) (r : Registration H) : s.Dated (a.note s r) where
  keys i := (h.keys i).imp_of_mem fun he he' hlt => by
    rwa [key_note_of_mem he, key_note_of_mem he']
  handlers i e he := (h.handlers i e he).imp_of_mem fun hx hx' hlt => by
    rwa [handler_note_of_mem he hx, handler_note_of_mem he hx']
  keys_lt i e he := by
    rw [key_note_of_mem he]
    exact Nat.lt_succ_of_lt (h.keys_lt i e he)
  handlers_lt i e he x hx := by
    rw [handler_note_of_mem he hx]
    exact Nat.lt_succ_of_lt (h.handlers_lt i e he x hx)

/-- What is registered came before the handler that comes now. -/
theorem Dated.handler_lt_note (h : s.Dated a) (hnew : r ∉ s.registrations) {i : Interest}
    {e : Text × SetRef} (he : e ∈ s.table i) {x : H} (hx : x ∈ s.handlers e.2) :
    (a.note s r).handler ⟨i, e.1, x⟩ < (a.note s r).handler r := by
  have hr : (a.note s r).handler r = a.now := by
    simp only [Arrivals.note, hnew, ↓reduceIte, Function.update_self]
  rw [handler_note_of_mem he hx, hr]
  exact h.handlers_lt i e he x hx

/-- A handler that is noted has come before now. -/
theorem Dated.handler_note_lt (h : s.Dated a) (r : Registration H) :
    (a.note s r).handler r < (a.note s r).now := by
  by_cases hmem : r ∈ s.registrations
  · obtain ⟨set, hplace, hh⟩ := mem_registrations.1 hmem
    exact (h.note r).handlers_lt r.interest (r.key, set)
      ((s.mem_places_iff r.interest r.key set).1 hplace) r.handler hh
  · simp only [Arrivals.note, hmem, ↓reduceIte, Function.update_self]
    exact Nat.lt_succ_self _

/-- What is left once a handler has joined a set. -/
def join (set : SetRef) (h : H) (s : Subscriptions H) : Subscriptions H :=
  { s with sets := s.sets.modify set (insert h) }

/-- What is left once a handler has come under a key with a set of its own. -/
def found (r : Registration H) (s : Subscriptions H) : Subscriptions H :=
  { s with sets := s.sets ++ [[r.handler]] }.mapTable r.interest (· ++ [(r.key, s.sets.length)])

/-- What is in a set after an insertion was inserted or was in it before. -/
theorem mem_of_mem_insert {h x : H} {set : List H} (hx : x ∈ insert h set) : x = h ∨ x ∈ set := by
  unfold insert at hx
  split at hx
  · exact .inr hx
  · exact (List.mem_append.1 hx).symm.imp_left List.mem_singleton.1

/-- A set stays in order when what is inserted goes last. -/
theorem pairwise_insert {R : H → H → Prop} {h : H} {set : List H} (hset : set.Pairwise R)
    (hlast : h ∉ set → ∀ x ∈ set, R x h) : (insert h set).Pairwise R := by
  unfold insert
  split
  · exact hset
  · next hnew =>
    refine List.pairwise_append.2 ⟨hset, List.pairwise_singleton _ _, fun x hx y hy => ?_⟩
    obtain rfl := List.mem_singleton.1 hy
    exact hlast hnew x hx

/-- A handler that joins the set under a key comes last in it. -/
theorem Dated.join (h : s.Dated a) (hsound : s.Sound subs) {set : SetRef}
    (hset : (r.key, set) ∈ s.table r.interest) : (s.join set r.handler).Dated (a.note s r) := by
  have hplace := (s.mem_places_iff r.interest r.key set).2 hset
  have htable : ∀ i, (s.join set r.handler).table i = s.table i := fun i => by cases i <;> rfl
  have hhandlers : ∀ i, (s.join set r.handler).handlers i
      = if set = i then insert r.handler (s.handlers i) else s.handlers i := fun i =>
    s.handlers_modify i (hsound.bounded _ hplace) _
  have hnote := h.note r
  -- the set that grows is the one under the key
  have hunder : ∀ i, ∀ e ∈ s.table i, set = e.2 → ∃ handler, r = ⟨i, e.1, handler⟩ := fun i e he heq => by
    have hpair := hsound.eq_of_set hplace ((s.mem_places_iff i e.1 e.2).2 he) heq
    obtain ⟨hi, hk, -⟩ := Place.mk.inj hpair
    exact ⟨r.handler, by rw [← hi, ← hk]⟩
  refine ⟨fun i => ?_, fun i e he => ?_, fun i e he => ?_, fun i e he x hx => ?_⟩
  · rw [htable]
    exact hnote.keys i
  · rw [htable] at he
    rw [hhandlers]
    split
    · next heq =>
      obtain ⟨handler, rfl⟩ := hunder i e he heq
      refine pairwise_insert (hnote.handlers i e he) fun hnew x hx =>
        h.handler_lt_note (fun hr => ?_) he hx
      exact hnew (heq ▸ (hsound.mem_handlers_iff hplace handler).2 hr)
    · exact hnote.handlers i e he
  · rw [htable] at he
    exact hnote.keys_lt i e he
  · rw [htable] at he
    rw [hhandlers] at hx
    split at hx
    · next heq =>
      obtain ⟨handler, rfl⟩ := hunder i e he heq
      rcases mem_of_mem_insert hx with rfl | hx
      · exact h.handler_note_lt _
      · exact hnote.handlers_lt i e he x hx
    · exact hnote.handlers_lt i e he x hx

/-- A key that comes with its first handler comes last. -/
theorem Dated.found (h : s.Dated a) (hsound : s.Sound subs)
    (hnone : (s.table r.interest).get? r.key = none) : (s.found r).Dated (a.note s r) := by
  have hnote := h.note r
  have htable : ∀ i, (s.found r).table i
      = if i = r.interest then s.table i ++ [(r.key, s.sets.length)] else s.table i := fun i => by
    rw [Subscriptions.found, table_mapTable]
    cases i <;> rfl
  have hhandlers : ∀ set, (s.found r).handlers set
      = if set = s.sets.length then [r.handler] else s.handlers set := fun set => by
    rw [Subscriptions.found, handlers_mapTable, handlers_push]
  have hold : ∀ i, ∀ e ∈ s.table i, (s.found r).handlers e.2 = s.handlers e.2 := fun i e he => by
    rw [hhandlers, if_neg (Nat.ne_of_lt (hsound.bounded _ ((s.mem_places_iff i e.1 e.2).2 he)))]
  have hcases : ∀ i, ∀ e ∈ (s.found r).table i, e ∈ s.table i
      ∨ i = r.interest ∧ e.1 = r.key ∧ (s.found r).handlers e.2 = [r.handler] := fun i e he => by
    rw [htable] at he
    split at he
    · next hi =>
      refine (List.mem_append.1 he).imp_right fun he => ?_
      obtain rfl := List.mem_singleton.1 he
      exact ⟨hi, rfl, by rw [hhandlers, if_pos rfl]⟩
    · exact .inl he
  have hkey : (a.note s r).key r.under = a.now := by
    simp only [Arrivals.note, hnone, ↓reduceIte, Function.update_self]
  refine ⟨fun i => ?_, fun i e he => ?_, fun i e he => ?_, fun i e he x hx => ?_⟩
  · rw [htable]
    split
    · next hi =>
      subst hi
      refine List.pairwise_append.2 ⟨hnote.keys _, List.pairwise_singleton _ _, fun e he e' he' => ?_⟩
      obtain rfl := List.mem_singleton.1 he'
      rw [key_note_of_mem he]
      exact (h.keys_lt _ e he).trans_eq hkey.symm
    · exact hnote.keys i
  · rcases hcases i e he with he | ⟨-, -, hone⟩
    · rw [hold i e he]
      exact hnote.handlers i e he
    · rw [hone]
      exact List.pairwise_singleton _ _
  · rcases hcases i e he with he | ⟨rfl, hk, -⟩
    · exact hnote.keys_lt i e he
    · rw [hk]
      exact hkey.trans_lt (Nat.lt_succ_self _)
  · rcases hcases i e he with he | ⟨rfl, hk, hone⟩
    · rw [hold i e he] at hx
      exact hnote.handlers_lt i e he x hx
    · rw [hone] at hx
      obtain rfl := List.mem_singleton.1 hx
      rw [hk]
      exact h.handler_note_lt r

/-- A handler that subscribes comes last under its key, and its key last of all if nothing stands
under it. -/
theorem Dated.subscribe (h : s.Dated a) (hsound : s.Sound subs) (r : Registration H) :
    (s.subscribe r.interest r.key r.handler).2.Dated (a.note s r) := by
  unfold Subscriptions.subscribe
  cases hget : (s.table r.interest).get? r.key with
  | some set => exact h.join hsound (KeyTable.mem_of_get? hget)
  | none => exact h.found hsound hget

end Subscriptions

end UnitOfWork
