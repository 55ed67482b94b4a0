import Mathlib.Data.List.Nodup
import Mathlib.Data.List.Perm.Basic
import UnitOfWork.Bus.Subscriptions

/-!
# What is registered on the bus

A publication calls the handlers that are registered under the keys that it matches. `registrations`
lists them all, in the order in which a publication goes through them (`Sound.recipients_eq`), and
what an operation does to subscriptions is said by what it does to that list. A set of handlers that
was dropped with its key lives on in the subscriptions that joined it, so `Sound` says of every set
where it can stand, and `Reachable.sound` that this holds after any history.
-/

namespace UnitOfWork

variable {H : Type}

/-- A handler that is registered under a key. -/
structure Registration (H : Type) where
  interest : Interest
  key : Text
  handler : H
  deriving DecidableEq

/-- A publication on a channel calls what is registered. -/
def Registration.hears (channel : Text) (r : Registration H) : Bool :=
  match r.interest with
  | .channel => r.key = channel
  | .pattern => Subscriptions.isMatch r.key channel

/-- What is registered is registered under a key. -/
def Registration.isUnder (interest : Interest) (key : Text) (r : Registration H) : Bool :=
  r.interest = interest && r.key = key

/-- Whether a registration stands under a key is computed as it reads. -/
theorem Registration.isUnder_iff {interest : Interest} {key : Text} {r : Registration H} :
    r.isUnder interest key = true ↔ r.interest = interest ∧ r.key = key := by
  simp [isUnder]

/-- What a subscription registered. -/
def Subscription.registration (sub : Subscription H) : Registration H :=
  ⟨sub.interest, sub.key, sub.handler⟩

/-- A key with the set that stands under it. -/
structure Place where
  interest : Interest
  key : Text
  set : SetRef

namespace Place

/-- The place is the one under a key. -/
def isUnder (interest : Interest) (key : Text) (p : Place) : Bool :=
  p.interest = interest && p.key = key

/-- Whether a place is under a key is computed as it reads. -/
theorem isUnder_iff {interest : Interest} {key : Text} {p : Place} :
    p.isUnder interest key = true ↔ p.interest = interest ∧ p.key = key := by
  simp [isUnder]

end Place

namespace KeyTable

variable {key : Text} {table : KeyTable}

/-- A set that is looked up stands in the table. -/
theorem mem_of_get? {set : SetRef} (h : table.get? key = some set) : (key, set) ∈ table := by
  obtain ⟨⟨k, v⟩, hfind, rfl⟩ := Option.map_eq_some_iff.1 h
  obtain rfl : k = key := by simpa using List.find?_some hfind
  exact List.mem_of_find?_eq_some hfind

/-- No set stands under a key that is not found. -/
theorem notMem_of_get? (h : table.get? key = none) (set : SetRef) : (key, set) ∉ table := by
  intro hmem
  simpa using List.find?_eq_none.1 (Option.map_eq_none_iff.1 h) _ hmem

/-- Where every key has one set, the set under a key is all that is found under it. -/
theorem flatMap_eq_get? {α : Type} (h : (table.map (·.1)).Nodup) (key : Text)
    (f : SetRef → List α) :
    table.flatMap (fun e => if e.1 = key then f e.2 else []) = ((table.get? key).map f).getD [] := by
  induction table with
  | nil => rfl
  | cons e table ih =>
    rw [List.map_cons, List.nodup_cons] at h
    by_cases he : e.1 = key
    · subst he
      have hrest : table.flatMap (fun e' => if e'.1 = e.1 then f e'.2 else []) = [] := by
        refine List.flatMap_eq_nil_iff.2 fun e' he' => if_neg fun heq => h.1 ?_
        exact List.mem_map.2 ⟨e', he', heq⟩
      simp [hrest, get?]
    · have hget : get? key (e :: table) = get? key table := by simp [get?, he]
      rw [List.flatMap_cons, if_neg he, List.nil_append, ih h.2, hget]

end KeyTable

namespace Subscriptions

/-- The keys with their sets, in the order in which a publication goes through them. -/
def places (s : Subscriptions H) : List Place :=
  s.channels.map (fun e => ⟨.channel, e.1, e.2⟩) ++ s.patterns.map fun e => ⟨.pattern, e.1, e.2⟩

/-- What is registered at a place. -/
def registered (s : Subscriptions H) (p : Place) : List (Registration H) :=
  (s.handlers p.set).map fun h => ⟨p.interest, p.key, h⟩

/-- Everything that is registered, in the order in which a publication goes through it. -/
def registrations (s : Subscriptions H) : List (Registration H) :=
  s.places.flatMap s.registered

/-- What a publication on a channel calls. -/
def calls (channel : Text) (s : Subscriptions H) : List (Registration H) :=
  s.registrations.filter (·.hears channel)

/-! ## Places -/

section

variable (s : Subscriptions H) (interest : Interest) (key : Text) (set : SetRef)

/-- The places of a bus are the entries of its tables. -/
theorem mem_places_iff : ⟨interest, key, set⟩ ∈ s.places ↔ (key, set) ∈ s.table interest := by
  cases interest <;> simp [places, table]

/-- A change of a table leaves every set. -/
@[simp] theorem handlers_mapTable (f : KeyTable → KeyTable) :
    (s.mapTable interest f).handlers set = s.handlers set := by
  cases interest <;> rfl

@[simp] theorem sets_mapTable (f : KeyTable → KeyTable) :
    (s.mapTable interest f).sets = s.sets := by
  cases interest <;> rfl

/-- A new entry of a table is one more place. -/
theorem places_mapTable_append :
    (s.mapTable interest (· ++ [(key, set)])).places.Perm (⟨interest, key, set⟩ :: s.places) := by
  cases interest with
  | channel =>
    simp only [mapTable, places, List.map_append, List.map_cons, List.map_nil, List.append_assoc,
      List.singleton_append]
    exact List.perm_middle
  | pattern =>
    simp only [mapTable, places, List.map_append, List.map_cons, List.map_nil, ← List.append_assoc]
    exact List.perm_append_singleton _ _

/-- A key that is erased takes its places away. -/
theorem places_mapTable_erase :
    (s.mapTable interest (KeyTable.erase key)).places
      = s.places.filter fun p => !p.isUnder interest key := by
  cases interest <;>
    simp [mapTable, places, KeyTable.erase, List.filter_append, List.filter_map, Place.isUnder,
      Function.comp_def]

/-- Changing a set that there is changes that set. -/
theorem handlers_modify {i : SetRef} (hi : i < s.sets.length) (f : List H → List H) :
    ({ s with sets := s.sets.modify i f } : Subscriptions H).handlers set
      = if i = set then f (s.handlers set) else s.handlers set := by
  simp only [handlers, List.getD_eq_getElem?_getD, List.getElem?_modify]
  by_cases h : i = set
  · subst h
    simp [hi]
  · simp [h]

/-- A new set is the one behind all others, which stay. -/
theorem handlers_push (handlers : List H) :
    ({ s with sets := s.sets ++ [handlers] } : Subscriptions H).handlers set
      = if set = s.sets.length then handlers else s.handlers set := by
  simp only [Subscriptions.handlers, List.getD_eq_getElem?_getD]
  rcases Nat.lt_trichotomy set s.sets.length with h | rfl | h
  · rw [List.getElem?_append_left h, if_neg (Nat.ne_of_lt h)]
  · simp
  · rw [if_neg (Nat.ne_of_gt h), List.getElem?_eq_none (by simp; omega),
      List.getElem?_eq_none (Nat.le_of_lt h)]

end

/-! ## What is heard -/

section

variable (s : Subscriptions H) (key channel : Text) (set : SetRef)

/-- Of the set at a key, everybody hears that channel and nobody any other. -/
theorem heard_channel :
    ((s.registered ⟨.channel, key, set⟩).filter (·.hears channel)).map (·.handler)
      = if key = channel then s.handlers set else [] := by
  by_cases hkey : key = channel <;> simp [registered, List.filter_map, Registration.hears, hkey,
    Function.comp_def]

/-- Of the set at a pattern, everybody hears the channels that match it. -/
theorem heard_pattern :
    ((s.registered ⟨.pattern, key, set⟩).filter (·.hears channel)).map (·.handler)
      = if isMatch key channel then s.handlers set else [] := by
  by_cases hkey : isMatch key channel <;> simp [registered, List.filter_map, Registration.hears, hkey,
    Function.comp_def]

/-- Mapping what passes a test is mapping everything, to nothing where it does not pass. -/
theorem flatMap_filter_eq {α β : Type} (l : List α) (p : α → Bool) (f : α → List β) :
    (l.filter p).flatMap f = l.flatMap fun a => if p a then f a else [] := by
  induction l with
  | nil => rfl
  | cons a l ih => cases hp : p a <;> simp [hp, ih]

end

/-! ## What is registered -/

variable {s : Subscriptions H}

/-- A registration is listed if its handler is in the set at its place. -/
theorem mem_registrations {r : Registration H} :
    r ∈ s.registrations ↔ ∃ set, ⟨r.interest, r.key, set⟩ ∈ s.places ∧ r.handler ∈ s.handlers set := by
  constructor
  · intro hr
    obtain ⟨p, hp, hmem⟩ := List.mem_flatMap.1 hr
    obtain ⟨handler, hhandler, rfl⟩ := List.mem_map.1 hmem
    exact ⟨p.set, hp, hhandler⟩
  · rintro ⟨set, hp, hhandler⟩
    exact List.mem_flatMap.2 ⟨_, hp, List.mem_map.2 ⟨r.handler, hhandler, rfl⟩⟩

/-- All that is registered at a place is under its key. -/
theorem isUnder_of_mem_registered {p : Place} {r : Registration H} (hr : r ∈ s.registered p)
    (interest : Interest) (key : Text) : r.isUnder interest key = p.isUnder interest key := by
  obtain ⟨handler, -, rfl⟩ := List.mem_map.1 hr
  rfl

/-- Dropping a key drops everything that is registered under it. -/
theorem registrations_erase (s : Subscriptions H) (interest : Interest) (key : Text) :
    (s.mapTable interest (KeyTable.erase key)).registrations
      = s.registrations.filter fun r => !r.isUnder interest key := by
  have hsame : (s.mapTable interest (KeyTable.erase key)).registered = s.registered :=
    funext fun p => by rw [registered, handlers_mapTable, registered]
  rw [registrations, places_mapTable_erase, registrations, List.filter_flatMap, flatMap_filter_eq,
    hsame]
  refine List.flatMap_congr fun p _ => ?_
  have hfilter : ∀ r ∈ s.registered p, (!r.isUnder interest key) = !p.isUnder interest key :=
    fun r hr => by rw [isUnder_of_mem_registered hr]
  rw [List.filter_congr hfilter]
  cases p.isUnder interest key <;> simp

/-! ## What holds of subscriptions -/

/-- Every key stands over a set of its own that is not empty, no handler is twice in a set, and the
set that a subscription joined stands under the subscription's key if anywhere. -/
structure Sound (subs : List (Subscription H)) (s : Subscriptions H) : Prop where
  keys_nodup : (s.places.map fun p => (p.interest, p.key)).Nodup
  sets_nodup : (s.places.map (·.set)).Nodup
  bounded : ∀ p ∈ s.places, p.set < s.sets.length
  filled : ∀ p ∈ s.places, s.handlers p.set ≠ []
  distinct : ∀ set, (s.handlers set).Nodup
  issued : ∀ sub ∈ subs, sub.set < s.sets.length
  known : ∀ sub ∈ subs, ∀ p ∈ s.places, p.set = sub.set →
    p.interest = sub.interest ∧ p.key = sub.key

namespace Sound

variable {subs : List (Subscription H)} {sub : Subscription H}

/-- A place is known by its key. -/
theorem eq_of_key (h : s.Sound subs) {p q : Place} (hp : p ∈ s.places) (hq : q ∈ s.places)
    (hi : p.interest = q.interest) (hk : p.key = q.key) : p = q :=
  List.inj_on_of_nodup_map h.keys_nodup hp hq (Prod.ext hi hk)

/-- A place is known by its set. -/
theorem eq_of_set (h : s.Sound subs) {p q : Place} (hp : p ∈ s.places) (hq : q ∈ s.places)
    (hset : p.set = q.set) : p = q :=
  List.inj_on_of_nodup_map h.sets_nodup hp hq hset

/-- A set is changed that stands under a key, and the one who changed it is known. -/
theorem changeSet (h : s.Sound subs) {p : Place} (hp : p ∈ s.places) {f : List H → List H}
    (hfilled : f (s.handlers p.set) ≠ []) (hdistinct : (f (s.handlers p.set)).Nodup)
    (hsub : sub.interest = p.interest ∧ sub.key = p.key ∧ sub.set = p.set) :
    ({ s with sets := s.sets.modify p.set f } : Subscriptions H).Sound (sub :: subs) := by
  have hset := h.bounded p hp
  refine ⟨h.keys_nodup, h.sets_nodup, ?_, fun q hq => ?_, fun i => ?_, ?_, ?_⟩
  · rw [List.length_modify]
    exact h.bounded
  · rw [s.handlers_modify q.set hset]
    split
    · next heq => exact heq ▸ hfilled
    · exact h.filled q hq
  · rw [s.handlers_modify i hset]
    split
    · next heq => exact heq ▸ hdistinct
    · exact h.distinct i
  · rw [List.length_modify]
    exact List.forall_mem_cons.2 ⟨hsub.2.2 ▸ hset, h.issued⟩
  · refine List.forall_mem_cons.2 ⟨fun q hq heq => ?_, h.known⟩
    obtain rfl := h.eq_of_set hq hp (heq.trans hsub.2.2)
    exact ⟨hsub.1.symm, hsub.2.1.symm⟩

/-- A key that nothing stands under gets a set of its own. -/
theorem addSet (h : s.Sound subs) {interest : Interest} {key : Text}
    (hnone : (s.table interest).get? key = none) (handler : H) :
    (({ s with sets := s.sets ++ [[handler]] } : Subscriptions H).mapTable interest
      (· ++ [(key, s.sets.length)])).Sound (⟨interest, key, s.sets.length, handler⟩ :: subs) := by
  have hperm := places_mapTable_append ({ s with sets := s.sets ++ [[handler]] } : Subscriptions H)
    interest key s.sets.length
  have hcases : ∀ p ∈ (({ s with sets := s.sets ++ [[handler]] } : Subscriptions H).mapTable interest
      (· ++ [(key, s.sets.length)])).places, p = ⟨interest, key, s.sets.length⟩ ∨ p ∈ s.places :=
    fun p hp => List.mem_cons.1 (hperm.mem_iff.1 hp)
  have hnew : ∀ p ∈ s.places, p.set ≠ s.sets.length := fun p hp => Nat.ne_of_lt (h.bounded p hp)
  have hlength : (s.sets ++ [[handler]]).length = s.sets.length + 1 := by simp
  refine ⟨?_, ?_, fun p hp => ?_, fun p hp => ?_, fun i => ?_, ?_, ?_⟩
  · rw [(hperm.map _).nodup_iff, List.map_cons, List.nodup_cons]
    refine ⟨fun hmem => ?_, h.keys_nodup⟩
    obtain ⟨⟨i, k, set⟩, hp, heq⟩ := List.mem_map.1 hmem
    cases heq
    exact KeyTable.notMem_of_get? hnone set ((s.mem_places_iff interest key set).1 hp)
  · rw [(hperm.map _).nodup_iff, List.map_cons, List.nodup_cons]
    refine ⟨fun hmem => ?_, h.sets_nodup⟩
    obtain ⟨p, hp, heq⟩ := List.mem_map.1 hmem
    exact hnew p hp heq
  · rw [sets_mapTable, hlength]
    rcases hcases p hp with rfl | hp
    · exact Nat.lt_succ_self _
    · exact Nat.lt_succ_of_lt (h.bounded p hp)
  · rw [handlers_mapTable, handlers_push]
    rcases hcases p hp with rfl | hp
    · rw [if_pos rfl]
      exact List.cons_ne_nil _ _
    · rw [if_neg (hnew p hp)]
      exact h.filled p hp
  · rw [handlers_mapTable, handlers_push]
    split
    · exact List.nodup_singleton _
    · exact h.distinct i
  · rw [sets_mapTable, hlength]
    exact List.forall_mem_cons.2
      ⟨Nat.lt_succ_self _, fun sub hsub => Nat.lt_succ_of_lt (h.issued sub hsub)⟩
  · refine List.forall_mem_cons.2 ⟨fun p hp heq => ?_, fun sub hsub p hp heq => ?_⟩
    · rcases hcases p hp with rfl | hp
      · exact ⟨rfl, rfl⟩
      · exact absurd heq (hnew p hp)
    · rcases hcases p hp with rfl | hp
      · exact absurd heq.symm (Nat.ne_of_lt (h.issued sub hsub))
      · exact h.known sub hsub p hp heq

/-- The handlers of a set that stands under a key are all that is registered there. -/
theorem mem_handlers_iff (h : s.Sound subs) {interest : Interest} {key : Text} {set : SetRef}
    (hset : ⟨interest, key, set⟩ ∈ s.places) (handler : H) :
    handler ∈ s.handlers set ↔ ⟨interest, key, handler⟩ ∈ s.registrations := by
  rw [mem_registrations]
  refine ⟨fun hmem => ⟨set, hset, hmem⟩, ?_⟩
  rintro ⟨set', hset', hmem⟩
  obtain rfl : set' = set := congrArg Place.set (h.eq_of_key hset' hset rfl rfl)
  exact hmem

/-- A publication calls what is registered and hears the channel, in order. -/
theorem recipients_eq (h : s.Sound subs) (channel : Text) :
    s.recipients channel = (s.calls channel).map (·.handler) := by
  have hkeys : (s.channels.map (·.1)).Nodup := by
    have hall := h.keys_nodup
    rw [places, List.map_append, List.map_map] at hall
    refine List.Nodup.of_map (fun key => (Interest.channel, key)) ?_
    rw [List.map_map]
    exact (List.nodup_append.1 hall).1
  have hchannels := KeyTable.flatMap_eq_get? hkeys channel s.handlers
  have hpatterns := flatMap_filter_eq s.patterns (fun e => isMatch e.1 channel) fun e => s.handlers e.2
  simp only [calls, registrations, places, List.flatMap_append, List.filter_append, List.map_append,
    List.flatMap_map, List.filter_flatMap, List.map_flatMap, heard_channel, heard_pattern, hchannels,
    ← hpatterns, recipients]
  cases s.channels.get? channel <;> rfl

/-- A sound bus counts as recipients the calls that it makes. -/
theorem length_recipients (h : s.Sound subs) (channel : Text) :
    (s.recipients channel).length = (s.calls channel).length := by
  rw [h.recipients_eq, List.length_map]

end Sound

/-! ## Subscriptions as they come to be -/

variable [DecidableEq H]

/-- A set keeps every handler once. -/
theorem insert_nodup {h : H} {set : List H} (hset : set.Nodup) : (insert h set).Nodup := by
  unfold insert
  split
  · exact hset
  · next hmem => exact List.concat_eq_append ▸ hset.concat hmem

/-- No set is empty after an insertion. -/
theorem insert_ne_nil (h : H) (set : List H) : insert h set ≠ [] := by
  unfold insert
  split
  · next hmem => exact List.ne_nil_of_mem hmem
  · exact List.append_ne_nil_of_right_ne_nil _ (List.cons_ne_nil _ _)

/-- What is left once the handler of a subscription has left the set that it joined. -/
def leave (sub : Subscription H) (s : Subscriptions H) : Subscriptions H :=
  { s with sets := s.sets.modify sub.set (·.erase sub.handler) }

/-- A subscription leaves its set, and erases its key where the set is empty then. -/
theorem unsubscribe_eq (sub : Subscription H) (s : Subscriptions H) :
    s.unsubscribe sub = if ((s.leave sub).handlers sub.set).isEmpty then
      (s.leave sub).mapTable sub.interest (KeyTable.erase sub.key) else s.leave sub := rfl

/-- Subscriptions after any history of a bus, with the subscriptions that were made in it. Whatever
else a publication does is done by the handlers that it calls. -/
inductive Reachable : Subscriptions H → List (Subscription H) → Prop where
  | start : Reachable {} []
  | subscribe {s : Subscriptions H} {subs : List (Subscription H)} (h : Reachable s subs)
      (interest : Interest) (key : Text) (handler : H) :
      Reachable (s.subscribe interest key handler).2
        ((s.subscribe interest key handler).1 :: subs)
  /-- A subscription may be ended more than once. -/
  | unsubscribe {s : Subscriptions H} {subs : List (Subscription H)} (h : Reachable s subs)
      {sub : Subscription H} (hsub : sub ∈ subs) : Reachable (s.unsubscribe sub) subs
  | record {s : Subscriptions H} {subs : List (Subscription H)} (h : Reachable s subs)
      (message : Message) : Reachable (s.record message) subs
  | clear {s : Subscriptions H} {subs : List (Subscription H)} (h : Reachable s subs) :
      Reachable s.clear subs

namespace Sound

variable {subs : List (Subscription H)} {sub : Subscription H}

/-- A new subscription keeps a bus sound. -/
theorem subscribe (h : s.Sound subs) (interest : Interest) (key : Text) (handler : H) :
    (s.subscribe interest key handler).2.Sound ((s.subscribe interest key handler).1 :: subs) := by
  unfold Subscriptions.subscribe
  cases hget : (s.table interest).get? key with
  | some set =>
    exact h.changeSet ((s.mem_places_iff interest key set).2 (KeyTable.mem_of_get? hget))
      (insert_ne_nil _ _) (insert_nodup (h.distinct set)) ⟨rfl, rfl, rfl⟩
  | none => exact h.addSet hget handler

/-- A subscription that leaves takes its handler from its set and from no other. -/
theorem handlers_leave (h : s.Sound subs) (hsub : sub ∈ subs) (set : SetRef) :
    (s.leave sub).handlers set
      = if sub.set = set then (s.handlers set).erase sub.handler else s.handlers set :=
  s.handlers_modify set (h.issued sub hsub) _

/-- A subscription that ends keeps a bus sound. -/
theorem unsubscribe (h : s.Sound subs) (hsub : sub ∈ subs) : (s.unsubscribe sub).Sound subs := by
  have hlength : (s.leave sub).sets.length = s.sets.length := List.length_modify ..
  have hdistinct : ∀ set, ((s.leave sub).handlers set).Nodup := fun set => by
    rw [h.handlers_leave hsub]
    split
    · exact (h.distinct set).erase _
    · exact h.distinct set
  rw [unsubscribe_eq]
  split
  · -- the key is dropped, and with it the set of the subscription, if that stands anywhere
    have hplaces := (s.leave sub).places_mapTable_erase sub.interest sub.key
    have hmem : ∀ p ∈ ((s.leave sub).mapTable sub.interest (KeyTable.erase sub.key)).places,
        p ∈ s.places ∧ p.isUnder sub.interest sub.key = false := fun p hp => by
      rw [hplaces, List.mem_filter, Bool.not_eq_true'] at hp
      exact hp
    refine ⟨?_, ?_, fun p hp => ?_, fun p hp => ?_, ?_, ?_, fun sub' hsub' p hp => ?_⟩
    · rw [hplaces]
      exact h.keys_nodup.sublist (List.filter_sublist.map _)
    · rw [hplaces]
      exact h.sets_nodup.sublist (List.filter_sublist.map _)
    · rw [sets_mapTable, hlength]
      exact h.bounded p (hmem p hp).1
    · obtain ⟨hp, hunder⟩ := hmem p hp
      rw [handlers_mapTable, h.handlers_leave hsub, if_neg]
      · exact h.filled p hp
      · intro heq
        rw [Place.isUnder_iff.2 (h.known sub hsub p hp heq.symm)] at hunder
        cases hunder
    · simpa using hdistinct
    · rw [sets_mapTable, hlength]
      exact h.issued
    · exact h.known sub' hsub' p (hmem p hp).1
  · next hfilled =>
    refine ⟨h.keys_nodup, h.sets_nodup, ?_, fun p hp => ?_, hdistinct, ?_, h.known⟩
    · rw [hlength]
      exact h.bounded
    · by_cases heq : sub.set = p.set
      · rw [List.isEmpty_iff] at hfilled
        exact heq ▸ hfilled
      · rw [h.handlers_leave hsub, if_neg heq]
        exact h.filled p hp
    · rw [hlength]
      exact h.issued

end Sound

/-- A bus is sound in every state that it can get to. -/
theorem Reachable.sound {subs : List (Subscription H)} (h : Reachable s subs) :
    s.Sound subs := by
  induction h with
  | start => exact ⟨List.nodup_nil, List.nodup_nil, nofun, nofun, fun _ => List.nodup_nil, nofun, nofun⟩
  | subscribe _ interest key handler ih => exact ih.subscribe interest key handler
  | unsubscribe _ hsub ih => exact ih.unsubscribe hsub
  | record _ message ih => exact ⟨ih.1, ih.2, ih.3, ih.4, ih.5, ih.6, ih.7⟩
  | clear _ ih => exact ⟨ih.1, ih.2, ih.3, ih.4, ih.5, ih.6, ih.7⟩

end Subscriptions

end UnitOfWork
