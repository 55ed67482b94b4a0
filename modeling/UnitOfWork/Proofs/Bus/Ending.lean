import UnitOfWork.Proofs.Bus.Registrations
import UnitOfWork.Proofs.Text.Parts

/-!
# Ending a subscription

Ending a subscription takes its handler out of the set that it joined, and drops the key once that
set is empty. Where the set stands under the key, nothing but the subscription's own registration
goes with it. Where another set stands there by now, the handlers of that set stay although the
subscription is ended, or are all dropped with the key. `dropsOnly_iff` says exactly when ending a
subscription, for the first time or again, drops its own registration and no other.
-/

namespace UnitOfWork

namespace Subscriptions

variable {H : Type}

/-- Every key has a channel that hears what is registered under it. -/
theorem exists_hears (interest : Interest) (key : Text) :
    ∃ channel, ∀ handler : H, (⟨interest, key, handler⟩ : Registration H).hears channel = true := by
  cases interest with
  | channel => exact ⟨key, fun _ => decide_eq_true rfl⟩
  | pattern =>
    cases hwild : key.endsWith wildcard with
    | true =>
      refine ⟨key.take (key.length - 1), fun _ => ?_⟩
      simp [Registration.hears, isMatch, hwild, Text.startsWith_iff]
    | false => exact ⟨key, fun _ => by simp [Registration.hears, isMatch, hwild]⟩

variable [DecidableEq H] {subs : List (Subscription H)} {s : Subscriptions H} {sub : Subscription H}

/-! ## What goes with a handler -/

namespace Sound

/-- Where the set that a subscription joined stands under its key, only its registration goes with
its handler. -/
theorem registrations_leave (h : s.Sound subs) (hsub : sub ∈ subs)
    (hstands : ⟨sub.interest, sub.key, sub.set⟩ ∈ s.places) :
    (s.leave sub).registrations = s.registrations.filter (· ≠ sub.registration) := by
  rw [registrations, registrations, List.filter_flatMap]
  refine List.flatMap_congr fun p hp => ?_
  rw [registered, h.handlers_leave hsub]
  split
  · next heq =>
    obtain rfl := h.eq_of_set hstands hp heq
    rw [(h.distinct _).erase_eq_filter, registered, List.filter_map]
    refine congrArg _ (List.filter_congr fun handler _ => ?_)
    rw [Bool.eq_iff_iff]
    simp [Subscription.registration]
  · next heq =>
    refine (List.filter_eq_self.2 fun r hr => ?_).symm
    obtain ⟨handler, -, rfl⟩ := List.mem_map.1 hr
    refine decide_eq_true fun hreg => heq ?_
    rw [Subscription.registration, Registration.mk.injEq] at hreg
    exact congrArg Place.set (h.eq_of_key hstands hp hreg.1.symm hreg.2.1.symm)

/-- Where the set that a subscription joined stands under no key, nothing goes with its handler. -/
theorem registrations_leave_of_notMem (h : s.Sound subs) (hsub : sub ∈ subs)
    (hstands : ⟨sub.interest, sub.key, sub.set⟩ ∉ s.places) :
    (s.leave sub).registrations = s.registrations := by
  refine List.flatMap_congr fun p hp => ?_
  rw [registered, h.handlers_leave hsub, if_neg, registered]
  intro heq
  obtain ⟨hi, hk⟩ := h.known sub hsub p hp heq.symm
  exact hstands (hi ▸ hk ▸ heq ▸ hp)

/-- Where the set that a subscription joined stands under its key, or nothing does, the
subscription's registration goes and no other. -/
theorem registrations_unsubscribe (h : s.Sound subs) (hsub : sub ∈ subs)
    (hown : ∀ set, ⟨sub.interest, sub.key, set⟩ ∈ s.places → set = sub.set) :
    (s.unsubscribe sub).registrations = s.registrations.filter (· ≠ sub.registration) := by
  have hleave : (s.leave sub).registrations = s.registrations.filter (· ≠ sub.registration) := by
    by_cases hstands : ⟨sub.interest, sub.key, sub.set⟩ ∈ s.places
    · exact h.registrations_leave hsub hstands
    · rw [h.registrations_leave_of_notMem hsub hstands]
      refine (List.filter_eq_self.2 fun r hr => decide_eq_true ?_).symm
      rintro rfl
      obtain ⟨set, hset, -⟩ := mem_registrations.1 hr
      exact hstands (hown set hset ▸ hset)
  rw [unsubscribe_eq]
  split
  · -- a key that is dropped stood over an empty set
    next hempty =>
    rw [registrations_erase, hleave]
    refine List.filter_eq_self.2 fun r hr => ?_
    rw [← hleave] at hr
    obtain ⟨set, hset, hhandler⟩ := mem_registrations.1 hr
    rw [Bool.not_eq_true']
    refine Bool.eq_false_iff.2 fun hunder => ?_
    obtain ⟨hi, hk⟩ := Registration.isUnder_iff.1 hunder
    rw [hi, hk] at hset
    rw [hown set hset, List.isEmpty_iff.1 hempty] at hhandler
    exact List.not_mem_nil hhandler
  · exact hleave

end Sound

/-! ## What a publication calls afterwards -/

/-- Ending a subscription drops its registration and no other: a publication on any channel calls
what it would have called, without the subscription's handler under its key. -/
def DropsOnly (sub : Subscription H) (s : Subscriptions H) : Prop :=
  ∀ channel, (s.unsubscribe sub).recipients channel
    = ((s.calls channel).filter (· ≠ sub.registration)).map (·.handler)

/-- Ending a subscription drops no registration but its own: a publication on any channel calls what
it would have called, with or without the subscription's handler under its key. -/
def DropsAtMost (sub : Subscription H) (s : Subscriptions H) : Prop :=
  ∀ channel, (s.unsubscribe sub).recipients channel
      = ((s.calls channel).filter (· ≠ sub.registration)).map (·.handler)
    ∨ (s.unsubscribe sub).recipients channel = s.recipients channel

/-- Who drops only its own registration drops no other. -/
theorem DropsOnly.dropsAtMost (h : DropsOnly sub s) : DropsAtMost sub s :=
  fun channel => .inl (h channel)

/-- A subscription drops only its own registration if that is what it takes from the list. -/
theorem Sound.dropsOnly (h : s.Sound subs) (hsub : sub ∈ subs)
    (heq : (s.unsubscribe sub).registrations = s.registrations.filter (· ≠ sub.registration)) :
    DropsOnly sub s := by
  intro channel
  rw [(h.unsubscribe hsub).recipients_eq, calls, heq, calls, List.filter_comm]

/-- The set that a subscription joined has no handler but that of the subscription. -/
def IsLast (sub : Subscription H) (s : Subscriptions H) : Prop :=
  (s.handlers sub.set).erase sub.handler = []

/-- A set is empty without a handler if that handler was the last in it. -/
theorem Sound.isEmpty_leave_iff (h : s.Sound subs) (hsub : sub ∈ subs) :
    ((s.leave sub).handlers sub.set).isEmpty = true ↔ IsLast sub s := by
  rw [h.handlers_leave hsub, if_pos rfl, List.isEmpty_iff, IsLast]

section

variable {set : SetRef} (h : s.Sound subs) (hsub : sub ∈ subs)
  (hset : ⟨sub.interest, sub.key, set⟩ ∈ s.places) (hne : set ≠ sub.set)

include h hsub hset hne

/-- Where another set stands under the key, that set is dropped with the key or stays as it is. -/
theorem registrations_unsubscribe_of_ne :
    (IsLast sub s → (s.unsubscribe sub).registrations
        = s.registrations.filter fun r => !r.isUnder sub.interest sub.key)
      ∧ (¬ IsLast sub s → (s.unsubscribe sub).registrations = s.registrations) := by
  have hleave := h.registrations_leave_of_notMem hsub fun hown =>
    hne (congrArg Place.set (h.eq_of_key hset hown rfl rfl))
  rw [unsubscribe_eq]
  refine ⟨fun hlast => ?_, fun hlast => ?_⟩
  · rw [if_pos ((h.isEmpty_leave_iff hsub).2 hlast), registrations_erase, hleave]
  · rw [if_neg (mt (h.isEmpty_leave_iff hsub).1 hlast), hleave]

/-- Where another set stands under the key and stays, nothing is dropped. -/
theorem dropsAtMost_of_not_isLast (hlast : ¬ IsLast sub s) : DropsAtMost sub s := by
  intro channel
  rw [(h.unsubscribe hsub).recipients_eq, calls,
    (registrations_unsubscribe_of_ne h hsub hset hne).2 hlast, h.recipients_eq]
  exact .inr rfl

/-- Where another set stands under the key and stays, the registration is dropped exactly if there
is none. -/
theorem dropsOnly_iff_of_not_isLast (hlast : ¬ IsLast sub s) :
    DropsOnly sub s ↔ sub.handler ∉ s.handlers set := by
  have hsame := (registrations_unsubscribe_of_ne h hsub hset hne).2 hlast
  rw [h.mem_handlers_iff hset]
  constructor
  · intro hdrops hmem
    obtain ⟨channel, hhears⟩ := exists_hears (H := H) sub.interest sub.key
    have hlength := congrArg List.length (hdrops channel)
    rw [(h.unsubscribe hsub).length_recipients, List.length_map, calls, hsame] at hlength
    have hall := List.length_filter_eq_length_iff.1 hlength.symm
    exact of_decide_eq_true (hall _ (List.mem_filter.2 ⟨hmem, hhears sub.handler⟩)) rfl
  · intro hmem
    refine h.dropsOnly hsub (hsame.trans (List.filter_eq_self.2 fun r hr => ?_).symm)
    refine decide_eq_true fun heq => hmem ?_
    rw [heq] at hr
    exact hr

/-- Where another set stands under the key and is dropped with it, something else is dropped unless
the subscription's handler is alone in that set. -/
theorem handlers_eq_of_isLast (hlast : IsLast sub s) (hdrops : DropsAtMost sub s) :
    s.handlers set = [sub.handler] := by
  have hdropped := (registrations_unsubscribe_of_ne h hsub hset hne).1 hlast
  obtain ⟨channel, hhears⟩ := exists_hears (H := H) sub.interest sub.key
  -- what is called beside the subscription's own handler is not under the key
  have hall : ∀ r ∈ s.calls channel, r ≠ sub.registration →
      (!r.isUnder sub.interest sub.key) = true := by
    rcases hdrops channel with hwithout | hsame
    · have hlength := congrArg List.length hwithout
      rw [(h.unsubscribe hsub).length_recipients, List.length_map, calls, hdropped, List.filter_comm]
        at hlength
      have hfilter : (s.calls channel).filter (fun r => !r.isUnder sub.interest sub.key)
          = ((s.calls channel).filter (· ≠ sub.registration)).filter
              fun r => !r.isUnder sub.interest sub.key := by
        rw [List.filter_filter]
        refine List.filter_congr fun r _ => ?_
        by_cases hr : r = sub.registration
        · simp [hr, Registration.isUnder, Subscription.registration]
        · simp [hr]
      rw [← calls, hfilter] at hlength
      exact fun r hr hother => List.length_filter_eq_length_iff.1 hlength r
        (List.mem_filter.2 ⟨hr, decide_eq_true hother⟩)
    · have hlength := congrArg List.length hsame
      rw [(h.unsubscribe hsub).length_recipients, h.length_recipients, calls, hdropped,
        List.filter_comm] at hlength
      exact fun r hr _ => List.length_filter_eq_length_iff.1 hlength r hr
  have honly : ∀ handler ∈ s.handlers set, handler = sub.handler := by
    intro handler hmem
    by_contra hother
    have hcalled := List.mem_filter.2 ⟨(h.mem_handlers_iff hset handler).1 hmem, hhears handler⟩
    have hunder := hall _ hcalled fun heq => hother (congrArg Registration.handler heq)
    simp [Registration.isUnder] at hunder
  obtain ⟨handler, hhandler⟩ := List.exists_mem_of_ne_nil _ (h.filled _ hset)
  have hperm := (List.perm_ext_iff_of_nodup (h.distinct set) (List.nodup_singleton sub.handler)).2
    fun other => ⟨fun hother => List.mem_singleton.2 (honly other hother), fun hother => by
      rw [List.mem_singleton.1 hother, ← honly handler hhandler]
      exact hhandler⟩
  exact List.perm_singleton.1 hperm

/-- Where another set stands under the key and is dropped with it, only the registration is dropped
if the subscription's handler is alone in that set. -/
theorem dropsOnly_of_isLast (hlast : IsLast sub s) (halone : s.handlers set = [sub.handler]) :
    DropsOnly sub s := by
  have hdropped := (registrations_unsubscribe_of_ne h hsub hset hne).1 hlast
  refine h.dropsOnly hsub (hdropped.trans (List.filter_congr fun r hr => ?_))
  rw [Bool.eq_iff_iff, decide_eq_true_iff, Bool.not_eq_true', Bool.eq_false_iff, Ne, not_iff_not,
    Registration.isUnder_iff]
  constructor
  · rintro ⟨hi, hk⟩
    obtain ⟨i, k, handler⟩ := r
    obtain rfl : i = sub.interest := hi
    obtain rfl : k = sub.key := hk
    have hmem := (h.mem_handlers_iff hset handler).2 hr
    rw [halone, List.mem_singleton] at hmem
    rw [hmem]
    rfl
  · rintro rfl
    exact ⟨rfl, rfl⟩

end

/-- Ending a subscription, for the first time or again, drops its registration and no other unless
another set stands under its key by now. If the set that the subscription joined has no other
handler, all handlers of that other set are dropped; else all of them stay. -/
theorem Reachable.dropsOnly_iff (hreach : Reachable s subs) (hsub : sub ∈ subs) :
    (∀ channel, (s.calls channel).map (·.handler) = s.recipients channel)
      ∧ (DropsOnly sub s ↔ ∀ set, (s.table sub.interest).get? sub.key = some set → set ≠ sub.set →
          (IsLast sub s → s.handlers set = [sub.handler])
            ∧ (¬ IsLast sub s → sub.handler ∉ s.handlers set))
      ∧ (DropsAtMost sub s ↔ ∀ set, (s.table sub.interest).get? sub.key = some set → set ≠ sub.set →
          IsLast sub s → s.handlers set = [sub.handler]) := by
  have h := hreach.sound
  refine ⟨fun channel => (h.recipients_eq channel).symm, ?_⟩
  have hplace : ∀ set, (s.table sub.interest).get? sub.key = some set →
      ⟨sub.interest, sub.key, set⟩ ∈ s.places := fun set hget =>
    (s.mem_places_iff _ _ set).2 (KeyTable.mem_of_get? hget)
  by_cases hforeign : ∃ set, (s.table sub.interest).get? sub.key = some set ∧ set ≠ sub.set
  · obtain ⟨set, hget, hne⟩ := hforeign
    have hset := hplace set hget
    by_cases hlast : IsLast sub s
    · have halone := handlers_eq_of_isLast h hsub hset hne hlast
      have hdrops := dropsOnly_of_isLast h hsub hset hne hlast
      simp only [hget, Option.some.injEq, forall_eq', ne_eq, hne, not_false_eq_true, hlast,
        not_true_eq_false, forall_const, false_implies, and_true]
      exact ⟨⟨fun hd => halone hd.dropsAtMost, hdrops⟩, ⟨halone, fun heq => (hdrops heq).dropsAtMost⟩⟩
    · have honly := dropsOnly_iff_of_not_isLast h hsub hset hne hlast
      have hmost := dropsAtMost_of_not_isLast h hsub hset hne hlast
      simp only [hget, Option.some.injEq, forall_eq', ne_eq, hne, not_false_eq_true, hlast,
        forall_const, false_implies, true_and, honly, hmost, implies_true, and_self]
  · have hown : ∀ set, (s.table sub.interest).get? sub.key = some set → set = sub.set :=
      fun set hget => by_contra fun hne => hforeign ⟨set, hget, hne⟩
    have hdrops : DropsOnly sub s := h.dropsOnly hsub <| h.registrations_unsubscribe hsub
      fun set hset => by
        cases hget : (s.table sub.interest).get? sub.key with
        | none => exact absurd ((s.mem_places_iff _ _ set).1 hset) (KeyTable.notMem_of_get? hget set)
        | some other =>
          obtain rfl := hown other hget
          exact congrArg Place.set (h.eq_of_key hset (hplace _ hget) rfl rfl)
    exact ⟨iff_of_true hdrops fun set hget hne => absurd (hown set hget) hne,
      iff_of_true hdrops.dropsAtMost fun set hget hne => absurd (hown set hget) hne⟩

/-- Of two handlers under one key the first is ended, and the other is still called. -/
theorem dropsOnly_first_of_two :
    ∃ (s : Subscriptions Nat) (subs : List (Subscription Nat)) (sub : Subscription Nat),
      Reachable s subs ∧ sub ∈ subs ∧ DropsOnly sub s ∧ s.recipients "chat" = [1, 2]
        ∧ (s.unsubscribe sub).recipients "chat" = [2] := by
  have hreach := (Reachable.start.subscribe .channel "chat" 1).subscribe .channel "chat" 2
  refine ⟨_, _, ⟨.channel, "chat", 0, 1⟩, hreach, by decide +kernel, ?_, by decide +kernel,
    by decide +kernel⟩
  refine (hreach.dropsOnly_iff (by decide +kernel)).2.1.2 fun set hget hne => absurd ?_ hne
  have hset : some set = some 0 := hget.symm.trans (by decide +kernel)
  exact Option.some.inj hset

/-- The key of a subscription was dropped when it was ended, and another handler came under it.
Ending the subscription again drops that handler. -/
theorem dropped_by_stale_subscription :
    ∃ (s : Subscriptions Nat) (subs : List (Subscription Nat)) (sub : Subscription Nat),
      Reachable s subs ∧ sub ∈ subs ∧ sub.handler = 1 ∧ s.recipients "chat" = [2]
        ∧ (s.unsubscribe sub).recipients "chat" = [] ∧ ¬ DropsAtMost sub s := by
  have hreach := ((Reachable.start.subscribe .channel "chat" 1).unsubscribe
    (List.mem_singleton.2 rfl)).subscribe .channel "chat" 2
  refine ⟨_, _, ⟨.channel, "chat", 0, 1⟩, hreach, by decide +kernel, rfl, by decide +kernel,
    by decide +kernel, fun hdrops => ?_⟩
  have hcalled := hdrops "chat"
  revert hcalled
  decide +kernel

end Subscriptions

end UnitOfWork
