import Mathlib.Algebra.BigOperators.Fin
import UnitOfWork.Proofs.Pool.Turns

/-!
# Counting slots

Slots in use are those of connections that were lent and not given back and those of calls that hold
one. `Tally` says so, with a number of slots beside them that a call has in hand in the middle of
its turn; each thing that a turn does changes the tally in one place. A slot that is passed on goes
to the one call that waits with the ticket.
-/

namespace UnitOfWork.Lending

variable {ι : Type}

/-! ## Connections -/

section

variable {history : List (Event ι)} {e : Event ι}

/-- The connections lent in two parts of a history are those of the first and then those of the
second. -/
@[simp] theorem lent_append (history history' : List (Event ι)) :
    lent (history ++ history') = lent history ++ lent history' :=
  List.filterMap_append

/-- The connections given back in two parts of a history are those of the first and then those of
the second. -/
@[simp] theorem returned_append (history history' : List (Event ι)) :
    returned (history ++ history') = returned history ++ returned history' :=
  List.filterMap_append

/-- A connection is out if it was lent and not given back. -/
theorem mem_outstanding {c : Connection} :
    c ∈ outstanding history ↔ c ∈ lent history ∧ c ∉ returned history := by
  simp [outstanding]

/-- A connection that is lent for the first time is outstanding. -/
theorem outstanding_lent {i : ι} {c : Connection} (hnew : c ∉ returned history) :
    outstanding (history ++ [.lent i (.ok c)]) = outstanding history ++ [c] := by
  have hlent : lent (history ++ [.lent i (.ok c)]) = lent history ++ [c] := List.filterMap_append
  have hreturned : returned (history ++ [.lent i (.ok c)]) = returned history := by simp [returned]
  rw [outstanding, hlent, hreturned, List.filter_append, outstanding]
  simp [hnew]

/-- A connection that is given back for the first time is outstanding no more. -/
theorem outstanding_returned {c : Connection} {r : Except Fault Unit} (hnodup : (lent history).Nodup)
    (hlent : c ∈ lent history) (hnew : c ∉ returned history) :
    (outstanding (history ++ [.returned c r])).length + 1 = (outstanding history).length := by
  have hlent' : lent (history ++ [.returned c r]) = lent history := by simp [lent]
  have hreturned : returned (history ++ [.returned c r]) = returned history ++ [c] :=
    List.filterMap_append
  have hmem : c ∈ outstanding history := mem_outstanding.2 ⟨hlent, hnew⟩
  have hnodup' : (outstanding history).Nodup := hnodup.filter _
  have herase : outstanding (history ++ [.returned c r]) = (outstanding history).erase c := by
    rw [hnodup'.erase_eq_filter, outstanding, hlent', hreturned, outstanding, List.filter_filter]
    refine List.filter_congr fun b _ => Bool.eq_iff_iff.2 ?_
    simp
    tauto
  rw [herase, List.length_erase_of_mem hmem]
  exact Nat.succ_pred_eq_of_pos (List.length_pos_of_mem hmem)

end

/-- The books over connections that were lent and given back. -/
structure Loans (released : List Connection) (history : List (Event ι)) : Prop where
  nodup : (lent history).Nodup
  numbered : ∀ c ∈ lent history, c.number ≤ (lent history).length
  lent_of_returned : ∀ c ∈ returned history, c ∈ lent history
  /-- No connection is given back to the client twice. -/
  returned_nodup : (returned history).Nodup
  released_iff : ∀ c, c ∈ released ↔ c ∈ returned history

namespace Loans

variable {released : List Connection} {history history' : List (Event ι)}

/-- The books depend on a history only by what was lent and given back. -/
theorem congr (h : Loans released history) (hlent : lent history' = lent history)
    (hreturned : returned history' = returned history) : Loans released history' where
  nodup := by rw [hlent]; exact h.nodup
  numbered := by rw [hlent]; exact h.numbered
  lent_of_returned := by rw [hlent, hreturned]; exact h.lent_of_returned
  returned_nodup := by rw [hreturned]; exact h.returned_nodup
  released_iff := by rw [hreturned]; exact h.released_iff

/-- The connection that is lent next was never lent. -/
theorem next_notMem (h : Loans released history) :
    (⟨(lent history).length + 1⟩ : Connection) ∉ lent history := fun hmem =>
  Nat.not_succ_le_self _ (h.numbered _ hmem)

/-- A connection that is lent is new, and enters the books. -/
theorem lend (h : Loans released history) (i : ι) :
    Loans released (history ++ [.lent i (.ok ⟨(lent history).length + 1⟩)]) := by
  have hnew := h.next_notMem
  generalize hc : (⟨(lent history).length + 1⟩ : Connection) = c at hnew
  have hnumber : c.number = (lent history).length + 1 := hc ▸ rfl
  have hlent : lent (history ++ [.lent i (.ok c)]) = lent history ++ [c] := lent_append _ _
  have hreturned : returned (history ++ [.lent i (.ok c)]) = returned history := by simp [returned]
  refine ⟨?_, ?_, ?_, ?_, ?_⟩
  · rw [hlent]
    exact List.Nodup.append h.nodup (List.nodup_singleton c) (by simpa using hnew)
  · intro b hb
    rw [hlent, List.length_append, List.length_singleton]
    rw [hlent, List.mem_append, List.mem_singleton] at hb
    rcases hb with hb | rfl
    · exact Nat.le_succ_of_le (h.numbered b hb)
    · exact Nat.le_of_eq hnumber
  · intro b hb
    rw [hreturned] at hb
    rw [hlent]
    exact List.mem_append_left _ (h.lent_of_returned b hb)
  · rw [hreturned]
    exact h.returned_nodup
  · rw [hreturned]
    exact h.released_iff

/-- A connection that was lent and not given back before leaves the books. -/
theorem takeBack (h : Loans released history) {c : Connection} (hc : c ∈ lent history)
    (hnew : c ∉ released) (r : Except Fault Unit) :
    Loans (c :: released) (history ++ [.returned c r]) := by
  have hunreturned : c ∉ returned history := fun hmem => hnew ((h.released_iff c).2 hmem)
  have hlent : lent (history ++ [.returned c r]) = lent history := by simp [lent]
  have hreturned : returned (history ++ [.returned c r]) = returned history ++ [c] :=
    returned_append _ _
  refine ⟨hlent ▸ h.nodup, hlent ▸ h.numbered, ?_, ?_, ?_⟩
  · intro b hb
    rw [hreturned, List.mem_append, List.mem_singleton] at hb
    rw [hlent]
    rcases hb with hb | rfl
    · exact h.lent_of_returned b hb
    · exact hc
  · rw [hreturned]
    exact List.Nodup.append h.returned_nodup (List.nodup_singleton c) (by simpa using hunreturned)
  · intro b
    rw [List.mem_cons, hreturned, List.mem_append, List.mem_singleton, h.released_iff b]
    exact or_comm

end Loans

/-! ## Holders -/

namespace Stage

/-- The ticket that a call waits with. -/
def ticket? : Stage → Option Ticket
  | queued _ t => some t
  | _ => none

/-- A call holds a slot. -/
def holds (d : Desk (Event ι)) : Stage → Bool
  | queued _ t => d.granted t
  | lending | working _ _ _ _ => true
  | fresh _ | ended _ => false

end Stage

/-- A call holds a slot if it is at a stage that does. -/
theorem holds_atStage (w : Surroundings ι) (d : Desk (Event ι)) (stage : Stage) :
    d.holds (w.atStage stage) = stage.holds d := by
  cases stage with
  | fresh call => cases call <;> rfl
  | _ => rfl

/-- Whether a call holds a slot depends on its ticket, if it waits with one. -/
theorem Stage.holds_of_ticket {stage : Stage} {t : Ticket} (h : stage.ticket? = some t)
    (d : Desk (Event ι)) : stage.holds d = d.granted t := by
  cases stage <;> first | cases h; rfl | cases h

/-- At a stage without a ticket, whether a slot is held does not depend on the desk. -/
theorem Stage.holds_of_no_ticket {stage : Stage} (h : stage.ticket? = none) (d d' : Desk (Event ι)) :
    stage.holds d = stage.holds d' := by
  cases stage <;> first | rfl | cases h

/-- How many calls hold a slot. -/
def holders [Fintype ι] (d : Desk (Event ι)) (stages : ι → Stage) : Nat :=
  (Finset.univ.filter fun i => (stages i).holds d).card

/-- Where no ticket is settled, the holders stay. -/
theorem holders_congr [Fintype ι] {d d' : Desk (Event ι)} (stages : ι → Stage)
    (h : ∀ i t, (stages i).ticket? = some t → d'.granted t = d.granted t) :
    holders d' stages = holders d stages := by
  have hholds : ∀ i, (stages i).holds d' = (stages i).holds d := by
    intro i
    cases hticket : (stages i).ticket? with
    | none => exact Stage.holds_of_no_ticket hticket d' d
    | some t => rw [Stage.holds_of_ticket hticket, Stage.holds_of_ticket hticket, h i t hticket]
  simp only [holders, hholds]

/-- A ticket is settled with a slot, which the one call that waits with it holds now. -/
theorem holders_settle [Fintype ι] {d d' : Desk (Event ι)} {stages : ι → Stage} {i : ι} {t : Ticket}
    (ht : d.outcome? t = none) (hi : (stages i).ticket? = some t)
    (halone : ∀ j, (stages j).ticket? = some t → j = i)
    (hsettled : d'.settled = d.settled ++ [(t, .ok ())]) :
    holders d' stages = holders d stages + 1 := by
  classical
  have hgranted := Desk.granted_settle ht hsettled
  have hnot : (stages i).holds d = false := by
    rw [Stage.holds_of_ticket hi, Desk.granted, ht]
    rfl
  have hset : (Finset.univ.filter fun j => (stages j).holds d')
      = insert i (Finset.univ.filter fun j => (stages j).holds d) := by
    ext j
    rw [Finset.mem_insert, Finset.mem_filter, Finset.mem_filter]
    by_cases hji : j = i
    · subst hji
      have hholds : (stages j).holds d' = true := by
        rw [Stage.holds_of_ticket hi, hgranted, if_pos rfl]
        rfl
      simp [hholds]
    · have hsame : (stages j).holds d' = (stages j).holds d := by
        cases hticket : (stages j).ticket? with
        | none => exact Stage.holds_of_no_ticket hticket d' d
        | some u =>
          have hne : u ≠ t := by
            rintro rfl
            exact hji (halone j hticket)
          rw [Stage.holds_of_ticket hticket, Stage.holds_of_ticket hticket, hgranted, if_neg hne]
      simp [hji, hsame]
  rw [holders, hset, Finset.card_insert_of_notMem, holders]
  simp [hnot]

/-- One call's stage changes: it may hold a slot no more, or hold one now. -/
theorem holders_update [Fintype ι] [DecidableEq ι] (d : Desk (Event ι)) (stages : ι → Stage) (i : ι)
    (stage : Stage) :
    holders d (Function.update stages i stage) + ((stages i).holds d).toNat
      = holders d stages + (stage.holds d).toNat := by
  have hsum : ∀ stages : ι → Stage, holders d stages = ∑ j, ((stages j).holds d).toNat := by
    intro stages
    rw [holders, Finset.card_filter]
    refine Finset.sum_congr rfl fun j _ => ?_
    cases (stages j).holds d <;> rfl
  have hrest : ∑ j ∈ Finset.univ.erase i, ((Function.update stages i stage j).holds d).toNat
      = ∑ j ∈ Finset.univ.erase i, ((stages j).holds d).toNat :=
    Finset.sum_congr rfl fun j hj => by
      rw [Function.update_of_ne (Finset.ne_of_mem_erase hj)]
  rw [hsum, hsum, ← Finset.add_sum_erase _ _ (Finset.mem_univ i), hrest, Function.update_self,
    ← Finset.add_sum_erase _ (fun j => ((stages j).holds d).toNat) (Finset.mem_univ i)]
  omega

/-! ## The queue -/

/-- The books over the queue: who waits in it is a call, and no two calls have the same ticket. -/
structure Queue (waiting : List Ticket) (stamps : Nat) (stages : ι → Stage) : Prop where
  waits : ∀ t ∈ waiting, ∃ i, (stages i).ticket? = some t
  alone : ∀ i j t, (stages i).ticket? = some t → (stages j).ticket? = some t → i = j
  drawn : ∀ i t, (stages i).ticket? = some t → t < stamps

namespace Queue

variable {waiting waiting' : List Ticket} {stamps stamps' : Nat} {stages : ι → Stage}

/-- Others leave the queue, or draw tickets. -/
theorem mono (h : Queue waiting stamps stages) (hwaiting : ∀ t ∈ waiting', t ∈ waiting)
    (hstamps : stamps ≤ stamps') : Queue waiting' stamps' stages where
  waits t ht := h.waits t (hwaiting t ht)
  alone := h.alone
  drawn i t ht := Nat.lt_of_lt_of_le (h.drawn i t ht) hstamps

variable [DecidableEq ι] {i : ι}

/-- A call that is not in the queue waits for no slot any more. -/
theorem leave (h : Queue waiting stamps stages) {stage : Stage} (hticket : stage.ticket? = none)
    (hfree : ∀ t, (stages i).ticket? = some t → t ∉ waiting) :
    Queue waiting stamps (Function.update stages i stage) := by
  have hold : ∀ j t, (Function.update stages i stage j).ticket? = some t →
      (stages j).ticket? = some t := by
    intro j t ht
    by_cases hj : j = i
    · subst hj
      rw [Function.update_self, hticket] at ht
      cases ht
    · rwa [Function.update_of_ne hj] at ht
  refine ⟨fun t ht => ?_, fun j j' t hj hj' => h.alone j j' t (hold j t hj) (hold j' t hj'),
    fun j t hj => h.drawn j t (hold j t hj)⟩
  obtain ⟨j, hj⟩ := h.waits t ht
  have hne : j ≠ i := by
    rintro rfl
    exact hfree t hj ht
  exact ⟨j, by rwa [Function.update_of_ne hne]⟩

/-- A call joins the queue with a new ticket. -/
theorem join (h : Queue waiting stamps stages) (hticket : (stages i).ticket? = none) (errand : Errand) :
    Queue (waiting ++ [stamps]) (stamps + 1) (Function.update stages i (.queued errand stamps)) := by
  have hold : ∀ j t, (Function.update stages i (.queued errand stamps) j).ticket? = some t →
      j = i ∧ t = stamps ∨ j ≠ i ∧ (stages j).ticket? = some t := by
    intro j t ht
    by_cases hj : j = i
    · subst hj
      rw [Function.update_self] at ht
      exact .inl ⟨rfl, (Option.some.inj ht).symm⟩
    · exact .inr ⟨hj, by rwa [Function.update_of_ne hj] at ht⟩
  refine ⟨?_, ?_, ?_⟩
  · intro t ht
    rw [List.mem_append, List.mem_singleton] at ht
    rcases ht with ht | rfl
    · obtain ⟨j, hj⟩ := h.waits t ht
      have hne : j ≠ i := by
        rintro rfl
        rw [hticket] at hj
        cases hj
      exact ⟨j, by rwa [Function.update_of_ne hne]⟩
    · exact ⟨i, by rw [Function.update_self]; rfl⟩
  · intro j j' t hj hj'
    rcases hold j t hj with ⟨hji, ht⟩ | ⟨-, hj⟩
    · rcases hold j' t hj' with ⟨hji', -⟩ | ⟨-, hj'⟩
      · rw [hji, hji']
      · exact absurd ht (Nat.ne_of_lt (h.drawn j' t hj'))
    · rcases hold j' t hj' with ⟨-, ht⟩ | ⟨-, hj'⟩
      · exact absurd ht (Nat.ne_of_lt (h.drawn j t hj))
      · exact h.alone j j' t hj hj'
  · intro j t hj
    rcases hold j t hj with ⟨-, rfl⟩ | ⟨-, hj⟩
    · exact Nat.lt_succ_self t
    · exact Nat.lt_succ_of_lt (h.drawn j t hj)

end Queue

/-! ## The tally -/

/-- The books over a guard and the calls on it, in the middle of a turn that has a number of slots
in hand. -/
structure Tally [Fintype ι] (g : PoolGuard) (d : Desk (Event ι)) (stages : ι → Stage) (inHand : Nat) :
    Prop where
  sound : d.Sound
  settings_eq : d.guard.settings = g.settings
  loans : Loans d.released d.history
  queue : Queue d.guard.waiting d.stamps stages
  active_eq : d.guard.active = (outstanding d.history).length + holders d stages + inHand

namespace Tally

variable [Fintype ι] {g : PoolGuard} {d d' : Desk (Event ι)} {stages : ι → Stage} {k : Nat}

/-- What has to do with neither tickets nor connections does not change the tally. -/
theorem congr (h : Tally g d stages k) (hguard : d'.guard = d.guard) (hstamps : d'.stamps = d.stamps)
    (hsettled : d'.settled = d.settled) (hreleased : d'.released = d.released)
    (hlent : lent d'.history = lent d.history) (hreturned : returned d'.history = returned d.history) :
    Tally g d' stages k where
  sound := h.sound.congr hguard hstamps hsettled
  settings_eq := by rw [hguard]; exact h.settings_eq
  loans := by rw [hreleased]; exact h.loans.congr hlent hreturned
  queue := by rw [hguard, hstamps]; exact h.queue
  active_eq := by
    have hholders : holders d' stages = holders d stages :=
      holders_congr stages fun _ _ _ => by simp only [Desk.granted, Desk.outcome?, hsettled]
    rw [hholders, hguard, outstanding, hlent, hreturned]
    exact h.active_eq

/-- An event that is about no connection does not change the tally. -/
theorem note (h : Tally g d stages k) {e : Event ι} (hlent : lent [e] = [])
    (hreturned : returned [e] = []) : Tally g (d.note e) stages k := by
  refine h.congr rfl rfl rfl rfl ?_ ?_
  · show lent (d.history ++ [e]) = _
    rw [lent_append, hlent, List.append_nil]
  · show returned (d.history ++ [e]) = _
    rw [returned_append, hreturned, List.append_nil]

/-- Where a call holds a slot, slots are in use. -/
theorem active_of_holds (h : Tally g d stages k) {i : ι} (hi : (stages i).holds d = true) :
    d.guard.active ≠ 0 := by
  have hpos : 0 < holders d stages := Finset.card_pos.2 ⟨i, Finset.mem_filter.2 ⟨Finset.mem_univ i, hi⟩⟩
  have hactive := h.active_eq
  omega

/-- Where a connection is outstanding, slots are in use. -/
theorem active_of_outstanding (h : Tally g d stages k) {c : Connection}
    (hc : c ∈ outstanding d.history) : d.guard.active ≠ 0 := by
  have hpos : 0 < (outstanding d.history).length := List.length_pos_of_mem hc
  have hactive := h.active_eq
  omega

/-- Where a call has a slot in hand, slots are in use. -/
theorem active_ne_zero (h : Tally g d stages (k + 1)) : d.guard.active ≠ 0 := by
  have hactive := h.active_eq
  omega

/-- A slot that is free is taken in hand. -/
theorem occupy (h : Tally g d stages k) (hroom : d.guard.active < d.guard.limit) :
    Tally g d.occupy stages (k + 1) where
  sound := h.sound.occupy hroom
  settings_eq := h.settings_eq
  loans := h.loans
  queue := h.queue.mono (fun _ => id) (Nat.le_succ _)
  active_eq := by
    have hactive := h.active_eq
    show d.guard.active + 1 = (outstanding d.history).length + holders d stages + (k + 1)
    omega

/-- The slot in hand goes with a connection that is lent. -/
theorem lend (h : Tally g d stages (k + 1)) (i : ι) :
    Tally g (d.note (.lent i (.ok ⟨(lent d.history).length + 1⟩))) stages k where
  sound := h.sound.congr rfl rfl rfl
  settings_eq := h.settings_eq
  loans := h.loans.lend i
  queue := h.queue
  active_eq := by
    have hunreturned : (⟨(lent d.history).length + 1⟩ : Connection) ∉ returned d.history := fun hmem =>
      h.loans.next_notMem (h.loans.lent_of_returned _ hmem)
    have hactive := h.active_eq
    generalize (⟨(lent d.history).length + 1⟩ : Connection) = c at hunreturned ⊢
    show d.guard.active = (outstanding (d.history ++ [.lent i (.ok c)])).length + holders d stages + k
    rw [outstanding_lent hunreturned, List.length_append, List.length_singleton]
    omega

/-- A connection that is given back for the first time leaves its slot in hand. -/
theorem takeBack (h : Tally g d stages k) {c : Connection} (hc : c ∈ lent d.history)
    (hnew : c ∉ d.released) (r : Except Fault Unit) :
    Tally g (({ d with released := c :: d.released } : Desk (Event ι)).note (.returned c r)) stages
      (k + 1) where
  sound := h.sound.congr rfl rfl rfl
  settings_eq := h.settings_eq
  loans := h.loans.takeBack hc hnew r
  queue := h.queue
  active_eq := by
    have hunreturned : c ∉ returned d.history := fun hmem => hnew ((h.loans.released_iff c).2 hmem)
    have hlength := outstanding_returned (r := r) h.loans.nodup hc hunreturned
    have hactive := h.active_eq
    show d.guard.active = (outstanding (d.history ++ [.returned c r])).length + holders d stages
      + (k + 1)
    omega

/-- A call goes on to a stage at which it waits for no slot; the slot that it held is in hand then,
and the one that it holds now is in hand no more. -/
theorem update [DecidableEq ι] (h : Tally g d stages k) {i : ι} {stage : Stage} {k' : Nat}
    (hticket : stage.ticket? = none) (hfree : ∀ t, (stages i).ticket? = some t → t ∉ d.guard.waiting)
    (hk : k + ((stages i).holds d).toNat = k' + (stage.holds d).toNat) :
    Tally g d (Function.update stages i stage) k' where
  sound := h.sound
  settings_eq := h.settings_eq
  loans := h.loans
  queue := h.queue.leave hticket hfree
  active_eq := by
    have hactive := h.active_eq
    have hholders := holders_update d stages i stage
    omega

/-- A call joins the queue with a new ticket. -/
theorem enqueue [DecidableEq ι] (h : Tally g d stages k) (hfull : ¬ d.guard.active < d.guard.limit)
    {i : ι} (hticket : (stages i).ticket? = none) (hholds : (stages i).holds d = false)
    (errand : Errand) (now : Time) (log : Log) :
    Tally g (d.enqueue now log) (Function.update stages i (.queued errand d.stamps)) k := by
  obtain ⟨timers, -, -, hacquire⟩ := PoolGuard.acquire_of_not_lt hfull now d.stamps
  have hwaiting : (d.enqueue now log).guard.waiting = d.guard.waiting ++ [d.stamps] := by
    simp only [Desk.enqueue, hacquire]
  have hactive : (d.enqueue now log).guard.active = d.guard.active := by
    simp only [Desk.enqueue, hacquire]
  refine ⟨h.sound.enqueue hfull now log, (d.enqueue_settings now log).trans h.settings_eq, h.loans,
    hwaiting ▸ h.queue.join hticket errand, ?_⟩
  have hnew : (Stage.queued errand d.stamps).holds d = false := by
    show d.granted d.stamps = false
    rw [Desk.granted, h.sound.outcome?_stamps]
    rfl
  have hholders := holders_update d stages i (.queued errand d.stamps)
  rw [hholds, hnew] at hholders
  have hsame : holders (d.enqueue now log) (Function.update stages i (.queued errand d.stamps))
      = holders d stages :=
    (holders_congr _ fun _ _ _ => rfl).trans (Nat.add_right_cancel hholders)
  rw [hactive, hsame]
  exact h.active_eq

/-- The slot in hand is given back: it is free again, or the call that waits with the next ticket
has it. -/
theorem giveBack (h : Tally g d stages (k + 1)) : Tally g d.giveBack stages k := by
  have hsound := h.sound.giveBack h.active_ne_zero
  have hsettings := d.giveBack_settings.trans h.settings_eq
  have hactive := h.active_eq
  rcases Desk.giveBack_cases h.active_ne_zero with ⟨hw, heq⟩ | ⟨t, rest, hw, heq⟩
  · rw [heq] at hsound hsettings ⊢
    refine ⟨hsound, hsettings, h.loans, h.queue, ?_⟩
    show d.guard.active - 1 = (outstanding d.history).length + holders d stages + k
    omega
  · have ht : t ∈ d.guard.waiting := hw ▸ List.mem_cons_self
    obtain ⟨i, hi⟩ := h.queue.waits t ht
    have hholders : holders d.giveBack stages = holders d stages + 1 :=
      holders_settle (h.sound.outcome?_waiting ht) hi (fun j hj => h.queue.alone j i t hj hi)
        (by rw [heq])
    rw [heq] at hsound hsettings hholders ⊢
    have hqueue : Queue rest d.stamps stages :=
      h.queue.mono (fun u hu => hw ▸ List.mem_cons_of_mem t hu) (Nat.le_refl _)
    refine ⟨hsound, hsettings, h.loans, hqueue, ?_⟩
    rw [hholders]
    show d.guard.active = (outstanding d.history).length + (holders d stages + 1) + k
    omega

/-- A call that waited too long is turned away; nobody gets a slot. -/
theorem refuse (h : Tally g d stages k) {t : Ticket} (ht : t ∈ d.guard.waiting) (log : Log) :
    Tally g (d.refuse t log) stages k := by
  have hexpire := PoolGuard.expire_of_mem ht
  have hwaiting : (d.refuse t log).guard.waiting = d.guard.waiting.erase t := by
    simp only [Desk.refuse, hexpire]
  have hactive : (d.refuse t log).guard.active = d.guard.active := by
    simp only [Desk.refuse, hexpire]
  have houtcome := h.sound.outcome?_waiting ht
  have hholders : holders (d.refuse t log) stages = holders d stages := by
    refine holders_congr stages fun j u _ => ?_
    rw [Desk.granted_settle houtcome rfl]
    split
    next heq =>
      rw [heq, Desk.granted, houtcome]
      rfl
    next => rfl
  refine ⟨h.sound.refuse ht log, (d.refuse_settings t log).trans h.settings_eq, h.loans, ?_, ?_⟩
  · rw [hwaiting]
    exact h.queue.mono (fun _ => List.mem_of_mem_erase) (Nat.le_refl _)
  · rw [hactive, hholders]
    exact h.active_eq

end Tally

end UnitOfWork.Lending
