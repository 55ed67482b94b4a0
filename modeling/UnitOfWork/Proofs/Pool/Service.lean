import Mathlib.Data.List.GetD
import UnitOfWork.Proofs.Number.Moment
import UnitOfWork.Proofs.Pool.Balance

/-!
# The order of service

A `Shift` is a desk with a clock that goes on: borrowers come, slots are given back, the clock
passes to later moments, and timers that are due fire, those that are due first before the others.
Whatever happens in whatever order, `Shift.run_inOrder` says that borrowers are told in the order in
which they came, so that nobody is passed over and nobody is told twice. All waits are equally long,
so the timer that fires next is that of the borrower at the head of the queue.
-/

namespace UnitOfWork

/-- A clock that shows a moment. -/
def Moment.clock {ε : Type} (m : Moment) : Lending.Clock ε :=
  ⟨fun _ => m.time, fun _ => m.dated⟩

namespace Timers

/-- Where no timer fires before one that was set earlier, the timer that was set first fires
first. -/
theorem next?_eq_head? {α : Type} {timers : Timers α}
    (h : timers.Pairwise fun a b => b.before a = false) : timers.next? = timers.head? := by
  induction timers with
  | nil => rfl
  | cons t rest ih =>
    rw [List.pairwise_cons] at h
    rw [next?, ih h.2]
    cases rest with
    | nil => rfl
    | cons u rest =>
      have hbefore : u.before t = false := h.1 u List.mem_cons_self
      simp only [List.head?_cons, hbefore, Bool.false_eq_true, if_false]

end Timers

/-- A borrower that joins the queue gets a timer due after the delay of the guard, if borrowers time
out. -/
theorem PoolGuard.acquire_timers {g : PoolGuard} (h : ¬ g.active < g.limit) (now : Time) (stamp : Nat) :
    (g.acquire now stamp).2.timers = g.timers
      ++ if g.timesOut then [⟨now + Time.delay g.queueTimeoutMs, stamp, stamp⟩] else [] := by
  have hroom : ¬ g.hasRoom = true := by simpa [hasRoom] using h
  rw [acquire, if_neg hroom]

namespace Lending

/-- What a borrower was told, and when. -/
structure Notice where
  ticket : Ticket
  result : Except Fault Unit
  moment : Moment

/-- What may happen next while a clock goes on. -/
inductive Incident where
  /-- A borrower comes for a slot. -/
  | acquire
  /-- A slot is given back. -/
  | release
  /-- The clock passes to a moment, unless that is over. -/
  | pass (m : Moment)
  /-- The first of the timers that are due fires, if there is one. -/
  | fire

/-- A desk with a clock, with the moments at which borrowers came, by their tickets, and what they
were told, in the order of telling. -/
structure Shift where
  desk : Desk Empty
  now : Moment
  arrivals : List Moment := []
  told : List Notice := []

namespace Shift

/-- Borrowing slots at the moment that the clock shows. -/
def pool (x : Shift) : Pool Waits (Desk Empty) :=
  Lending.pool x.now.clock await

/-- The desk changes, and who was settled by that is told. -/
def announce (x : Shift) (d : Desk Empty) : Shift :=
  { x with
    desk := d
    told := x.told
      ++ (d.settled.drop x.desk.settled.length).map fun p => ⟨p.1, p.2, x.now⟩ }

/-- Something happens. -/
def step (x : Shift) : Incident → Shift
  | .acquire =>
    let arrivals := x.arrivals ++ [x.now]
    match x.pool.acquire.advance x.desk with
    | (d, .ended result) =>
      { x with desk := d, arrivals, told := x.told ++ [⟨x.desk.stamps, result, x.now⟩] }
    | (d, .asked _ _) => { x with desk := d, arrivals }
  | .release => x.announce (x.pool.release.advance x.desk).1
  | .pass m => if x.now.time.le m.time then { x with now := m } else x
  | .fire =>
    match x.desk.guard.timers.next? with
    | none => x
    | some timer =>
      if timer.due.le x.now.time then x.announce (x.pool.expire timer.payload x.desk).2 else x

/-- One thing happens after another. -/
def run (x : Shift) (incidents : List Incident) : Shift :=
  incidents.foldl step x

/-- A shift that begins with a guard. -/
def opening (g : PoolGuard) (start : Moment) : Shift :=
  { desk := { guard := g }, now := start }

variable {g : PoolGuard} {x : Shift}

/-- Who was told, and who waits, when nobody is told. -/
theorem announce_of_settled {d : Desk Empty} (h : d.settled = x.desk.settled) :
    x.announce d = { x with desk := d } := by
  simp [announce, h]

/-- Who was settled last is told so at this moment. -/
theorem announce_of_settled_snoc {d : Desk Empty} {t : Ticket} {r : Except Fault Unit}
    (h : d.settled = x.desk.settled ++ [(t, r)]) :
    x.announce d = { x with desk := d, told := x.told ++ [⟨t, r, x.now⟩] } := by
  simp [announce, h]

/-! ## What can happen -/

/-- A borrower that finds a slot free is told at once. -/
theorem step_acquire_of_lt (hroom : x.desk.guard.active < x.desk.guard.limit) :
    x.step .acquire = { x with
      desk := x.desk.occupy
      arrivals := x.arrivals ++ [x.now]
      told := x.told ++ [⟨x.desk.stamps, .ok (), x.now⟩] } := by
  have hadvance : x.pool.acquire.advance x.desk = _ :=
    advance_acquire_of_lt x.now.clock await x.desk hroom
  simp only [step, hadvance]

/-- A borrower that finds none joins the queue. -/
theorem step_acquire_of_not_lt (hfull : ¬ x.desk.guard.active < x.desk.guard.limit) :
    ∃ log, x.step .acquire = { x with
      desk := x.desk.enqueue x.now.time log
      arrivals := x.arrivals ++ [x.now] } := by
  obtain ⟨log, hacquire⟩ := advance_acquire_of_not_lt x.now.clock await x.desk hfull
  have hadvance : x.pool.acquire.advance x.desk = _ := hacquire
  refine ⟨log, ?_⟩
  simp only [step, hadvance]
  rfl

/-- Giving back what was not taken changes nothing. -/
theorem step_release_of_zero (h : x.desk.guard.active = 0) : x.step .release = x := by
  have hadvance : x.pool.release.advance x.desk = _ :=
    advance_release_of_zero x.now.clock await x.desk h
  simp only [step, hadvance]
  exact announce_of_settled rfl

/-- A slot that nobody waits for is given back, and nobody is told. -/
theorem step_release_of_nil (h : x.desk.guard.active ≠ 0) (hw : x.desk.guard.waiting = []) :
    x.step .release = { x with desk := x.desk.giveBack } := by
  have hadvance : x.pool.release.advance x.desk = _ := advance_release x.now.clock await x.desk h
  have hsettled : x.desk.giveBack.settled = x.desk.settled := by
    simp only [Desk.giveBack, PoolGuard.release_of_nil h hw]
  simp only [step, hadvance]
  exact announce_of_settled hsettled

/-- A slot that is given back while somebody waits goes to the head of the queue. -/
theorem step_release_of_cons (h : x.desk.guard.active ≠ 0) {t : Ticket} {rest : List Ticket}
    (hw : x.desk.guard.waiting = t :: rest) :
    x.step .release = { x with
      desk := x.desk.giveBack
      told := x.told ++ [⟨t, .ok (), x.now⟩] } := by
  have hadvance : x.pool.release.advance x.desk = _ := advance_release x.now.clock await x.desk h
  have hsettled : x.desk.giveBack.settled = x.desk.settled ++ [(t, .ok ())] := by
    simp only [Desk.giveBack, PoolGuard.release_of_cons h hw]
  simp only [step, hadvance]
  exact announce_of_settled_snoc hsettled

/-- A timer that is due turns its borrower away. -/
theorem step_fire {timer : Timer Ticket} (hnext : x.desk.guard.timers.next? = some timer)
    (hdue : timer.due.le x.now.time = true) (hwaits : timer.payload ∈ x.desk.guard.waiting) :
    ∃ log, x.step .fire = { x with
      desk := x.desk.refuse timer.payload log
      told := x.told
        ++ [⟨timer.payload, .error (x.desk.guard.refusal timer.payload), x.now⟩] } := by
  obtain ⟨log, hexpire⟩ := expire_of_mem x.now.clock (await (ε := Empty)) x.desk hwaits
  have hexpire' : x.pool.expire timer.payload x.desk = _ := hexpire
  refine ⟨log, ?_⟩
  simp only [step, hnext, hdue, if_true, hexpire']
  exact announce_of_settled_snoc rfl

/-! ## What is kept -/

/-- When the timer of a borrower is due that waits at a guard with these settings. -/
def due (g : PoolGuard) (x : Shift) (t : Ticket) : Time :=
  (x.arrivals.getD t .zero).time + Time.delay g.queueTimeoutMs

/-- What a borrower may be told: it has a slot, or it waited for too long and its timer was due. -/
def Justified (g : PoolGuard) (x : Shift) (n : Notice) : Prop :=
  n.result = .ok ()
    ∨ ∃ f : Fault, n.result = .error f ∧ f.IsExhaustion ∧ (x.due g n.ticket).le n.moment.time = true

/-- What everything that happens keeps. -/
structure Steady (g : PoolGuard) (x : Shift) : Prop where
  sound : x.desk.Sound
  settings_eq : x.desk.guard.settings = g.settings
  order : x.told.map (·.ticket) ++ x.desk.guard.waiting = List.range x.desk.stamps
  arrivals_length : x.arrivals.length = x.desk.stamps
  /-- Clocks do not go back. -/
  arrivals_le : ∀ a ∈ x.arrivals, a.time.le x.now.time = true
  arrivals_sorted : x.arrivals.Pairwise fun a b => a.time.le b.time = true
  /-- The timers are those of the borrowers that wait, in the order of the queue. -/
  timers_eq : x.desk.guard.timers
    = if g.timesOut then x.desk.guard.waiting.map fun t => ⟨x.due g t, t, t⟩ else []
  justified : ∀ n ∈ x.told, x.Justified g n

/-- Who comes does not change when the timers of those are due who came before. -/
theorem due_of_lt {y : Shift} {a : Moment} (harrivals : y.arrivals = x.arrivals ++ [a]) {t : Ticket}
    (ht : t < x.arrivals.length) : y.due g t = x.due g t := by
  rw [due, due, harrivals, List.getD_append _ _ _ _ ht]

/-- Who comes last is due when its own wait ends. -/
theorem due_of_length {y : Shift} {a : Moment} (harrivals : y.arrivals = x.arrivals ++ [a]) {t : Ticket}
    (ht : t = x.arrivals.length) : y.due g t = a.time + Time.delay g.queueTimeoutMs := by
  rw [due, harrivals, ht, List.getD_append_right _ _ _ _ (Nat.le_refl _), Nat.sub_self]
  rfl

/-- A notice stays justified as long as its borrower is due at the same time. -/
theorem Justified.congr {y : Shift} {n : Notice} (h : x.Justified g n)
    (hdue : y.due g n.ticket = x.due g n.ticket) : y.Justified g n := by
  rcases h with hok | ⟨f, hf, hexhaustion, hle⟩
  · exact .inl hok
  · exact .inr ⟨f, hf, hexhaustion, hdue.symm ▸ hle⟩

namespace Steady

/-- Who was told something has come. -/
theorem told_lt (h : x.Steady g) {n : Notice} (hn : n ∈ x.told) : n.ticket < x.arrivals.length := by
  have hmem : n.ticket ∈ x.told.map (·.ticket) ++ x.desk.guard.waiting :=
    List.mem_append_left _ (List.mem_map_of_mem hn)
  rw [h.order, List.mem_range] at hmem
  rwa [h.arrivals_length]

/-- Who waits has come. -/
theorem waiting_lt (h : x.Steady g) {t : Ticket} (ht : t ∈ x.desk.guard.waiting) :
    t < x.arrivals.length := by
  rw [h.arrivals_length]
  exact h.sound.guard.drawn t ht

/-- Those who wait stand in the order in which they came. -/
theorem waiting_sorted (h : x.Steady g) : x.desk.guard.waiting.Pairwise (· < ·) := by
  have hsorted : (x.told.map (·.ticket) ++ x.desk.guard.waiting).Pairwise (· < ·) :=
    h.order ▸ List.pairwise_lt_range
  exact (List.pairwise_append.1 hsorted).2.1

/-- Who came later is not due earlier. -/
theorem due_lt_eq_false (h : x.Steady g) {t u : Ticket} (htu : t < u) (hu : u < x.arrivals.length) :
    (x.due g u).lt (x.due g t) = false := by
  have ht := htu.trans hu
  have hle := List.pairwise_iff_getElem.1 h.arrivals_sorted t u ht hu htu
  rw [due, due, List.getD_eq_getElem _ _ ht, List.getD_eq_getElem _ _ hu]
  exact Time.add_delay_lt_eq_false (Moment.isRational _) (Moment.isRational _) hle _

/-- The timer that fires next is that of the borrower at the head of the queue. -/
theorem next?_eq (h : x.Steady g) : x.desk.guard.timers.next? = x.desk.guard.timers.head? := by
  refine Timers.next?_eq_head? ?_
  rw [h.timers_eq]
  split
  · refine List.pairwise_map.2 (h.waiting_sorted.imp_of_mem fun {t u} _ hu htu => ?_)
    simp only [Timer.before, h.due_lt_eq_false htu (h.waiting_lt hu), Bool.false_or,
      Bool.and_eq_false_imp]
    intro _
    exact decide_eq_false (Nat.not_lt.2 htu.le)
  · exact List.Pairwise.nil

/-- A timer fires for the borrower at the head of the queue, and it is due when that one's wait
ends. -/
theorem exists_waiting_eq (h : x.Steady g) {timer : Timer Ticket}
    (hnext : x.desk.guard.timers.next? = some timer) :
    ∃ rest, x.desk.guard.waiting = timer.payload :: rest ∧ timer.due = x.due g timer.payload := by
  rw [h.next?_eq, h.timers_eq] at hnext
  split at hnext
  · cases hw : x.desk.guard.waiting with
    | nil =>
      rw [hw] at hnext
      cases hnext
    | cons t rest =>
      rw [hw] at hnext
      cases hnext
      exact ⟨rest, rfl, rfl⟩
  · cases hnext

/-- A shift opens steadily on a guard on which nobody waits. -/
theorem opening (h : g.Sound 0) (hw : g.waiting = []) (ht : g.timers = []) (hg : g.exhaustions = 0)
    (start : Moment) : (Shift.opening g start).Steady g where
  sound := .start h hg
  settings_eq := rfl
  order := hw
  arrivals_length := rfl
  arrivals_le := nofun
  arrivals_sorted := List.Pairwise.nil
  timers_eq := by
    show g.timers = if g.timesOut then g.waiting.map _ else []
    rw [ht, hw]
    split <;> rfl
  justified := nofun

/-- Who comes now comes at a time that the clock does not go back from. -/
theorem arrivals_le_now (h : x.Steady g) :
    ∀ a ∈ x.arrivals ++ [x.now], a.time.le x.now.time = true := by
  intro a ha
  rcases List.mem_append.1 ha with ha | ha
  · exact h.arrivals_le a ha
  · rw [List.mem_singleton.1 ha]
    exact x.now.le_refl

/-- Who comes now comes after all others. -/
theorem arrivals_sorted_now (h : x.Steady g) :
    (x.arrivals ++ [x.now]).Pairwise fun a b => a.time.le b.time = true := by
  refine List.pairwise_append.2 ⟨h.arrivals_sorted, List.pairwise_singleton _ _, fun a ha b hb => ?_⟩
  rw [List.mem_singleton.1 hb]
  exact h.arrivals_le a ha

/-- A borrower that finds a slot free keeps a shift steady: nobody waits for that slot. -/
theorem enter (h : x.Steady g) (hroom : x.desk.guard.active < x.desk.guard.limit) :
    (x.step .acquire).Steady g := by
  have hw : x.desk.guard.waiting = [] :=
    not_not.1 fun hne => hroom.ne (h.sound.guard.full hne)
  have horder := h.order
  have htimers := h.timers_eq
  rw [hw, List.append_nil] at horder
  rw [step_acquire_of_lt hroom]
  exact {
    sound := h.sound.occupy hroom
    settings_eq := h.settings_eq
    order := by
      show _ ++ x.desk.guard.waiting = List.range (x.desk.stamps + 1)
      rw [hw, List.append_nil, List.map_append, horder, List.range_succ]
      rfl
    arrivals_length := by
      rw [List.length_append, h.arrivals_length]
      rfl
    arrivals_le := h.arrivals_le_now
    arrivals_sorted := h.arrivals_sorted_now
    timers_eq := by
      show x.desk.guard.timers = if g.timesOut then x.desk.guard.waiting.map _ else []
      rw [htimers, hw]
      split <;> rfl
    justified := fun n hn => by
      rcases List.mem_append.1 hn with hn | hn
      · exact (h.justified n hn).congr (due_of_lt rfl (h.told_lt hn))
      · rw [List.mem_singleton.1 hn]
        exact .inl rfl }

/-- A borrower that finds no slot free keeps a shift steady: it joins the queue behind the others, and
its timer those of the others. -/
theorem join (h : x.Steady g) (hfull : ¬ x.desk.guard.active < x.desk.guard.limit) :
    (x.step .acquire).Steady g := by
  obtain ⟨log, hstep⟩ := step_acquire_of_not_lt hfull
  obtain ⟨timers, -, -, hacquire⟩ := PoolGuard.acquire_of_not_lt hfull x.now.time x.desk.stamps
  have hwaiting : (x.desk.enqueue x.now.time log).guard.waiting
      = x.desk.guard.waiting ++ [x.desk.stamps] := by
    simp only [Desk.enqueue, hacquire]
  have htimers := PoolGuard.acquire_timers hfull x.now.time x.desk.stamps
  have htimesOut := PoolGuard.timesOut_eq_of_settings h.settings_eq
  have htimeout : x.desk.guard.queueTimeoutMs = g.queueTimeoutMs := congrArg Prod.snd h.settings_eq
  rw [hstep]
  exact {
    sound := h.sound.enqueue hfull _ log
    settings_eq := (x.desk.enqueue_settings _ log).trans h.settings_eq
    order := by
      show _ ++ (x.desk.enqueue x.now.time log).guard.waiting = List.range (x.desk.stamps + 1)
      rw [hwaiting, ← List.append_assoc, h.order, List.range_succ]
    arrivals_length := by
      rw [List.length_append, h.arrivals_length]
      rfl
    arrivals_le := h.arrivals_le_now
    arrivals_sorted := h.arrivals_sorted_now
    timers_eq := by
      show (x.desk.guard.acquire x.now.time x.desk.stamps).2.timers = _
      rw [htimers, h.timers_eq, hwaiting, htimesOut, htimeout]
      split
      · rw [List.map_append, List.map_singleton, due_of_length rfl h.arrivals_length.symm]
        refine congrArg (· ++ _) (List.map_congr_left fun t ht => ?_)
        exact congrArg (Timer.mk · t t) (due_of_lt rfl (h.waiting_lt ht)).symm
      · rfl
    justified := fun n hn => (h.justified n hn).congr (due_of_lt rfl (h.told_lt hn)) }

/-- A borrower comes: it gets a free slot, or it waits behind those that came before. -/
theorem acquire (h : x.Steady g) : (x.step .acquire).Steady g := by
  by_cases hroom : x.desk.guard.active < x.desk.guard.limit
  · exact h.enter hroom
  · exact h.join hroom

/-- The borrower at the head of the queue is told. -/
theorem tell (h : x.Steady g) {t : Ticket} {rest : List Ticket} {r : Except Fault Unit}
    (hw : x.desk.guard.waiting = t :: rest) {d : Desk Empty} (hsound : d.Sound)
    (hsettings : d.guard.settings = x.desk.guard.settings) (hstamps : d.stamps = x.desk.stamps)
    (hwaiting : d.guard.waiting = rest) (htimers : d.guard.timers = x.desk.guard.timers.cancel t)
    (hjustified : x.Justified g ⟨t, r, x.now⟩) :
    ({ x with desk := d, told := x.told ++ [⟨t, r, x.now⟩] } : Shift).Steady g where
  sound := hsound
  settings_eq := hsettings.trans h.settings_eq
  order := by
    show _ ++ d.guard.waiting = List.range d.stamps
    rw [hwaiting, hstamps, ← h.order, hw, List.map_append, List.append_assoc]
    rfl
  arrivals_length := h.arrivals_length.trans hstamps.symm
  arrivals_le := h.arrivals_le
  arrivals_sorted := h.arrivals_sorted
  timers_eq := by
    show d.guard.timers = if g.timesOut then d.guard.waiting.map _ else []
    have hnodup := h.sound.guard.nodup
    rw [hw, List.nodup_cons] at hnodup
    have hrest : rest.filter (· ≠ t) = rest :=
      List.filter_eq_self.2 fun u hu => by simpa using ne_of_mem_of_not_mem hu hnodup.1
    rw [htimers, h.timers_eq, hw, hwaiting]
    split
    · rw [Timers.cancel, List.filter_map, List.filter_cons_of_neg (by simp)]
      exact congrArg _ hrest
    · rfl
  justified n hn := by
    rcases List.mem_append.1 hn with hn | hn
    · exact h.justified n hn
    · rw [List.mem_singleton.1 hn]
      exact hjustified

/-- A slot is given back: the borrower at the head of the queue gets it, or it is free. -/
theorem release (h : x.Steady g) : (x.step .release).Steady g := by
  by_cases hzero : x.desk.guard.active = 0
  · rw [step_release_of_zero hzero]
    exact h
  have hsound := h.sound.giveBack hzero
  rcases Desk.giveBack_cases hzero with ⟨hw, heq⟩ | ⟨t, rest, hw, heq⟩
  · have hguard : x.desk.giveBack.guard = { x.desk.guard with active := x.desk.guard.active - 1 } := by
      rw [heq]
    rw [step_release_of_nil hzero hw, heq]
    rw [heq] at hsound
    exact ⟨hsound, h.settings_eq, h.order, h.arrivals_length, h.arrivals_le, h.arrivals_sorted,
      h.timers_eq, h.justified⟩
  · rw [step_release_of_cons hzero hw]
    refine h.tell hw hsound x.desk.giveBack_settings ?_ ?_ ?_ (.inl rfl) <;> rw [heq]

/-- The clock passes to a later moment, and everything else stays. -/
theorem pass (h : x.Steady g) (m : Moment) : (x.step (.pass m)).Steady g := by
  rw [step]
  split
  next hle =>
    exact ⟨h.sound, h.settings_eq, h.order, h.arrivals_length,
      fun a ha => Moment.le_trans (h.arrivals_le a ha) hle, h.arrivals_sorted, h.timers_eq,
      h.justified⟩
  next => exact h

/-- A timer that is due turns away the borrower at the head of the queue. -/
theorem fire (h : x.Steady g) : (x.step .fire).Steady g := by
  cases hnext : x.desk.guard.timers.next? with
  | none =>
    have hstep : x.step .fire = x := by simp only [step, hnext]
    rw [hstep]
    exact h
  | some timer =>
    obtain ⟨rest, hw, hdue⟩ := h.exists_waiting_eq hnext
    have hwaits : timer.payload ∈ x.desk.guard.waiting := hw ▸ List.mem_cons_self
    by_cases hle : timer.due.le x.now.time = true
    · obtain ⟨log, hstep⟩ := step_fire hnext hle hwaits
      rw [hstep]
      refine h.tell hw (h.sound.refuse hwaits log) (x.desk.refuse_settings _ log) rfl ?_ ?_
        (.inr ⟨_, rfl, x.desk.guard.refusal_isExhaustion _, hdue ▸ hle⟩)
      · simp only [Desk.refuse, PoolGuard.expire_of_mem hwaits, hw, List.erase_cons_head]
      · simp only [Desk.refuse, PoolGuard.expire_of_mem hwaits]
    · have hstep : x.step .fire = x := by simp only [step, hnext, hle, Bool.false_eq_true, if_false]
      rw [hstep]
      exact h

/-- All that happens, one incident after another, keeps a shift steady. -/
theorem run (h : x.Steady g) (incidents : List Incident) : (x.run incidents).Steady g := by
  induction incidents generalizing x with
  | nil => exact h
  | cons incident incidents ih =>
    have hnext : (x.step incident).Steady g := by
      cases incident with
      | acquire => exact h.acquire
      | release => exact h.release
      | pass m => exact h.pass m
      | fire => exact h.fire
    exact ih hnext

end Steady

/-! ## Service in order -/

/-- Borrowers are served in the order in which they came. -/
structure InOrder (x : Shift) : Prop where
  /-- Every borrower has a ticket, numbered by its arrival. -/
  arrivals_length : x.arrivals.length = x.desk.stamps
  /-- Those who were told, one after another, and then those who wait, from the head of the queue,
  are all who came, in the order of coming. -/
  order : x.told.map (·.ticket) ++ x.desk.guard.waiting = List.range x.desk.stamps
  /-- When a borrower is told, all who came before it were told before, each once. -/
  nobody_skipped : ∀ before n after, x.told = before ++ n :: after →
    before.map (·.ticket) = List.range n.ticket
  granted_or_refused : ∀ n ∈ x.told,
    n.result = .ok () ∨ ∃ f : Fault, n.result = .error f ∧ f.IsExhaustion
  /-- Who comes while others wait goes to the end of the queue. -/
  queues_behind : x.desk.guard.waiting ≠ [] →
    (x.step .acquire).told = x.told
      ∧ (x.step .acquire).desk.guard.waiting = x.desk.guard.waiting ++ [x.desk.stamps]
  /-- A slot that is given back goes to the head of the queue. -/
  passes_on : ∀ t rest, x.desk.guard.waiting = t :: rest →
    (x.step .release).told = x.told ++ [⟨t, .ok (), x.now⟩]
      ∧ (x.step .release).desk.guard.waiting = rest
      ∧ (x.step .release).desk.guard.active = x.desk.guard.active
  /-- The timer that fires next is that of the head of the queue. When it is due it turns that
  borrower away and changes neither the slots in use nor the order of the others. -/
  turns_away : ∀ timer, x.desk.guard.timers.next? = some timer →
    ∃ rest, x.desk.guard.waiting = timer.payload :: rest
      ∧ (timer.due.le x.now.time = true → ∃ f : Fault, f.IsExhaustion
        ∧ (x.step .fire).told = x.told ++ [⟨timer.payload, .error f, x.now⟩]
        ∧ (x.step .fire).desk.guard.waiting = rest
        ∧ (x.step .fire).desk.guard.active = x.desk.guard.active)

/-- What stands before an element in a count from zero is the count up to it. -/
theorem eq_range_of_append {before after : List Nat} {a n : Nat}
    (h : before ++ a :: after = List.range n) : before = List.range a := by
  have hlt : before.length < n := by
    have hlength := congrArg List.length h
    rw [List.length_append, List.length_cons, List.length_range] at hlength
    omega
  have ha : a = before.length := by
    have hget : (before ++ a :: after)[before.length]? = some a := by simp
    rw [h, List.getElem?_range hlt] at hget
    exact (Option.some.inj hget).symm
  calc before = (before ++ a :: after).take before.length := List.take_left.symm
    _ = List.range a := by rw [h, List.take_range, Nat.min_eq_left hlt.le, ha]

/-- What every incident keeps puts the service in order. -/
theorem Steady.inOrder (h : x.Steady g) (hlimit : 1 ≤ g.limit) : x.InOrder where
  arrivals_length := h.arrivals_length
  order := h.order
  nobody_skipped before n after htold := by
    have horder := h.order
    rw [htold, List.map_append, List.map_cons, List.append_assoc, List.cons_append] at horder
    exact eq_range_of_append horder
  granted_or_refused n hn := by
    rcases h.justified n hn with hok | ⟨f, hf, hexhaustion, -⟩
    · exact .inl hok
    · exact .inr ⟨f, hf, hexhaustion⟩
  queues_behind hne := by
    have hfull : ¬ x.desk.guard.active < x.desk.guard.limit := fun hlt =>
      hlt.ne (h.sound.guard.full hne)
    obtain ⟨log, hstep⟩ := step_acquire_of_not_lt hfull
    obtain ⟨timers, -, -, hacquire⟩ :=
      PoolGuard.acquire_of_not_lt hfull x.now.time x.desk.stamps
    rw [hstep]
    exact ⟨rfl, by simp only [Desk.enqueue, hacquire]⟩
  passes_on t rest hw := by
    have hactive : x.desk.guard.active ≠ 0 := by
      have hfull := h.sound.guard.full (by rw [hw]; exact List.cons_ne_nil t rest)
      have hsame := PoolGuard.limit_eq_of_settings h.settings_eq
      omega
    rw [step_release_of_cons hactive hw]
    simp only [Desk.giveBack, PoolGuard.release_of_cons hactive hw, and_self]
  turns_away timer hnext := by
    obtain ⟨rest, hw, -⟩ := h.exists_waiting_eq hnext
    have hwaits : timer.payload ∈ x.desk.guard.waiting := hw ▸ List.mem_cons_self
    refine ⟨rest, hw, fun hle => ?_⟩
    obtain ⟨log, hstep⟩ := step_fire hnext hle hwaits
    refine ⟨_, x.desk.guard.refusal_isExhaustion timer.payload, ?_⟩
    rw [hstep]
    simp only [Desk.refuse, PoolGuard.expire_of_mem hwaits, hw, List.erase_cons_head, and_self]

/-- Whatever borrowers come, whichever slots are given back and however the clock goes on, borrowers
are served in the order in which they came. -/
theorem run_inOrder {value : Number} {limit : Nat} (hvalue : value.toInt? = some (limit : Int))
    (hlimit : 1 ≤ limit) (queueTimeoutMs : Number) (start : Moment) :
    let g : PoolGuard := { limit, queueTimeoutMs }
    PoolGuard.make (some (.num value)) queueTimeoutMs = .ok g
      ∧ ∀ incidents, ((opening g start).run incidents).InOrder := by
  intro g
  have hmake := PoolGuard.make_of_pos hvalue hlimit queueTimeoutMs
  have hstart : (opening g start).Steady g :=
    .opening (PoolGuard.sound_of_make hmake 0) rfl rfl rfl start
  exact ⟨hmake, fun incidents => (hstart.run incidents).inOrder hlimit⟩

/-- Five borrowers come to a guard with one slot. -/
theorem run_inOrder_oneSlot :
    let x := (opening .oneSlot .zero).run
      [.acquire, .acquire, .acquire, .pass ⟨.finite 20, by decide⟩, .acquire, .release,
        .pass ⟨.finite 50, by decide⟩, .fire, .fire, .acquire, .release]
    x.told.map (fun n => (n.ticket, n.result.isOk)) = [(0, true), (1, true), (2, false), (3, true)]
      ∧ x.desk.guard.waiting = [4] ∧ x.InOrder := by
  have hone : (1 : Number).toInt? = some ((1 : Nat) : Int) := rfl
  exact ⟨by decide +kernel, by decide +kernel, (run_inOrder hone (Nat.le_refl 1) 50 .zero).2 _⟩

end Shift

end Lending

end UnitOfWork
