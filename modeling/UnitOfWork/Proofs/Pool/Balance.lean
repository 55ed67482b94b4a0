import UnitOfWork.Proofs.Pool.Lending

/-!
# The balance of a guard

Calls for a slot, calls that give one back and timers that fire come in any order and at any time,
also calls that give back what was never taken. A `Watch` makes these calls on a desk and counts how
they end. `Watch.run_balanced` says what then holds in every state: slots in use are those granted
less those given back and never more than the limit, nobody waits while a slot is free, every
borrower that was turned away was counted, the pending timers are those of the borrowers that wait,
and giving a slot back fails exactly if none is in use.
-/

namespace UnitOfWork.Lending

variable {ε : Type}

/-- Programs that wait for nothing but slots. -/
abbrev Waits : Signature :=
  ⟨Ticket, fun _ => Unit⟩

/-- Waits for the slot of a ticket. -/
def await (t : Ticket) : Program Waits (Desk ε) Unit :=
  .ask t .done

/-- What may happen to a guard next. -/
inductive Move where
  /-- A slot is asked for. -/
  | acquire
  /-- A slot is given back. -/
  | release
  /-- The pending timer at a place fires, if there is one. -/
  | fire (place : Nat)

/-- A desk, with how the calls ended that were made so far. -/
structure Watch where
  desk : Desk Move
  /-- Calls for a slot that were granted one at once. -/
  admitted : Nat := 0
  /-- Calls for a slot that failed at once. -/
  failed : Nat := 0
  /-- Calls to give a slot back that succeeded. -/
  returned : Nat := 0

namespace Watch

variable (clock : Clock Move) {g : PoolGuard} {x : Watch}

/-- A move is made. -/
def move (x : Watch) (m : Move) : Watch :=
  let d := x.desk.note m
  match m with
  | .acquire =>
    match (pool clock await).acquire.advance d with
    | (d', .ended (.ok ())) => { x with desk := d', admitted := x.admitted + 1 }
    | (d', .ended (.error _)) => { x with desk := d', failed := x.failed + 1 }
    | (d', .asked _ _) => { x with desk := d' }
  | .release =>
    match (pool clock await).release.advance d with
    | (d', .ended (.ok ())) => { x with desk := d', returned := x.returned + 1 }
    | (d', _) => { x with desk := d' }
  | .fire place =>
    match d.guard.timers[place]? with
    | none => { x with desk := d }
    | some timer => { x with desk := ((pool clock await).expire timer.payload d).2 }

/-- Moves are made one after another. -/
def run (x : Watch) (moves : List Move) : Watch :=
  moves.foldl (move clock) x

/-- Calls for a slot that were granted one, at once or after a wait. -/
def granted (x : Watch) : Nat :=
  x.admitted + x.desk.grants

/-- Calls for a slot that were rejected. -/
def rejected (x : Watch) : Nat :=
  x.failed + x.desk.refusals

/-- The books of a guard, which was made with the settings of the first, are in balance. -/
structure Balanced (g : PoolGuard) (x : Watch) : Prop where
  limit_eq : x.desk.guard.limit = g.limit
  active_le : x.desk.guard.active ≤ g.limit
  full : x.desk.guard.waiting ≠ [] → x.desk.guard.active = g.limit
  granted_eq : x.granted = x.desk.guard.active + x.returned
  exhaustions_eq : x.desk.guard.exhaustions = x.rejected
  /-- No borrower waits twice, is told twice, or is told while it waits. -/
  tickets_nodup : (x.desk.settled.map Prod.fst ++ x.desk.guard.waiting).Nodup
  timed : g.timesOut = true → ∀ t, x.desk.guard.timers.countP (·.payload = t)
    = if t ∈ x.desk.guard.waiting then 1 else 0
  untimed : g.timesOut = false → x.desk.guard.timers = []
  release_fails : x.desk.guard.active = 0 →
    (pool clock await).release.advance x.desk = (x.desk, .ended (.error PoolGuard.unmatched))
  release_succeeds : x.desk.guard.active ≠ 0 →
    ∃ d, (pool clock await).release.advance x.desk = (d, .ended (.ok ()))

/-- What every move keeps. -/
structure Steady (g : PoolGuard) (x : Watch) : Prop where
  sound : x.desk.Sound
  settings_eq : x.desk.guard.settings = g.settings
  granted_eq : x.granted = x.desk.guard.active + x.returned
  failed_eq : x.failed = 0

/-- What every move keeps brings the books in balance. -/
theorem Steady.balanced (h : x.Steady g) : x.Balanced clock g := by
  have hlimit := PoolGuard.limit_eq_of_settings h.settings_eq
  have htimesOut := PoolGuard.timesOut_eq_of_settings h.settings_eq
  exact {
    limit_eq := hlimit
    active_le := hlimit ▸ h.sound.guard.active_le
    full := fun hne => hlimit ▸ h.sound.guard.full hne
    granted_eq := h.granted_eq
    exhaustions_eq := by rw [rejected, h.failed_eq, Nat.zero_add, h.sound.exhaustions]
    tickets_nodup := h.sound.tickets_nodup
    timed := fun htimes => h.sound.guard.count_timers (htimesOut.trans htimes)
    untimed := fun htimes => h.sound.guard.timers_eq_nil (htimesOut.trans htimes)
    release_fails := fun hzero => advance_release_of_zero clock await x.desk hzero
    release_succeeds := fun hne => ⟨_, advance_release clock await x.desk hne⟩ }

/-! ## Moves -/

/-- A slot is asked for: it is granted at once, or the borrower joins the queue. -/
theorem Steady.acquire (h : x.Steady g) : (x.move clock .acquire).Steady g := by
  generalize hd : x.desk.note .acquire = d
  have hnoted : d.Sound := hd ▸ h.sound.congr rfl rfl rfl
  have hsettings : d.guard.settings = g.settings := hd ▸ h.settings_eq
  have hgranted : x.admitted + d.grants = d.guard.active + x.returned := hd ▸ h.granted_eq
  by_cases hroom : d.guard.active < d.guard.limit
  · have hmove : x.move clock .acquire = { x with desk := d.occupy, admitted := x.admitted + 1 } := by
      simp only [move, hd, advance_acquire_of_lt clock await d hroom]
    rw [hmove]
    refine ⟨hnoted.occupy hroom, hsettings, ?_, h.failed_eq⟩
    show x.admitted + 1 + d.grants = d.guard.active + 1 + x.returned
    omega
  · obtain ⟨log, hadvance⟩ := advance_acquire_of_not_lt clock await d hroom
    generalize clock.time d.history = now at hadvance
    have hmove : x.move clock .acquire = { x with desk := d.enqueue now log } := by
      simp only [move, hd, hadvance]
      rfl
    rw [hmove]
    refine ⟨hnoted.enqueue hroom now log, (d.enqueue_settings now log).trans hsettings, ?_, h.failed_eq⟩
    have hactive : (d.enqueue now log).guard.active = d.guard.active := by
      obtain ⟨timers, -, -, hacquire⟩ := PoolGuard.acquire_of_not_lt hroom now d.stamps
      simp only [Desk.enqueue, hacquire]
    show x.admitted + d.grants = (d.enqueue now log).guard.active + x.returned
    rw [hactive, hgranted]

/-- A slot is given back: one that is in use is free again or passed on, and where none is in use
nothing changes. -/
theorem Steady.release (h : x.Steady g) : (x.move clock .release).Steady g := by
  generalize hd : x.desk.note .release = d
  have hnoted : d.Sound := hd ▸ h.sound.congr rfl rfl rfl
  have hsettings : d.guard.settings = g.settings := hd ▸ h.settings_eq
  have hgranted : x.admitted + d.grants = d.guard.active + x.returned := hd ▸ h.granted_eq
  by_cases hzero : d.guard.active = 0
  · have hmove : x.move clock .release = { x with desk := d } := by
      simp only [move, hd, advance_release_of_zero clock await d hzero]
    rw [hmove]
    exact ⟨hnoted, hsettings, hgranted, h.failed_eq⟩
  · have hmove : x.move clock .release = { x with desk := d.giveBack, returned := x.returned + 1 } := by
      simp only [move, hd, advance_release clock await d hzero]
    rw [hmove]
    refine ⟨hnoted.giveBack hzero, d.giveBack_settings.trans hsettings, ?_, h.failed_eq⟩
    show x.admitted + d.giveBack.grants = d.giveBack.guard.active + (x.returned + 1)
    have hbalance := Desk.giveBack_balance hzero
    omega

/-- A pending timer fires: its borrower waits and is turned away. -/
theorem Steady.fire (h : x.Steady g) (place : Nat) : (x.move clock (.fire place)).Steady g := by
  generalize hd : x.desk.note (.fire place) = d
  have hnoted : d.Sound := hd ▸ h.sound.congr rfl rfl rfl
  have hsettings : d.guard.settings = g.settings := hd ▸ h.settings_eq
  have hgranted : x.admitted + d.grants = d.guard.active + x.returned := hd ▸ h.granted_eq
  cases htimer : d.guard.timers[place]? with
  | none =>
    have hmove : x.move clock (.fire place) = { x with desk := d } := by
      simp only [move, hd, htimer]
    rw [hmove]
    exact ⟨hnoted, hsettings, hgranted, h.failed_eq⟩
  | some timer =>
    have hwaits := hnoted.guard.payload_mem (List.mem_of_getElem? htimer)
    obtain ⟨log, hexpire⟩ := expire_of_mem clock (await (ε := Move)) d hwaits
    have hmove : x.move clock (.fire place) = { x with desk := d.refuse timer.payload log } := by
      simp only [move, hd, htimer, hexpire]
    rw [hmove]
    refine ⟨hnoted.refuse hwaits log, (d.refuse_settings _ log).trans hsettings, ?_, h.failed_eq⟩
    have hactive : (d.refuse timer.payload log).guard.active = d.guard.active := by
      simp only [Desk.refuse, PoolGuard.expire_of_mem hwaits]
    have hgrants : (d.refuse timer.payload log).grants = d.grants := by
      simp [Desk.refuse, Desk.grants, Except.isOk, Except.toBool]
    show x.admitted + (d.refuse timer.payload log).grants
      = (d.refuse timer.payload log).guard.active + x.returned
    rw [hactive, hgrants, hgranted]

/-- Any sequence of moves keeps what every move keeps. -/
theorem Steady.run (h : x.Steady g) (moves : List Move) : (x.run clock moves).Steady g := by
  induction moves generalizing x with
  | nil => exact h
  | cons m moves ih =>
    have hnext : (x.move clock m).Steady g := by
      cases m with
      | acquire => exact h.acquire clock
      | release => exact h.release clock
      | fire place => exact h.fire clock place
    exact ih hnext

/-- Whatever calls are made on a guard and whichever of its timers fire, in any order and at any
time, its books are in balance. -/
theorem run_balanced {value : Number} {limit : Nat} (hvalue : value.toInt? = some (limit : Int))
    (hlimit : 1 ≤ limit) (queueTimeoutMs : Number) :
    let g : PoolGuard := { limit, queueTimeoutMs }
    PoolGuard.make (some (.num value)) queueTimeoutMs = .ok g
      ∧ ∀ moves, (({ desk := { guard := g } } : Watch).run clock moves).Balanced clock g := by
  intro g
  have hmake := PoolGuard.make_of_pos hvalue hlimit queueTimeoutMs
  have hstart : ({ desk := { guard := g } } : Watch).Steady g :=
    ⟨.start (PoolGuard.sound_of_make hmake 0) rfl, rfl, rfl, rfl⟩
  exact ⟨hmake, fun moves => (hstart.run clock moves).balanced clock⟩

/-- Three borrowers come, the second is turned away, the first passes its slot on to the third, and
of two more slots that are given back the last was never taken. -/
theorem run_balanced_oneSlot :
    let x := ({ desk := { guard := .oneSlot } } : Watch).run .still
      [.acquire, .acquire, .acquire, .fire 0, .release, .release, .release]
    x.granted = 2 ∧ x.rejected = 1 ∧ x.returned = 2 ∧ x.desk.guard.active = 0
      ∧ x.Balanced .still .oneSlot := by
  have hone : (1 : Number).toInt? = some ((1 : Nat) : Int) := rfl
  exact ⟨rfl, rfl, rfl, rfl, (run_balanced .still hone (Nat.le_refl 1) 50).2 _⟩

end Watch

end UnitOfWork.Lending
