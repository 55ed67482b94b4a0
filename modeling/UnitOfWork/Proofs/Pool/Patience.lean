import UnitOfWork.Database.Client
import UnitOfWork.Proofs.Config.Numbers
import UnitOfWork.Proofs.Pool.Service

/-!
# How long borrowers wait

A borrower that is turned away should have waited for as long as the configuration says. A timer
does not wait for longer than `Time.maxDelay` milliseconds: one that is asked to waits for a single
millisecond. So borrowers wait for long enough exactly where the configured wait is one that a timer
can take (`patient_iff`). With a longer wait a pool that has all its slots in use turns the next
borrower away after a millisecond (`exists_hasty`).
-/

namespace UnitOfWork.Lending

/-- A wait for a number of milliseconds is over: the clock shows the moment at which it ends or a
later one. Where it began at a whole millisecond, that is all of the time, without rounding. -/
structure Waited (ms : Number) (arrival now : Time) : Prop where
  reached : now.lt (arrival + ms) = false
  full : arrival.isInteger = true → arrival.value + ms.value ≤ now.value

namespace Shift

variable {g : PoolGuard} {x : Shift}

/-- Every borrower that was turned away had waited for a number of milliseconds. -/
def Patient (ms : Number) (x : Shift) : Prop :=
  ∀ n ∈ x.told, ∀ f, n.result = .error f →
    Waited ms (x.arrivals.getD n.ticket .zero).time n.moment.time

/-! ## Waits that a timer can take -/

/-- Borrowers that are turned away have waited for as long as their timers were set to. -/
theorem Steady.patient (h : x.Steady g) {n : Int} (hlow : 1 ≤ n) (hhigh : n ≤ Time.maxDelay)
    (hdelay : Time.delay g.queueTimeoutMs = .finite n) : x.Patient (.finite n) := by
  intro notice hnotice f hf
  rcases h.justified notice hnotice with hok | ⟨-, -, -, hdue⟩
  · rw [hf] at hok
    cases hok
  rw [due, hdelay] at hdue
  refine ⟨Number.lt_eq_false_of_le hdue, fun hinteger => ?_⟩
  rw [Time.add_eq_of_isInteger (Moment.dated _) hinteger hlow hhigh,
    Number.le_eq rfl notice.moment.isRational] at hdue
  exact of_decide_eq_true hdue

/-! ## Waits that no timer can take -/

/-- Incidents happen in two parts. -/
theorem run_append (x : Shift) (before after : List Incident) :
    x.run (before ++ after) = (x.run before).run after :=
  List.foldl_append

/-- Borrowers that come while there is room get slots, all at the moment that the clock shows. -/
theorem run_replicate_acquire (k : Nat) (h : x.desk.guard.active + k ≤ x.desk.guard.limit) :
    let y := x.run (List.replicate k .acquire)
    y.now = x.now ∧ y.arrivals = x.arrivals ++ List.replicate k x.now
      ∧ y.desk.guard.active = x.desk.guard.active + k ∧ y.desk.guard.limit = x.desk.guard.limit := by
  induction k with
  | zero => exact ⟨rfl, (List.append_nil _).symm, rfl, rfl⟩
  | succ k ih =>
    obtain ⟨hnow, harrivals, hactive, hlimit⟩ := ih (by omega)
    have hstep := step_acquire_of_lt (x := x.run (List.replicate k .acquire)) (by omega)
    have hrun : x.run (List.replicate (k + 1) .acquire)
        = (x.run (List.replicate k .acquire)).step .acquire := by
      rw [List.replicate_succ', run_append]
      rfl
    simp only [hrun, hstep]
    refine ⟨hnow, ?_, ?_, hlimit⟩
    · rw [harrivals, hnow, List.append_assoc, List.replicate_succ']
    · rw [Desk.occupy, hactive, Nat.add_assoc]

/-- The borrower at the head of the queue is turned away once its wait ends. -/
theorem Steady.exists_step_fire (h : x.Steady g) (htimes : g.timesOut = true) {t : Ticket}
    {rest : List Ticket} (hw : x.desk.guard.waiting = t :: rest)
    (hdue : (x.due g t).le x.now.time = true) :
    ∃ d f, x.step .fire = { x with desk := d, told := x.told ++ [⟨t, .error f, x.now⟩] } := by
  have hnext : x.desk.guard.timers.next? = some ⟨x.due g t, t, t⟩ := by
    rw [h.next?_eq, h.timers_eq, if_pos htimes, hw]
    rfl
  obtain ⟨log, hstep⟩ := step_fire hnext hdue (hw ▸ List.mem_cons_self)
  exact ⟨_, _, hstep⟩

/-- Once all slots are in use, the next borrower has to wait. -/
theorem exists_queued (hactive : g.active = 0) :
    ∃ incidents, let y := (opening g .zero).run incidents
      y.now = .zero ∧ (∀ t, y.arrivals.getD t .zero = .zero) ∧ y.desk.guard.waiting ≠ [] := by
  let full := (opening g .zero).run (List.replicate g.limit .acquire)
  obtain ⟨hnow, harrivals, hused, hlimit⟩ :
      full.now = .zero ∧ full.arrivals = List.replicate g.limit Moment.zero
        ∧ full.desk.guard.active = g.active + g.limit ∧ full.desk.guard.limit = g.limit :=
    run_replicate_acquire (x := opening g .zero) g.limit (by show g.active + g.limit ≤ g.limit; omega)
  have hfull : ¬ full.desk.guard.active < full.desk.guard.limit := by omega
  obtain ⟨log, hstep⟩ := step_acquire_of_not_lt hfull
  obtain ⟨timers, -, -, hacquire⟩ := PoolGuard.acquire_of_not_lt hfull full.now.time full.desk.stamps
  refine ⟨List.replicate g.limit .acquire ++ [.acquire], ?_⟩
  rw [run_append]
  show (full.step .acquire).now = _ ∧ (∀ t, (full.step .acquire).arrivals.getD t .zero = .zero)
    ∧ (full.step .acquire).desk.guard.waiting ≠ []
  rw [hstep]
  refine ⟨hnow, fun t => ?_, by simp [Desk.enqueue, hacquire]⟩
  show (full.arrivals ++ [full.now]).getD t .zero = .zero
  rw [harrivals, hnow, ← List.replicate_succ', List.getD_eq_getElem?_getD,
    List.getElem?_getD_replicate_default_eq]

/-- With a wait that no timer takes, the first borrower that finds all slots in use is turned away
one millisecond after it came. -/
theorem exists_hasty (hg : (opening g .zero).Steady g) (hactive : g.active = 0)
    (htimes : g.timesOut = true) (hdelay : Time.delay g.queueTimeoutMs = 1) :
    ∃ incidents, ∃ n ∈ ((opening g .zero).run incidents).told, ∃ f, n.result = .error f
      ∧ ((opening g .zero).run incidents).arrivals.getD n.ticket .zero = .zero
      ∧ n.moment.time = .finite 1 := by
  obtain ⟨incidents, hnow, harrived, hwaits⟩ := exists_queued (g := g) hactive
  generalize hqueued : (opening g .zero).run incidents = queued at hnow harrived hwaits
  obtain ⟨t, rest, hw⟩ := List.exists_cons_of_ne_nil hwaits
  let later : Moment := ⟨.finite 1, by decide⟩
  let y : Shift := { queued with now := later }
  have hpass : queued.step (.pass later) = y := by
    rw [step, hnow]
    exact if_pos (by decide)
  have hsteady : y.Steady g := hpass ▸ hqueued ▸ (hg.run incidents).pass later
  have hdue : (y.due g t).le later.time = true := by
    show ((queued.arrivals.getD t .zero).time + Time.delay g.queueTimeoutMs).le later.time = true
    rw [harrived, hdelay]
    decide +kernel
  obtain ⟨d, f, hfire⟩ := hsteady.exists_step_fire htimes hw hdue
  have hrun : (opening g .zero).run (incidents ++ [.pass later, .fire])
      = { y with desk := d, told := queued.told ++ [⟨t, .error f, later⟩] } := by
    rw [run_append, hqueued, ← hfire, ← hpass]
    rfl
  refine ⟨incidents ++ [.pass later, .fire], ⟨t, .error f, later⟩, ?_, f, rfl, ?_, rfl⟩
  · rw [hrun]
    exact List.mem_append_right _ List.mem_cons_self
  · rw [hrun]
    exact harrived t

/-! ## Configured waits -/

/-- Borrowers of a pool that was made from a configuration wait for at least as long as configured,
whatever borrowers come, whichever slots are given back and however the clock goes on, exactly if
the wait is one that a timer can take. -/
theorem patient_iff {env : Json} {c : Config} (hload : Config.load env = .ok c)
    (hwait : Number.lt 0 c.queueTimeoutMs = true) :
    ∃ g, PoolGuard.make (ClientConfig.ofConfig c).poolSize (ClientConfig.ofConfig c).queueTimeoutMs
      = .ok g
      ∧ ((∀ start incidents, ((opening g start).run incidents).Patient c.queueTimeoutMs)
        ↔ c.queueTimeoutMs.le (.ofInt Time.maxDelay) = true) := by
  obtain ⟨hpool, -, hqueue⟩ := Config.load_numbers hload
  obtain ⟨limit, hlimit, hpool⟩ := Number.exists_eq_natCast hpool.1 hpool.2
  obtain ⟨n, hn, hms⟩ := Number.exists_eq_natCast hqueue.1 hwait
  have hmake := PoolGuard.make_of_pos (hpool ▸ Number.toInt?_finite limit) hlimit c.queueTimeoutMs
  have hstart := fun start => Steady.opening (PoolGuard.sound_of_make hmake 0) rfl rfl rfl start
  refine ⟨_, hmake, ?_⟩
  rw [Time.ofInt_maxDelay]
  constructor
  · intro hpatient
    by_contra hlong
    obtain ⟨incidents, notice, hnotice, f, hf, harrival, hmoment⟩ :=
      exists_hasty (hstart .zero) rfl hwait (if_neg fun h => hlong (Time.ofInt_maxDelay ▸ h.2))
    have hfull := (hpatient .zero incidents notice hnotice f hf).full
    rw [harrival, hmoment, hms] at hfull
    rw [hms, Number.le_eq rfl rfl, decide_eq_true_eq, Number.value_finite, Number.value_finite] at hlong
    have hone : (0 : Rat) + (n : Int) ≤ 1 := hfull (by decide)
    refine hlong (le_trans ?_ (by decide +kernel : (1 : Rat) ≤ (Time.maxDelay : Int)))
    rwa [zero_add] at hone
  · intro hle start incidents
    have hlow : Number.le 1 c.queueTimeoutMs = true := by
      rw [hms, Number.one_eq, Number.le_eq rfl rfl, decide_eq_true_eq, Number.value_finite,
        Number.value_finite]
      exact_mod_cast hn
    obtain ⟨hfloor, hfloor', hdelay⟩ := Time.delay_of_le hlow hle
    have hexact : c.queueTimeoutMs = .finite c.queueTimeoutMs.value.floor := by
      rw [hms, Number.value_finite, Rat.floor_intCast]
    have hpatient := ((hstart start).run incidents).patient hfloor hfloor' hdelay
    rwa [← hexact] at hpatient

/-- With the defaults everybody who is turned away has waited for five seconds. -/
theorem patient_defaults :
    ∃ c g, Config.load (.obj []) = .ok c ∧ c.queueTimeoutMs = 5000
      ∧ PoolGuard.make (some (.num c.poolSize)) c.queueTimeoutMs = .ok g
      ∧ ∀ start incidents, ((opening g start).run incidents).Patient c.queueTimeoutMs := by
  have hload : Config.load (.obj []) = .ok _ := rfl
  obtain ⟨g, hmake, hiff⟩ := patient_iff hload rfl
  exact ⟨_, g, hload, rfl, hmake, hiff.2 (by decide +kernel)⟩

/-- An environment with one connection and a wait of a millisecond more than a timer can take. -/
def hastyEnvironment : Json :=
  .obj [("DB_POOL_MAX", .str "1"), ("DB_QUEUE_TIMEOUT", .str "2147483648")]

/-- A wait of a millisecond more than a timer can take is over after one millisecond: of two
borrowers of one connection the second is turned away. -/
theorem hasty_beyond_maxDelay :
    ∃ c g, Config.load hastyEnvironment = .ok c ∧ c.queueTimeoutMs = 2147483648
      ∧ PoolGuard.make (some (.num c.poolSize)) c.queueTimeoutMs = .ok g
      ∧ (let y := (opening g .zero).run [.acquire, .acquire, .pass ⟨.finite 1, by decide⟩, .fire]
        y.told.map (fun n => (n.ticket, n.result.isOk, n.moment.time)) = [(0, true, 0), (1, false, 1)]
          ∧ ¬ y.Patient c.queueTimeoutMs) := by
  refine ⟨_, { limit := 1, queueTimeoutMs := 2147483648 }, rfl, rfl, rfl, ?_⟩
  intro y
  have htold : y.told.map (fun n => (n.ticket, n.result.isOk, n.moment.time))
      = [(0, true, 0), (1, false, 1)] := by decide +kernel
  have harrival : (y.arrivals.getD 1 .zero).time = .finite 0 := by decide +kernel
  refine ⟨htold, fun hpatient => ?_⟩
  obtain ⟨n, hn, hnotice⟩ := List.mem_map.1 (htold ▸ List.mem_cons_of_mem _ List.mem_cons_self)
  obtain ⟨hticket, hresult, hmoment⟩ : n.ticket = 1 ∧ n.result.isOk = false ∧ n.moment.time = 1 := by
    simpa using hnotice
  cases hf : n.result with
  | ok _ =>
    rw [hf] at hresult
    cases hresult
  | error f =>
    have hfull := (hpatient n hn f hf).full
    rw [hticket, harrival, hmoment] at hfull
    exact absurd (hfull rfl) (by decide +kernel)

end Shift

end UnitOfWork.Lending
