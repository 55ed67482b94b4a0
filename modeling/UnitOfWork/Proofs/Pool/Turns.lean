import UnitOfWork.Proofs.Pool.Calls

/-!
# Turns of calls on a guard

A call that wants a slot has an errand: it borrows a connection, or it works on a job. `Stage` says
what a call waits for, `Surroundings.atStage` is what is left of its program, and `Goes` lists what
its turns do to the desk. The programs of the calls are opened here and nowhere else
(`turn_atStage`), under the condition that a call which gives a slot back does so while slots are in
use.
-/

namespace UnitOfWork

namespace Program

variable {S : Signature} {σ α β : Type}

/-- What is made of the value of a program may be made of it before the clean-up. -/
theorem ensure_bind_pure (p : Program S σ α) (cleanup : Program S σ Unit) (f : α → β) :
    (p.ensure cleanup >>= fun a => pure (f a)) = (p >>= fun a => pure (f a)).ensure cleanup := by
  show (p.andThen _).andThen _ = (p.andThen _).andThen _
  rw [andThen_andThen, andThen_andThen]
  refine congrArg p.andThen (funext fun outcome => ?_)
  show (cleanup.andThen _).andThen _ = _
  rw [andThen_andThen]
  cases outcome <;> refine congrArg cleanup.andThen (funext fun cleaned => ?_) <;>
    cases cleaned <;> rfl

end Program

namespace Lending

variable {ι : Type}

/-! ## Stages -/

/-- What a call does with its slot. -/
inductive Errand where
  /-- It borrows a connection, which then has the slot. -/
  | lend
  /-- It works on a job, and gives the slot back after it. -/
  | work (name : Text) (job : Job)

/-- The errand of a call, if it has one. -/
def Call.errand? : Call → Option Errand
  | reserve => some .lend
  | release _ => none
  | publish message => some (.work (NotifyBus.operationName message)
      (.asks (.notify message) fun answer => .ends (answer.map fun _ => .nothing)))
  | run name job => some (.work name job)

/-- How far a call is. -/
inductive Stage where
  | fresh (call : Call)
  /-- It waits for a slot. -/
  | queued (errand : Errand) (t : Ticket)
  /-- It waits for the client's connection. -/
  | lending
  /-- Its job waits for an answer. -/
  | working (name : Text) (start : Time) (q : Question) (next : Except Fault Json → Job)
  | ended (outcome : Except Fault Reply)

namespace Surroundings

variable (w : Surroundings ι)

/-- What is left of a call that just got its slot. -/
def afterSlot : Errand → Program Requests (Desk (Event ι)) Reply
  | .lend => w.source.lend.rescue (fun f => do w.pool.release; .fail f) >>= fun c =>
      pure (.connection c)
  | .work name job => Program.read w.pool.journal.now >>= fun start =>
      job.program.ensure (w.pool.windUp name start)

/-- What is left of a call. -/
def atStage : Stage → Program Requests (Desk (Event ι)) Reply
  | .fresh call => w.program call
  | .queued errand t => .ask (.slot t) fun answer =>
      (Program.done answer : Program Requests (Desk (Event ι)) Unit) >>= fun _ => w.afterSlot errand
  | .lending => w.afterSlot .lend
  | .working name start q next => (Job.asks q next).program.ensure (w.pool.windUp name start)
  | .ended outcome => .done outcome

/-- Nothing is left of a call only where it ended. -/
theorem stage_of_done {stage : Stage} {outcome : Except Fault Reply}
    (h : w.atStage stage = .done outcome) : stage = .ended outcome := by
  cases stage with
  | fresh call => cases call <;> cases h
  | queued errand t => cases h
  | lending => cases h
  | working name start q next => cases h
  | ended outcome =>
    cases h
    rfl

/-- A call with an errand waits for a slot and then goes about it. -/
theorem program_eq {call : Call} {errand : Errand} (h : call.errand? = some errand) :
    w.program call = w.pool.acquire >>= fun _ => w.afterSlot errand := by
  cases call with
  | release c => cases h
  | run name job =>
    cases h
    rfl
  | reserve =>
    cases h
    exact Program.bind_bind _ _ _
  | publish message =>
    cases h
    have hjob : (w.bus.notify message >>= fun _ => pure Reply.nothing)
        = (Job.asks (.notify message) fun answer =>
            .ends (answer.map fun _ => .nothing)).program := by
      refine congrArg (Program.ask _) (funext fun answer => ?_)
      cases answer <;> rfl
    show (w.pool.run (NotifyBus.operationName message) (w.bus.notify message) >>= fun _ =>
      pure Reply.nothing) = _
    rw [Pool.run_eq, Program.bind_bind]
    refine congrArg (w.pool.acquire >>= ·) (funext fun _ => ?_)
    rw [Program.bind_bind, afterSlot, ← hjob]
    refine congrArg (Program.read w.pool.journal.now >>= ·) (funext fun start => ?_)
    exact Program.ensure_bind_pure _ _ _

end Surroundings

/-! ## What a turn does -/

/-- How a call goes on with a job while it holds a slot. -/
inductive Continues (d : Desk (Event ι)) (name : Text) (start : Time) :
    Job → Desk (Event ι) → Stage → Prop where
  | ends (outcome : Except Fault Reply) (log : Log) :
      Continues d name start (.ends outcome) ({ d with log := log } : Desk (Event ι)).giveBack
        (.ended outcome)
  | asks (q : Question) (next : Except Fault Json → Job) :
      Continues d name start (.asks q next) d (.working name start q next)

/-- How a call goes about its errand when it got a slot. -/
inductive SetsOut (d : Desk (Event ι)) : Errand → Desk (Event ι) → Stage → Prop where
  | lend : SetsOut d .lend d .lending
  | work {name : Text} {start : Time} {job : Job} {d' : Desk (Event ι)} {stage : Stage}
      (h : Continues d name start job d' stage) : SetsOut d (.work name job) d' stage

/-- What one turn of a call does: the desk that it leaves and the stage that it gets to. -/
inductive Goes (i : ι) (d : Desk (Event ι)) : Stage → Desk (Event ι) → Stage → Prop where
  | admitted {call : Call} {errand : Errand} {d' : Desk (Event ι)} {stage : Stage}
      (hcall : call.errand? = some errand) (hroom : d.guard.active < d.guard.limit)
      (h : SetsOut d.occupy errand d' stage) : Goes i d (.fresh call) d' stage
  | queues {call : Call} {errand : Errand} (now : Time) (log : Log) (hcall : call.errand? = some errand)
      (hfull : ¬ d.guard.active < d.guard.limit) :
      Goes i d (.fresh call) (d.enqueue now log) (.queued errand d.stamps)
  | served {errand : Errand} {t : Ticket} {d' : Desk (Event ι)} {stage : Stage}
      (ht : d.outcome? t = some (.ok ())) (h : SetsOut (d.note (.woken i (.ok ()))) errand d' stage) :
      Goes i d (.queued errand t) d' stage
  | refused {errand : Errand} {t : Ticket} {f : Fault} (ht : d.outcome? t = some (.error f)) :
      Goes i d (.queued errand t) (d.note (.woken i (.error f))) (.ended (.error f))
  | lends : Goes i d .lending (d.note (.lent i (.ok ⟨(lent d.history).length + 1⟩)))
      (.ended (.ok (.connection ⟨(lent d.history).length + 1⟩)))
  | lendFails (f : Fault) :
      Goes i d .lending (d.note (.lent i (.error f))).giveBack (.ended (.error f))
  | works {name : Text} {start : Time} {q : Question} {next : Except Fault Json → Job}
      {answer : Except Fault Json} {d' : Desk (Event ι)} {stage : Stage}
      (h : Continues (d.note (.answered i q answer)) name start (next answer) d' stage) :
      Goes i d (.working name start q next) d' stage
  | returns {c : Connection} (result : Except Fault Unit) (hc : c ∈ lent d.history)
      (hnew : c ∉ d.released) :
      Goes i d (.fresh (.release c))
        (({ d with released := c :: d.released } : Desk (Event ι)).note
          (.returned c result)).giveBack (.ended (result.map fun _ => .nothing))
  | returnsAgain {c : Connection} (hc : c ∈ lent d.history) (hold : c ∈ d.released) :
      Goes i d (.fresh (.release c)) d (.ended (.ok .nothing))
  | rests (outcome : Except Fault Reply) : Goes i d (.ended outcome) d (.ended outcome)

namespace Surroundings

variable (w : Surroundings ι) (d : Desk (Event ι))

/-- What is left of a job where it stops. -/
theorem halted_job (h : d.guard.active ≠ 0) (name : Text) (start : Time) (job : Job) :
    ∃ d' stage, Program.halted ((job.program.ensure (w.pool.windUp name start)).advance d)
      = (w.atStage stage, d') ∧ Continues d name start job d' stage := by
  cases job with
  | ends outcome =>
    obtain ⟨log, hwindUp⟩ := advance_windUp w.clock waitFor d h name start
    have hwindUp' : (w.pool.windUp name start).advance d = _ := hwindUp
    refine ⟨_, .ended outcome, ?_, .ends outcome log⟩
    show Program.halted ((w.pool.windUp name start >>= fun _ => Program.done outcome).advance d) = _
    rw [Program.advance_bind, hwindUp']
    rfl
  | asks q next => exact ⟨d, .working name start q next, rfl, .asks q next⟩

/-- What is left of a call where it stops, after it got its slot. -/
theorem halted_afterSlot (h : d.guard.active ≠ 0) (errand : Errand) :
    ∃ d' stage, Program.halted ((w.afterSlot errand).advance d) = (w.atStage stage, d')
      ∧ SetsOut d errand d' stage := by
  cases errand with
  | lend => exact ⟨d, .lending, rfl, .lend⟩
  | work name job =>
    obtain ⟨d', stage, hhalted, hcontinues⟩ := w.halted_job d h name (w.pool.journal.now d) job
    exact ⟨d', stage, hhalted, .work hcontinues⟩

/-- A turn of a call at a stage is one of the cases of `Goes`. -/
def Turns (i : ι) (stage : Stage) : Prop :=
  ∃ d' stage', (w.atStage stage).turn (w.serve i) d = (w.atStage stage', d') ∧ Goes i d stage d' stage'

variable (i : ι)

/-- How a call that needs a slot begins: it is admitted or joins the queue. -/
theorem turns_errand {call : Call} {errand : Errand} (hcall : call.errand? = some errand) :
    w.Turns d i (.fresh call) := by
  have hturn : (w.atStage (.fresh call)).turn (w.serve i) d
      = Program.halted ((w.pool.acquire >>= fun _ => w.afterSlot errand).advance d) := by
    rw [atStage, w.program_eq hcall]
    rfl
  by_cases hroom : d.guard.active < d.guard.limit
  · have hacquire : w.pool.acquire.advance d = _ := advance_acquire_of_lt w.clock _ d hroom
    have hactive : d.occupy.guard.active ≠ 0 := Nat.succ_ne_zero _
    obtain ⟨d', stage, hhalted, hsets⟩ := w.halted_afterSlot d.occupy hactive errand
    refine ⟨d', stage, ?_, .admitted hcall hroom hsets⟩
    rw [hturn, Program.advance_bind, hacquire, ← hhalted]
  · obtain ⟨log, hacquire⟩ := advance_acquire_of_not_lt w.clock waitFor d hroom
    have hacquire' : w.pool.acquire.advance d = _ := hacquire
    refine ⟨_, .queued errand d.stamps, ?_, .queues (w.clock.time d.history) log hcall hroom⟩
    rw [hturn, Program.advance_bind, hacquire']
    rfl

/-- How a call gives a connection back, for the first time or again. -/
theorem turns_release {c : Connection} (hc : c ∈ lent d.history)
    (hactive : c ∉ d.released → d.guard.active ≠ 0) : w.Turns d i (.fresh (.release c)) := by
  have hturn : (w.atStage (.fresh (.release c))).turn (w.serve i) d
      = Program.halted ((w.source.release c >>= fun _ => pure .nothing).advance d) := rfl
  by_cases hold : c ∈ d.released
  · refine ⟨d, .ended (.ok .nothing), ?_, .returnsAgain hc hold⟩
    rw [hturn]
    simp [PooledSource.release, Program.advance_bind, source, hold]
    rfl
  · let d₁ : Desk (Event ι) := { d with released := c :: d.released }
    let result := w.takesBack d₁.history c
    have hrelease : w.pool.release.advance (d₁.note (.returned c result)) = _ :=
      advance_release w.clock waitFor _ (hactive hold)
    refine ⟨_, _, ?_, .returns result hc hold⟩
    have htakeBack : (w.takeBack c).advance d₁ = (d₁.note (.returned c result), .ended result) := rfl
    have hreleased : w.source.released.update (c :: ·) d = d₁ := rfl
    have hcontains : (w.source.released.get d).contains c = false := by simpa [source] using hold
    have hpool : w.source.pool = w.pool := rfl
    have htake : w.source.takeBack = w.takeBack := rfl
    rw [hturn]
    simp only [PooledSource.release, Program.advance_bind, Program.advance_load, hcontains,
      Bool.not_false, ↓reduceIte, Program.advance_modify, hreleased, Program.ensure,
      Program.advance_andThen, Program.bind, hpool, htake, htakeBack, hrelease, Program.advance_done]
    cases result <;> rfl

/-- How a call goes on that was told what became of its wait. -/
theorem turns_queued {errand : Errand} {t : Ticket} (ht : (d.outcome? t).isSome)
    (hactive : d.granted t = true → d.guard.active ≠ 0) : w.Turns d i (.queued errand t) := by
  obtain ⟨result, hresult⟩ := Option.isSome_iff_exists.1 ht
  have hserve : w.serve i (.slot t) d = (result, d.note (.woken i result)) := by
    simp only [serve, hresult]
    rfl
  cases result with
  | ok _ =>
    have hgranted : d.granted t = true := by rw [Desk.granted, hresult]; rfl
    obtain ⟨d', stage, hhalted, hsets⟩ :=
      w.halted_afterSlot (d.note (.woken i (.ok ()))) (hactive hgranted) errand
    refine ⟨d', stage, ?_, .served hresult hsets⟩
    rw [← hhalted]
    show Program.halted ((Program.bind (.done (w.serve i (.slot t) d).1) _).advance _) = _
    rw [hserve]
    rfl
  | error f =>
    refine ⟨_, .ended (.error f), ?_, .refused hresult⟩
    show Program.halted ((Program.bind (.done (w.serve i (.slot t) d).1) _).advance
      (w.serve i (.slot t) d).2) = _
    rw [hserve]
    rfl

/-- How a call goes on when the client lent a connection or failed. -/
theorem turns_lending (hactive : d.guard.active ≠ 0) : w.Turns d i .lending := by
  cases hlends : w.lends d.history with
  | ok _ =>
    refine ⟨_, _, ?_, .lends⟩
    show Program.halted (((Program.done (w.serve i .lend d).1).rescue _ >>= _).advance
      (w.serve i .lend d).2) = _
    have hserve : w.serve i .lend d = (.ok ⟨(lent d.history).length + 1⟩,
        d.note (.lent i (.ok ⟨(lent d.history).length + 1⟩))) := by
      simp only [serve, hlends]
    rw [hserve]
    rfl
  | error f =>
    have hrelease : w.pool.release.advance (d.note (.lent i (.error f))) = _ :=
      advance_release w.clock waitFor _ hactive
    refine ⟨_, _, ?_, .lendFails f⟩
    show Program.halted (((Program.done (w.serve i .lend d).1).rescue _ >>= _).advance
      (w.serve i .lend d).2) = _
    have hserve : w.serve i .lend d = (.error f, d.note (.lent i (.error f))) := by
      simp only [serve, hlends]
    rw [hserve]
    show Program.halted (((w.pool.release >>= fun _ => Program.fail f) >>= fun c =>
      pure (Reply.connection c)).advance _) = _
    rw [Program.bind_bind, Program.advance_bind, hrelease]
    rfl

/-- How a call goes on with its job when it got an answer. -/
theorem turns_working {name : Text} {start : Time} {q : Question} {next : Except Fault Json → Job}
    (hactive : d.guard.active ≠ 0) : w.Turns d i (.working name start q next) := by
  let answer := w.answers d.history q
  obtain ⟨d', stage, hhalted, hcontinues⟩ :=
    w.halted_job (d.note (.answered i q answer)) hactive name start (next answer)
  exact ⟨d', stage, hhalted, .works hcontinues⟩

/-- A turn of a call that is ready does what `Goes` says, if slots are in use wherever the call may
give one back. -/
theorem turn_atStage {stage : Stage} (hready : d.ready (w.atStage stage) = true)
    (hholds : d.holds (w.atStage stage) = true → d.guard.active ≠ 0)
    (hreturn : ∀ c ∈ lent d.history, c ∉ d.released → d.guard.active ≠ 0) : w.Turns d i stage := by
  cases stage with
  | fresh call =>
    cases herrand : call.errand? with
    | some errand => exact w.turns_errand d i herrand
    | none =>
      cases call with
      | release c =>
        have hc : c ∈ lent d.history := List.contains_iff_mem.1 hready
        exact w.turns_release d i hc (hreturn c hc)
      | reserve => cases herrand
      | publish message => cases herrand
      | run name job => cases herrand
  | queued errand t => exact w.turns_queued d i hready hholds
  | lending => exact w.turns_lending d i (hholds rfl)
  | working name start q next => exact w.turns_working d i (hholds rfl)
  | ended outcome => exact ⟨d, .ended outcome, rfl, .rests outcome⟩

end Surroundings

end Lending

end UnitOfWork
