import UnitOfWork.Journal

/-!
# Running programs

`Program.run` carries a program out from a state, with a server that answers every request at once.
Programs are finite along every branch, so a run always ends: it gives the outcome and the state
that is left. `Program.run_eq_advance` ties it to the stepwise `Program.advance`, and each way of
putting programs together has an equation for its runs.
-/

namespace UnitOfWork

/-- What answers the requests of programs over a state `σ`. -/
abbrev Server (S : Signature) (σ : Type) : Type :=
  (request : S.Request) → σ → Except Fault (S.Answer request) × σ

namespace Program

variable {S : Signature} {σ τ α β : Type} (serve : Server S σ)

/-- Carries a program out: its outcome and the state that it leaves. -/
def run : Program S σ α → σ → Except Fault α × σ
  | done outcome, s => (outcome, s)
  | act update next, s => (next s).run (update s)
  | ask request next, s => (next (serve request s).1).run (serve request s).2

@[simp] theorem run_done (outcome : Except Fault α) (s : σ) :
    (done outcome : Program S σ α).run serve s = (outcome, s) := rfl

@[simp] theorem run_act (update : σ → σ) (next : σ → Program S σ α) (s : σ) :
    (act update next).run serve s = (next s).run serve (update s) := rfl

/-- A request is answered, and the program goes on with the answer. -/
@[simp] theorem run_ask (request : S.Request)
    (next : Except Fault (S.Answer request) → Program S σ α) (s : σ) :
    (ask request next).run serve s
      = (next (serve request s).1).run serve (serve request s).2 := rfl

/-- A run is one stretch without requests after another, each ended by an answer. -/
theorem run_eq_advance (p : Program S σ α) (s : σ) :
    p.run serve s =
      match p.advance s with
      | (s', .ended outcome) => (outcome, s')
      | (s', .asked request next) => (next (serve request s').1).run serve (serve request s').2 := by
  induction p generalizing s with
  | done outcome => rfl
  | act update next ih => exact ih s (update s)
  | ask request next ih => rfl

/-- What follows a program runs from the state that the program leaves. -/
@[simp] theorem run_andThen (p : Program S σ α) (next : Except Fault α → Program S σ β) (s : σ) :
    (p.andThen next).run serve s = (next (p.run serve s).1).run serve (p.run serve s).2 := by
  induction p generalizing s with
  | done outcome => rfl
  | act update rest ih => exact ih s (update s)
  | ask request rest ih => exact ih _ _

@[simp] theorem run_pure (a : α) (s : σ) : (pure a : Program S σ α).run serve s = (.ok a, s) := rfl

@[simp] theorem run_fail (f : Fault) (s : σ) :
    (fail f : Program S σ α).run serve s = (.error f, s) := rfl

/-- An outcome is the outcome. -/
@[simp] theorem run_ofExcept (outcome : Except Fault α) (s : σ) :
    (ofExcept outcome : Program S σ α).run serve s = (outcome, s) := rfl

/-- What follows the value of a program runs if there is one. -/
@[simp] theorem run_bind (p : Program S σ α) (next : α → Program S σ β) (s : σ) :
    (p >>= next).run serve s =
      match p.run serve s with
      | (.ok a, s') => (next a).run serve s'
      | (.error f, s') => (.error f, s') := by
  show (p.bind next).run serve s = _
  rw [bind, run_andThen]
  rcases p.run serve s with ⟨_ | _, s'⟩ <;> rfl

/-- An attempt returns the outcome of the program. -/
@[simp] theorem run_attempt (p : Program S σ α) (s : σ) :
    p.attempt.run serve s = (.ok (p.run serve s).1, (p.run serve s).2) := by
  rw [attempt, run_andThen, run_done]

/-- A handler runs after a fault, from the state that the failed program leaves. -/
@[simp] theorem run_rescue (p : Program S σ α) (handler : Fault → Program S σ α) (s : σ) :
    (p.rescue handler).run serve s =
      match p.run serve s with
      | (.ok a, s') => (.ok a, s')
      | (.error f, s') => (handler f).run serve s' := by
  rw [rescue, run_andThen]
  rcases p.run serve s with ⟨_ | _, s'⟩ <;> rfl

/-- A clean-up runs after every outcome; only its own fault replaces that. -/
@[simp] theorem run_ensure (p : Program S σ α) (cleanup : Program S σ Unit) (s : σ) :
    (p.ensure cleanup).run serve s =
      match cleanup.run serve (p.run serve s).2 with
      | (.ok _, s') => ((p.run serve s).1, s')
      | (.error f, s') => (.error f, s') := by
  rw [ensure, run_andThen, bind, run_andThen]
  rcases cleanup.run serve (p.run serve s).2 with ⟨_ | _, s'⟩ <;> rfl

section

variable {serve} {p : Program S σ α} {s s' : σ}

/-- What follows a program that returned goes on from where that ended. -/
theorem run_bind_of_ok {a : α} (h : p.run serve s = (.ok a, s')) (next : α → Program S σ β) :
    (p.bind next).run serve s = (next a).run serve s' := by
  rw [bind, run_andThen, h]

/-- Nothing follows a program that failed. -/
theorem run_bind_of_error {f : Fault} (h : p.run serve s = (.error f, s'))
    (next : α → Program S σ β) : (p.bind next).run serve s = (.error f, s') := by
  rw [bind, run_andThen, h]
  rfl

/-- A program that returned is not rescued. -/
theorem run_rescue_of_ok {a : α} (h : p.run serve s = (.ok a, s'))
    (handler : Fault → Program S σ α) : (p.rescue handler).run serve s = (.ok a, s') := by
  rw [run_rescue, h]

/-- The handler of a program that failed goes on from where that ended. -/
theorem run_rescue_of_error {f : Fault} (h : p.run serve s = (.error f, s'))
    (handler : Fault → Program S σ α) :
    (p.rescue handler).run serve s = (handler f).run serve s' := by
  rw [run_rescue, h]

end

@[simp] theorem run_request (request : S.Request) (s : σ) :
    (Program.request request).run serve s = serve request s := rfl

@[simp] theorem run_step (f : σ → α × σ) (s : σ) :
    (step f : Program S σ α).run serve s = (.ok (f s).1, (f s).2) := rfl

@[simp] theorem run_read (f : σ → α) (s : σ) :
    (read f : Program S σ α).run serve s = (.ok (f s), s) := rfl

@[simp] theorem run_change (f : σ → σ) (s : σ) :
    (change f : Program S σ Unit).run serve s = (.ok (), f s) := rfl

/-- Loading a cell returns its content and changes nothing. -/
@[simp] theorem run_load (c : Cell σ τ) (s : σ) :
    (c.load : Program S σ τ).run serve s = (.ok (c.get s), s) := rfl

/-- Modifying a cell changes its content and nothing else. -/
@[simp] theorem run_modify (c : Cell σ τ) (f : τ → τ) (s : σ) :
    (c.modify f : Program S σ Unit).run serve s = (.ok (), c.update f s) := rfl

end Program

/-- At a moment that has a date an entry is written, and only the log changes. -/
theorem Journal.exists_run_write {S : Signature} {σ : Type} (j : Journal σ) (serve : Server S σ) {s : σ}
    (h : (j.now s).hasDate = true) (level : Level) (message : Text) (fields : Json.Members) :
    ∃ log, (j.write level message fields : Program S σ Unit).run serve s
      = (.ok (), j.log.set log s) := by
  obtain ⟨log, hlog⟩ := j.exists_written h level message fields
  exact ⟨log, by simp only [write, Program.tryChange, Program.run_act, Program.run_done, hlog, Except.map]⟩

end UnitOfWork
