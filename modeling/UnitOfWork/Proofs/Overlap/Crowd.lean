import Mathlib.Logic.Function.Basic
import UnitOfWork.Proofs.Run

/-!
# Programs side by side

Programs over one state take turns. In its turn a program gets the answer to the request that it
waits for and goes on until it ends or makes its next request; what it does in between is not
interrupted. A schedule names whose turn it is, so the interleavings of programs at their requests
are the plays of schedules. `Program.run_turn` ties a turn to the run of a program that is alone.
-/

namespace UnitOfWork

variable {S : Signature} {σ α ι : Type}

namespace Program

variable {τ β : Type} (serve : Server S σ)

/-! ## Where a program stops -/

/-- What follows a program goes on where that has ended, and waits where it waits. -/
theorem advance_bind (p : Program S σ α) (next : α → Program S σ β) (s : σ) :
    (p >>= next).advance s =
      match p.advance s with
      | (s', .ended (.ok a)) => (next a).advance s'
      | (s', .ended (.error f)) => (s', .ended (.error f))
      | (s', .asked request rest) => (s', .asked request fun answer => rest answer >>= next) := by
  induction p generalizing s with
  | done outcome => rcases outcome with _ | _ <;> rfl
  | act update rest ih => exact ih s (update s)
  | ask request rest ih => rfl

/-- What comes after a program, however that ends, goes on where it has ended. -/
theorem advance_andThen (p : Program S σ α) (next : Except Fault α → Program S σ β) (s : σ) :
    (p.andThen next).advance s =
      match p.advance s with
      | (s', .ended outcome) => (next outcome).advance s'
      | (s', .asked request rest) => (s', .asked request fun answer => (rest answer).andThen next) := by
  induction p generalizing s with
  | done outcome => rfl
  | act update rest ih => exact ih s (update s)
  | ask request rest ih => rfl

@[simp] theorem advance_done (outcome : Except Fault α) (s : σ) :
    (done outcome : Program S σ α).advance s = (s, .ended outcome) := rfl

@[simp] theorem advance_pure (a : α) (s : σ) :
    (pure a : Program S σ α).advance s = (s, .ended (.ok a)) := rfl

@[simp] theorem advance_fail (f : Fault) (s : σ) :
    (fail f : Program S σ α).advance s = (s, .ended (.error f)) := rfl

@[simp] theorem advance_read (f : σ → α) (s : σ) :
    (read f : Program S σ α).advance s = (s, .ended (.ok (f s))) := rfl

@[simp] theorem advance_step (f : σ → α × σ) (s : σ) :
    (step f : Program S σ α).advance s = ((f s).2, .ended (.ok (f s).1)) := rfl

@[simp] theorem advance_change (f : σ → σ) (s : σ) :
    (change f : Program S σ Unit).advance s = (f s, .ended (.ok ())) := rfl

@[simp] theorem advance_load (c : Cell σ τ) (s : σ) :
    (c.load : Program S σ τ).advance s = (s, .ended (.ok (c.get s))) := rfl

@[simp] theorem advance_modify (c : Cell σ τ) (f : τ → τ) (s : σ) :
    (c.modify f : Program S σ Unit).advance s = (c.update f s, .ended (.ok ())) := rfl

/-! ## Turns -/

/-- What is left of a program that stopped, with the state. -/
def halted : σ × Stop S σ α → Program S σ α × σ
  | (s, .ended outcome) => (done outcome, s)
  | (s, .asked request next) => (ask request next, s)

/-- One turn of a program: what is left of it, with the state. -/
def turn : Program S σ α → σ → Program S σ α × σ
  | done outcome, s => (done outcome, s)
  | act update next, s => halted ((next s).advance (update s))
  | ask request next, s => halted ((next (serve request s).1).advance (serve request s).2)

/-- Running on from where a program stops is running it from where it began. -/
theorem run_halted (p : Program S σ α) (s : σ) :
    (halted (p.advance s)).1.run serve (halted (p.advance s)).2 = p.run serve s := by
  rw [run_eq_advance serve p s]
  rcases p.advance s with ⟨s', outcome | ⟨request, next⟩⟩ <;> rfl

/-- A turn is a part of a run. -/
theorem run_turn (p : Program S σ α) (s : σ) :
    (p.turn serve s).1.run serve (p.turn serve s).2 = p.run serve s := by
  cases p with
  | done outcome => rfl
  | act update next => exact run_halted serve (next s) (update s)
  | ask request next => exact run_halted serve _ _

end Program

/-! ## Crowds -/

/-- Programs that take turns over one state. -/
structure Crowd (S : Signature) (σ α ι : Type) where
  state : σ
  programs : ι → Program S σ α

namespace Crowd

variable [DecidableEq ι] (serve : Server S σ)

/-- One program of a crowd takes its turn. -/
def turn (c : Crowd S σ α ι) (i : ι) : Crowd S σ α ι :=
  let rest := (c.programs i).turn serve c.state
  ⟨rest.2, Function.update c.programs i rest.1⟩

/-- The programs of a crowd take turns as a schedule says. -/
def play (c : Crowd S σ α ι) (schedule : List ι) : Crowd S σ α ι :=
  schedule.foldl (turn serve) c

/-- Every program of a crowd has ended. -/
def Ended (c : Crowd S σ α ι) : Prop :=
  ∀ i, ∃ outcome, c.programs i = .done outcome

variable (c : Crowd S σ α ι)

@[simp] theorem play_nil : c.play serve [] = c := rfl

@[simp] theorem play_cons (i : ι) (schedule : List ι) :
    c.play serve (i :: schedule) = (c.turn serve i).play serve schedule := rfl

/-- Turns are had in two parts. -/
theorem play_append (schedule schedule' : List ι) :
    c.play serve (schedule ++ schedule') = (c.play serve schedule).play serve schedule' :=
  List.foldl_append

/-- A program that has the turn is left with the rest of its run. -/
theorem run_turn (i : ι) :
    ((c.turn serve i).programs i).run serve (c.turn serve i).state
      = (c.programs i).run serve c.state := by
  have hself : (c.turn serve i).programs i = ((c.programs i).turn serve c.state).1 :=
    Function.update_self ..
  rw [hself]
  exact Program.run_turn serve _ _

/-- A turn of one call leaves the others where they were. -/
theorem turn_of_ne {i j : ι} (h : j ≠ i) : (c.turn serve i).programs j = c.programs j :=
  Function.update_of_ne h _ _

variable {c}

/-- While a program has all the turns, it goes on with its run and the others stay as they are. -/
theorem play_alone {i : ι} {schedule : List ι} (h : ∀ j ∈ schedule, j = i) :
    ((c.play serve schedule).programs i).run serve (c.play serve schedule).state
        = (c.programs i).run serve c.state
      ∧ ∀ j, j ≠ i → (c.play serve schedule).programs j = c.programs j := by
  induction schedule generalizing c with
  | nil => exact ⟨rfl, fun _ _ => rfl⟩
  | cons k schedule ih =>
    obtain rfl := h k List.mem_cons_self
    obtain ⟨hrun, hothers⟩ := ih (c := c.turn serve k) fun j hj => h j (List.mem_cons_of_mem _ hj)
    exact ⟨hrun.trans (c.run_turn serve k),
      fun j hj => (hothers j hj).trans (c.turn_of_ne serve hj)⟩

/-- What every turn keeps, every play keeps. -/
theorem play_keeps {p : Crowd S σ α ι → Prop} (hturn : ∀ c i, p c → p (c.turn serve i))
    (hc : p c) (schedule : List ι) : p (c.play serve schedule) := by
  induction schedule generalizing c with
  | nil => exact hc
  | cons i schedule ih => exact ih (hturn c i hc)

end Crowd

end UnitOfWork
