import UnitOfWork.Fault

/-!
# Programs

A program works on a state and asks its surroundings for what takes time: a connection, a statement,
a publication, a wait. Between two requests it runs without interruption, so the requests are
exactly the points at which other programs may act. `Program` is the tree of what a program does for
every answer; it is finite along every branch, and an operation on it is a recursion over the tree.
-/

namespace UnitOfWork

/-- The requests that a program may make and what answers them. -/
structure Signature where
  Request : Type
  Answer : Request → Type

/-- A program over a state `σ` that ends with a value of `α` or a fault. -/
inductive Program (S : Signature) (σ α : Type) where
  /-- The program has ended. -/
  | done (outcome : Except Fault α)
  /-- Changes the state and goes on with the state before the change. -/
  | act (update : σ → σ) (next : σ → Program S σ α)
  /-- Makes a request and goes on with its answer, or with the fault that it failed with. -/
  | ask (request : S.Request) (next : Except Fault (S.Answer request) → Program S σ α)

namespace Program

variable {S : Signature} {σ τ α β : Type}

/-- Goes on after a program has ended, however it ended. -/
def andThen (p : Program S σ α) (next : Except Fault α → Program S σ β) : Program S σ β :=
  match p with
  | done outcome => next outcome
  | act update rest => act update fun s => (rest s).andThen next
  | ask request rest => ask request fun a => (rest a).andThen next

/-- Ends with a fault. -/
def fail (f : Fault) : Program S σ α :=
  done (.error f)

/-- Ends with an outcome that is already known. -/
def ofExcept (outcome : Except Fault α) : Program S σ α :=
  done outcome

/-- Goes on with the value of a program; a fault ends both. -/
def bind (p : Program S σ α) (next : α → Program S σ β) : Program S σ β :=
  p.andThen fun
    | .ok a => next a
    | .error f => fail f

instance : Monad (Program S σ) where
  pure a := done (.ok a)
  bind := bind

/-- Ends with the outcome of a program as a value, and never with a fault. -/
def attempt (p : Program S σ α) : Program S σ (Except Fault α) :=
  p.andThen fun outcome => done (.ok outcome)

/-- Handles a fault of a program. -/
def rescue (p : Program S σ α) (handler : Fault → Program S σ α) : Program S σ α :=
  p.andThen fun
    | .ok a => pure a
    | .error f => handler f

/-- Cleans up after a program, however it ended. A fault of the clean-up replaces the outcome. -/
def ensure (p : Program S σ α) (cleanup : Program S σ Unit) : Program S σ α :=
  p.andThen fun outcome => cleanup.bind fun _ => done outcome

/-- Makes a request. -/
def request (q : S.Request) : Program S σ (S.Answer q) :=
  ask q done

/-- Changes the state and answers with a value, in one step. -/
def step (f : σ → α × σ) : Program S σ α :=
  act (fun s => (f s).2) fun s => done (.ok (f s).1)

/-- Looks at the state. -/
def read (f : σ → α) : Program S σ α :=
  act id fun s => done (.ok (f s))

/-- Changes the state. -/
def change (f : σ → σ) : Program S σ Unit :=
  act f fun _ => done (.ok ())

/-- Changes the state if that is possible; if it is not, the state stays and the program ends with
the fault. -/
def tryChange (f : σ → Except Fault σ) : Program S σ Unit :=
  act (fun s => match f s with | .ok s' => s' | .error _ => s) fun s => done ((f s).map fun _ => ())

/-- Where a program stops: at its end, or at a request. -/
inductive Stop (S : Signature) (σ α : Type) where
  | ended (outcome : Except Fault α)
  | asked (request : S.Request) (next : Except Fault (S.Answer request) → Program S σ α)

/-- Runs a program from a state until it ends or makes a request. -/
def advance : Program S σ α → σ → σ × Stop S σ α
  | done outcome, s => (s, .ended outcome)
  | act update next, s => (next s).advance (update s)
  | ask request next, s => (s, .asked request next)

@[simp]
theorem andThen_done (outcome : Except Fault α) (next : Except Fault α → Program S σ β) :
    (done outcome).andThen next = next outcome :=
  rfl

/-- Going on is associative. -/
theorem andThen_andThen {γ : Type} (p : Program S σ α) (f : Except Fault α → Program S σ β)
    (g : Except Fault β → Program S σ γ) :
    (p.andThen f).andThen g = p.andThen fun outcome => (f outcome).andThen g := by
  induction p with
  | done outcome => rfl
  | act update rest ih => simp only [andThen, ih]
  | ask request rest ih => simp only [andThen, ih]

/-- What follows is put together in any order. -/
theorem bind_bind {γ : Type} (p : Program S σ α) (f : α → Program S σ β) (g : β → Program S σ γ) :
    (p >>= f) >>= g = p >>= fun a => f a >>= g := by
  show (p.andThen _).andThen _ = p.andThen _
  rw [andThen_andThen]
  refine congrArg p.andThen (funext fun outcome => ?_)
  cases outcome <;> rfl

end Program

/-- A place in a state. -/
structure Cell (σ τ : Type) where
  get : σ → τ
  set : τ → σ → σ

namespace Cell

variable {S : Signature} {σ τ α : Type}

/-- Changes what stands in a place. -/
def update (c : Cell σ τ) (f : τ → τ) (s : σ) : σ :=
  c.set (f (c.get s)) s

/-- What stands in a place. -/
def load (c : Cell σ τ) : Program S σ τ :=
  .read c.get

/-- Changes what stands in a place. -/
def modify (c : Cell σ τ) (f : τ → τ) : Program S σ Unit :=
  .change (c.update f)

/-- Changes what stands in a place and answers with a value. -/
def step (c : Cell σ τ) (f : τ → α × τ) : Program S σ α :=
  .step fun s => let (a, t) := f (c.get s); (a, c.set t s)

end Cell

end UnitOfWork
