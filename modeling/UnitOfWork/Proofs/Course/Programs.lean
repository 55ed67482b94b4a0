import UnitOfWork.Proofs.Run

/-!
# Programs that keep a course

What a run may come to is often an order: a history grows, what was made stays as it was made, and
what was right about a state stays right. A `Course` is a server with such an order. A fact of a
course is one that lasts: it holds in whatever comes of a state in which it holds. A program keeps
the course under a fact if whatever its run comes to, from a state in which the fact holds, may come
of that state. Since facts last, this passes through every way of putting programs together.
-/

namespace UnitOfWork

variable {S : Signature} {σ α β : Type}

/-- A server, with what may come of a state. -/
structure Course (S : Signature) (σ : Type) where
  serve : Server S σ
  leads : σ → σ → Prop
  refl : ∀ s, leads s s
  trans : ∀ {s s₁ s₂}, leads s s₁ → leads s₁ s₂ → leads s s₂

namespace Course

variable {C : Course S σ}

/-- What holds from some state on. -/
structure Fact (C : Course S σ) where
  holds : σ → Prop
  lasts : ∀ {s s'}, C.leads s s' → holds s → holds s'

/-- From states in which a fact holds, a program keeps the course. -/
def Fact.Keeps (F : C.Fact) (p : Program S σ α) : Prop :=
  ∀ s, F.holds s → C.leads s (p.run C.serve s).2

namespace Fact.Keeps

variable {F G : C.Fact} {p q : Program S σ α}

/-- What keeps the course under a fact does under every fact that says as much. -/
theorem mono (h : F.Keeps p) (hGF : ∀ s, G.holds s → F.holds s) : G.Keeps p :=
  fun s hs => h s (hGF s hs)

/-- A program that has ended keeps every fact. -/
theorem done (r : Except Fault α) : F.Keeps (.done r : Program S σ α) :=
  fun s _ => C.refl s

/-- A change that leads on from where a fact holds keeps it. -/
theorem change {f : σ → σ} (h : ∀ s, F.holds s → C.leads s (f s)) :
    F.Keeps (.change f : Program S σ Unit) :=
  h

/-- A change, and what follows it. -/
theorem act {update : σ → σ} {next : σ → Program S σ α} (h : ∀ s, F.holds s → C.leads s (update s))
    (hnext : ∀ s, F.Keeps (next s)) : F.Keeps (.act update next) :=
  fun s hs => C.trans (h s hs) (hnext s _ (F.lasts (h s hs) hs))

/-- A request that is answered. -/
theorem ask {request : S.Request} (h : ∀ s, F.holds s → C.leads s (C.serve request s).2) :
    F.Keeps (.ask request .done : Program S σ (S.Answer request)) :=
  h

/-- A fact is kept throughout two programs, one after the other. -/
theorem andThen (h : F.Keeps p) {next : Except Fault α → Program S σ β}
    (hnext : ∀ r, F.Keeps (next r)) : F.Keeps (p.andThen next) := by
  intro s hs
  rw [Program.run_andThen]
  exact C.trans (h s hs) (hnext _ _ (F.lasts (h s hs) hs))

/-- A fact is kept throughout two programs of which the second runs only if the first returns. -/
theorem bind (h : F.Keeps p) {next : α → Program S σ β} (hnext : ∀ a, F.Keeps (next a)) :
    F.Keeps (p >>= next) :=
  h.andThen fun r => by
    cases r with
    | ok a => exact hnext a
    | error f => exact done _

/-- A fact is kept by a program with a handler if both keep it. -/
theorem rescue (h : F.Keeps p) {handler : Fault → Program S σ α} (hhandler : ∀ f, F.Keeps (handler f)) :
    F.Keeps (p.rescue handler) :=
  h.andThen fun r => by
    cases r with
    | ok a => exact done _
    | error f => exact hhandler f

/-- A fact is kept by a program with a clean-up if both keep it. -/
theorem ensure (h : F.Keeps p) {cleanup : Program S σ Unit} (hcleanup : F.Keeps cleanup) :
    F.Keeps (p.ensure cleanup) :=
  h.andThen fun r => hcleanup.bind fun _ => done r

/-- A fact is kept whichever way a program goes if both keep it. -/
theorem ite {c : Prop} [Decidable c] (h : F.Keeps p) (h' : F.Keeps q) :
    F.Keeps (if c then p else q) := by
  split
  · exact h
  · exact h'

/-- A look at the state, and what follows it. -/
theorem load {τ : Type} (c : Cell σ τ) {next : τ → Program S σ α} (hnext : ∀ x, F.Keeps (next x)) :
    F.Keeps (c.load >>= next) :=
  act (fun s _ => C.refl s) fun s => hnext (c.get s)

end Fact.Keeps

end Course

end UnitOfWork
