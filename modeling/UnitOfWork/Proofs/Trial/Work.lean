import UnitOfWork.Proofs.Trial.Operations

/-!
# Work

Work does one thing after another and waits for each to end before the next. What it does next may
depend on everything that it got back, so `Work` is a tree; a body of a savepoint is such a tree
itself. `Work.play` is the program of a work in its surroundings, with a note of each call and of
each body in the history.
-/

namespace UnitOfWork.Trial

variable {υ α : Type}

/-- Work that keeps a state `υ` for itself and ends with a value of `α` or a fault. -/
inductive Work (υ α : Type) where
  /-- The work has ended. -/
  | done (outcome : Except Fault α)
  /-- Changes what the work keeps for itself, and goes on with that before the change. -/
  | act (update : υ → υ) (next : υ → Work υ α)
  /-- Waits for something else. -/
  | consult (question : Json) (next : Except Fault Json → Work υ α)
  | openSession (next : SessionRef → Work υ α)
  /-- Looks at the state of a session. -/
  | look (ref : SessionRef) (next : SessionState → Work υ α)
  /-- Executes a statement on a connection that it got from a session before, whether or not the
  session still holds it. -/
  | use (ref : SessionRef) (c : Connection) (text : Text) (next : Except Fault Unit → Work υ α)
  | call (ref : SessionRef) (call : SessionCall)
      (next : Except Fault (Option Connection) → Work υ α)
  | savepoint (ref : SessionRef) (body : Work υ α) (next : Except Fault α → Work υ α)

namespace Work

/-- What the work fails with can be told, as long as that is so of what it gets. -/
def Sayable : Work υ α → Prop
  | done outcome => Settles outcome
  | act _ next => ∀ own, (next own).Sayable
  | consult _ next => ∀ r, Settles r → (next r).Sayable
  | openSession next => ∀ ref, (next ref).Sayable
  | look _ next => ∀ s, (next s).Sayable
  | use _ _ _ next => ∀ r, Settles r → (next r).Sayable
  | call _ _ next => ∀ r, Settles r → (next r).Sayable
  | savepoint _ body next => body.Sayable ∧ ∀ r, Settles r → (next r).Sayable

end Work

/-! ## Work as a program -/

/-- The fault of using a session that was not opened. -/
def unopenedFault : Fault :=
  .named "TypeError" "Cannot read properties of undefined"

/-- A program over a session, which must have been opened. -/
def onceOpened (ref : SessionRef) (p : Program Calls (Desk υ) α) : Program Calls (Desk υ) α :=
  .act id fun d => if ref < d.opened then p else .fail unopenedFault

section

variable {serve : Server Calls (Desk υ)} {ref : SessionRef} {d : Desk υ}

/-- With a session that was opened a program runs. -/
theorem run_onceOpened_of_lt (h : ref < d.opened) (p : Program Calls (Desk υ) α) :
    (onceOpened ref p).run serve d = p.run serve d := by
  simp [onceOpened, h]

/-- With a session that was never opened a program fails and does nothing. -/
theorem run_onceOpened_of_not_lt (h : ¬ ref < d.opened) (p : Program Calls (Desk υ) α) :
    (onceOpened ref p).run serve d = (.error unopenedFault, d) := by
  simp [onceOpened, h]

end

/-- A body of a savepoint, noted when it begins and when it ends. -/
def inBody (ref : SessionRef) (body : Program Calls (Desk υ) α) : Program Calls (Desk υ) α := do
  .change (Desk.note (.session ref .bodyBegan))
  body.andThen fun r => .act (Desk.note (.session ref (.bodyEnded (Fault.of? r)))) fun _ => .done r

/-- The body of a savepoint runs, and its beginning and its end are noted. -/
theorem run_inBody {serve : Server Calls (Desk υ)} {ref : SessionRef}
    {body : Program Calls (Desk υ) α} {d d' : Desk υ} {r : Except Fault α}
    (h : body.run serve (d.note (.session ref .bodyBegan)) = (r, d')) :
    (inBody ref body).run serve d = (r, d'.note (.session ref (.bodyEnded (Fault.of? r)))) := by
  simp [inBody, h]

/-- A call of an operation, noted when it begins and when it ends. -/
def Surroundings.calling (w : Surroundings) (ref : SessionRef) (call : SessionCall) :
    Program Calls (Desk υ) (Option Connection) := do
  .change (Desk.note (.session ref (.called call)))
  (call.perform (w.session ref)).andThen fun r =>
    .act (Desk.note (.session ref (.settled call (Fault.of? r)))) fun _ => .done r

/-- A call does what `Does` says, between the note that it began and the note that it ended. -/
theorem Surroundings.run_calling (w : Surroundings) (ref : SessionRef) (d : Desk υ)
    (call : SessionCall) (hs : (d.sessions ref).Sound) :
    ∃ r block s d', (w.calling ref call).run w.serve d = (r, d') ∧ Settles r
      ∧ Does (d.sessions ref) call block (Fault.of? r) s
      ∧ d.Takes ref ([.called call] ++ block ++ [.settled call (Fault.of? r)]) s d' := by
  have hnote := Desk.Takes.note d ref (e := .called call) rfl
  have hsame := hnote.session_eq
  obtain ⟨r, block, s, d', hrun, hr, hdoes, htakes⟩ :=
    w.run_perform ref (d.note (.session ref (.called call))) call (by rw [hsame]; exact hs)
  have hnote' := Desk.Takes.note d' ref (e := .settled call (Fault.of? r)) rfl
  rw [htakes.session_eq] at hnote'
  rw [hsame] at hdoes
  refine ⟨r, block, s, _, ?_, hr, hdoes, (hnote.trans htakes).trans hnote'⟩
  simp [calling, hrun]

/-- The program of a work. -/
def Work.play (w : Surroundings) : Work υ α → Program Calls (Desk υ) α
  | done outcome => .ofExcept outcome
  | act update next =>
    .act (fun d => { d with own := update d.own }) fun d => (next d.own).play w
  | consult question next => .ask (.consult question) fun r => (next r).play w
  | openSession next => (Program.step Desk.openSession).bind fun ref => (next ref).play w
  | look ref next => .act id fun d => (next (d.sessions ref)).play w
  | use ref c text next =>
    (onceOpened ref ((w.session ref).execute c (.other text))).andThen fun r => (next r).play w
  | call ref c next => (onceOpened ref (w.calling ref c)).andThen fun r => (next r).play w
  | savepoint ref body next =>
    (onceOpened ref ((w.session ref).savepoint (inBody ref (body.play w)))).andThen fun r =>
      (next r).play w

end UnitOfWork.Trial
