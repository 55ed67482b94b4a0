import UnitOfWork.Journal
import UnitOfWork.Pool.Guard

/-!
# Borrowing slots

Programs that borrow slots of a guard: `Pool.acquire` waits for a slot, `Pool.release` gives one
back, and `Pool.run` holds one around an operation.
-/

namespace UnitOfWork

/-- A guard's place in the state with what waiting for a slot needs: fresh stamps, a way to wait for
a ticket, and a way to settle one. -/
structure Pool (S : Signature) (σ : Type) where
  journal : Journal σ
  guard : Cell σ PoolGuard
  stamps : Cell σ Nat
  wait : Ticket → Program S σ Unit
  settle : Ticket → Except Fault Unit → σ → σ

namespace Pool

variable {S : Signature} {σ α : Type}

/-- Borrowers that wait when a further one is worth a warning. -/
def warnThreshold : Nat := 5

/-- Milliseconds beyond which holding a slot is worth a warning. -/
def slowThresholdMs : Time := 5000

/-- The state after a borrower was received, and how it was received. -/
def receive (p : Pool S σ) (s : σ) : PoolGuard.Reception × σ :=
  let stamp := p.stamps.get s
  let (reception, guard) := (p.guard.get s).acquire (p.journal.now s) stamp
  (reception, p.guard.set guard (p.stamps.set (stamp + 1) s))

/-- Borrows a slot, waiting for one if need be. -/
def acquire (p : Pool S σ) : Program S σ Unit := do
  let guard ← p.guard.load
  if !guard.hasRoom ∧ warnThreshold ≤ guard.waiting.length then
    p.journal.write .warn "[pool-guard] connection queue backing up"
      (Journal.count "queued" guard.waiting.length ++ Journal.count "active" guard.active)
  match ← Program.step p.receive with
  | .granted => pure ()
  | .queued ticket => p.wait ticket

/-- Gives a slot back; a borrower that waits gets it. -/
def release (p : Pool S σ) : Program S σ Unit := do
  match (← p.guard.load).release with
  | .error f => .fail f
  | .ok (ticket, guard) =>
    p.guard.modify fun _ => guard
    match ticket with
    | some t => .change (p.settle t (.ok ()))
    | none => pure ()

/-- Holds a slot around an operation. A slot that was held for long is kept if that cannot be
logged. -/
def run (p : Pool S σ) (name : Text) (operation : Program S σ α) : Program S σ α := do
  p.acquire
  let start ← .read p.journal.now
  operation.ensure do
    let finish ← .read p.journal.now
    if slowThresholdMs.lt (finish - start) then
      p.journal.write .warn ("[pool-guard] slow DB op: " ++ name)
        [("durationMs", .num (finish - start))]
    p.release

/-- What comes of a borrower's timer, and the state after it fired. If turning the borrower away
cannot be logged, the timer fails and the borrower is not told. -/
def expire (p : Pool S σ) (ticket : Ticket) (s : σ) : Except Fault Unit × σ :=
  let (refusal, guard) := (p.guard.get s).expire ticket
  let s := p.guard.set guard s
  match refusal with
  | none => (.ok (), s)
  | some f =>
    let text := (f.info?.map (·.message)).getD []
    let code := (f.textCode?).getD []
    match p.journal.written .error text (Journal.field "code" code) s with
    | .ok s => (.ok (), p.settle ticket (.error f) s)
    | .error unlogged => (.error unlogged, s)

end Pool

end UnitOfWork
