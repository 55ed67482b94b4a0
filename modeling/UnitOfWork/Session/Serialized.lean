import UnitOfWork.Backoff
import UnitOfWork.Session.Scope

/-!
# Serialized transactions

A serializable transaction whose reads were overtaken by another commit fails with a code of its own
and may be run again from scratch. `Registry.runSerialized` does so, each time in a new session and
after a random wait, until an attempt ends in another way or the attempts are used up.
-/

namespace UnitOfWork

/-- How a serialized transaction is retried: how often, at what rate waits are drawn, what they are
drawn from, and how to wait. -/
structure Retry (S : Signature) (σ : Type) where
  maxAttempts : Number
  rate : Number
  draw : Program S σ Number
  sleep : Number → Program S σ Unit

namespace Retry

/-- Attempts unless another number is given. -/
def defaultAttempts : Number := 100

/-- How many attempts may follow the first: an attempt is the last one if its number is not below
the limit. -/
def furtherAttempts (limit : Number) : Nat :=
  match limit with
  | .nan | .infinite false => Number.unbounded
  | .infinite true => 0
  | _ => (limit.ceil - 1).toNat

end Retry

namespace Registry

variable {S : Signature} {σ α β : Type}

/-- The members that say which session and attempt an entry is about. -/
def attemptMark (s : Session S σ) (attempt : Nat) : Json.Members :=
  s.mark ++ Journal.count "attempt" attempt

/-- What follows a failed attempt: the transaction is rolled back, and the fault is the outcome
unless it is a serialization failure. -/
def concludeAttempt (s : Session S σ) (attempt : Nat) (onConflict : Fault → Program S σ β) (f : Fault) :
    Program S σ β := do
  s.rollback.rescue fun g =>
    s.journal.writeFault .error "Rollback of serialized transaction failed" (attemptMark s attempt) g
  if f.isSerializationFailure then onConflict f else .fail f

/-- What a serialization failure of the last attempt comes to. -/
def giveUp (s : Session S σ) (attempt : Nat) (f : Fault) : Program S σ α := do
  s.journal.writeFault .error "Serialized transaction retries exhausted" (attemptMark s attempt) f
  .fail (.retriesExhausted attempt f)

/-- What a serialization failure of an earlier attempt comes to: another one is due. -/
def tryAgain (s : Session S σ) (attempt : Nat) (_ : Fault) : Program S σ (Option α) := do
  s.journal.write .debug "Serialization conflict, retrying transaction" (attemptMark s attempt)
  return none

/-- One attempt, in a session of its own that is closed at the end. -/
def attemptSerialized (r : Registry S σ) (work : SessionRef → Scoped S σ α) (scope : Scope)
    (attempt : Nat) (result : α → β) (onConflict : Session S σ → Nat → Fault → Program S σ β) :
    Program S σ β := do
  let ref ← r.create
  let s := r.session ref
  let body : Program S σ β := do
    s.setIsolation .serializable
    let a ← r.bind ref (work ref) scope
    s.commit
    return result a
  (body.rescue (concludeAttempt s attempt (onConflict s attempt))).ensure s.close

/-- Attempts from number `attempt` on, `further` more at most after it. -/
def attemptsFrom (r : Registry S σ) (retry : Retry S σ) (work : SessionRef → Scoped S σ α)
    (scope : Scope) : (further attempt : Nat) → Program S σ α
  | 0, attempt => r.attemptSerialized work scope attempt id giveUp
  | further + 1, attempt => do
    match ← r.attemptSerialized work scope attempt some tryAgain with
    | some result => return result
    | none =>
      retry.sleep (Backoff.delayMs retry.rate (← retry.draw))
      attemptsFrom r retry work scope further (attempt + 1)

/-- Runs work in serializable transactions, again after each serialization failure. -/
def runSerialized (r : Registry S σ) (retry : Retry S σ) (work : SessionRef → Scoped S σ α) :
    Scoped S σ α := fun scope =>
  r.attemptsFrom retry work scope (Retry.furtherAttempts retry.maxAttempts) 1

end Registry

end UnitOfWork
