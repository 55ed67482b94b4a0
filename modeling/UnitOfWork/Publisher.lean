import UnitOfWork.Journal
import UnitOfWork.Outbox

/-!
# The outbox publisher

Hands the messages of a committed transaction to the bus, one after another. The transaction is
durable by then, so a message that cannot be published is tried a few times and then parked among
the dead letters.
-/

namespace UnitOfWork

/-- A message that could not be published: the last error, the attempts made, and when it was given
up. -/
structure DeadLetter where
  message : Message
  error : Fault
  attempts : Nat
  failedAt : Time

/-- A publisher: how often it tries, where it publishes, how it waits, and where dead letters go. -/
structure Publisher (S : Signature) (σ : Type) where
  journal : Journal σ
  maxAttempts : Number
  publish : Message → Program S σ Unit
  sleep : Number → Program S σ Unit
  deadLetters : Cell σ (List DeadLetter)

namespace Publisher

variable {S : Signature} {σ : Type}

/-- Attempts unless another number is given. -/
def defaultAttempts : Number := 3

/-- How many attempts, counted from one, a limit admits. -/
def attemptsWithin (limit : Number) : Nat :=
  match limit with
  | .nan | .infinite true => 0
  | .infinite false => Number.unbounded
  | _ => limit.floor.toNat

/-- The wait in milliseconds after a failed attempt. The square is a number of its own, rounded
before it is multiplied. -/
def pauseMs (attempt : Nat) : Number :=
  Number.ofNat (attempt * attempt) * 100

/-- The members that say where a message comes from and which channel it is for. -/
def context (origin : Json.Members) (message : Message) : Json.Members :=
  origin ++ Journal.field "channel" message.channel

/-- Tries to publish a message, `left` more times at most, the next attempt being number
`attempt`. -/
def tryFrom (p : Publisher S σ) (origin : Json.Members) (message : Message) :
    (left attempt : Nat) → Program S σ Unit
  | 0, _ => pure ()
  | left + 1, attempt =>
    (p.publish message).rescue fun fault => do
      let error ← .ofExcept fault.toError
      let fields := context origin message ++ Journal.count "attempt" attempt
      if (Number.finite attempt).lt p.maxAttempts then
        p.journal.writeFault .warn
          ("Publish to " ++ message.channel ++ " failed (attempt " ++ Text.ofNat attempt ++ "/"
            ++ p.maxAttempts.text ++ ")") fields error
        p.sleep (pauseMs attempt)
        tryFrom p origin message left (attempt + 1)
      else
        let now ← .read p.journal.now
        p.deadLetters.modify (· ++ [⟨message, error, attempt, now⟩])
        p.journal.writeFault .error
          ("Message to " ++ message.channel ++ " moved to dead letters after commit") fields error
        tryFrom p origin message left (attempt + 1)

/-- Publishes a message or parks it. -/
def publishOrPark (p : Publisher S σ) (origin : Json.Members) (message : Message) :
    Program S σ Unit :=
  p.tryFrom origin message (attemptsWithin p.maxAttempts) 1

/-- Publishes or parks the messages of a batch, in order. The members of their origin stand in every
log entry about them. -/
def flush (p : Publisher S σ) (origin : Json.Members) : List Message → Program S σ Unit
  | [] => pure ()
  | message :: rest => do
    p.journal.write .debug ("Publishing message to " ++ message.channel)
      (context origin message ++ Journal.field "payload" message.body)
    p.publishOrPark origin message
    flush p origin rest

/-- The dead letters, in the order in which they were parked. -/
def letters (p : Publisher S σ) : Program S σ (List DeadLetter) :=
  p.deadLetters.load

/-- Throws the dead letters away. -/
def clear (p : Publisher S σ) : Program S σ Unit :=
  p.deadLetters.modify fun _ => []

end Publisher

end UnitOfWork
