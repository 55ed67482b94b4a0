import UnitOfWork.Rehearsal.StandIns

/-!
# Rehearsing a publisher

Steps on one publisher over the bus that records what is published.
-/

namespace UnitOfWork.Rehearsal

/-- A step on a publisher. -/
inductive PublisherStep where
  | flush (origin : Json.Members) (messages : List Message)
  | deadLetters
  | clear

/-- The publisher, which records its waits instead of sleeping through them if that is asked for. -/
def rehearsedPublisher (maxAttempts : Number) (recordsSleeps : Bool) : Publisher Kernel World :=
  { publisher 0 maxAttempts recordingBus with
    sleep := fun ms => if recordsSleeps then .change (World.recordSleep (some ms)) else sleepFor ms }

/-- Carries a step out. -/
def PublisherStep.perform (p : Publisher Kernel World) : PublisherStep → Action Outcome
  | .flush origin messages => do
    p.flush origin messages
    return .value .null
  | .deadLetters => do return .deadLetters (← p.letters)
  | .clear => do
    p.clear
    return .value .null

end UnitOfWork.Rehearsal
