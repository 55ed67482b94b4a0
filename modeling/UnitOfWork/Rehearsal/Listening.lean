import UnitOfWork.Rehearsal.Borrowing

/-!
# Rehearsing the notification bus

Steps on a notification bus whose store delivers to those that listen.
-/

namespace UnitOfWork.Rehearsal

/-- A step on a notification bus. -/
inductive NotifyStep where
  | publish (message : Message)
  | subscribe (name channel : Text)
  | stop (name : Text)
  | acquire
  | release

/-- The fault of stopping what was never listened on. -/
def notListeningFault : Fault :=
  .named "TypeError" "stop is not a function"

/-- Carries a step out on a bus with or without a guard. -/
def NotifyStep.perform (guarded : Bool) (step : NotifyStep) : Action Outcome := do
  let bus := notifyBus (if guarded then some rehearsedClient else none)
  match step with
  | .publish message => bus.publish message
  | .subscribe name channel =>
    let listening ← bus.subscribe channel name
    .change fun w => { w with listenings := (name, listening) :: w.listenings }
  | .stop name =>
    match World.noted? name (← Program.read World.listenings) with
    | some listening => bus.unlisten listening
    | none => .fail notListeningFault
  | .acquire => (pool rehearsedClient).acquire
  | .release => (pool rehearsedClient).release
  return .value .null

end UnitOfWork.Rehearsal
