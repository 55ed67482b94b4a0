import UnitOfWork.Rehearsal.StandIns

/-!
# Rehearsing the bus in memory

Steps on a bus in memory whose handlers may act on it in turn. All handlers together may take a
fixed number of actions, so publications nest no deeper than that.
-/

namespace UnitOfWork.Rehearsal

/-- A step on the bus in memory. -/
inductive BusStep where
  | subscribe (interest : Interest) (name key handler : Text)
  | stop (name : Text)
  | publish (message : Message)
  | clear

/-- What a handler does with a message: the steps that it takes, and the fault that it ends with. -/
structure HandlerPlan where
  name : Text
  actions : List BusStep
  fault : Option Fault

/-- The fault of ending a subscription that was never made. -/
def notSubscribedFault : Fault :=
  .named "TypeError" "stop is not a function"

/-- Carries a step out, given what calling a handler does. -/
def BusStep.perform (call : Text → Text → Action Unit) : BusStep → Action Unit
  | .subscribe interest name key handler => do
    let sub ← World.subscriptionCell.step (Subscriptions.subscribe interest key handler)
    .change fun w => { w with named := (name, sub) :: w.named }
  | .stop name => do
    match World.noted? name (← Program.read World.named) with
    | some sub => World.subscriptionCell.modify (Subscriptions.unsubscribe sub)
    | none => .fail notSubscribedFault
  | .publish message => (memoryBus call).publish message
  | .clear => World.subscriptionCell.modify Subscriptions.clear

/-- Takes one from the budget of actions, unless it is used up. -/
def takeFromBudget : Action Bool :=
  .step fun w => (0 < w.budget, { w with budget := w.budget - 1 })

/-- Carries the steps of a handler out, while the budget lasts; their failures are passed over. -/
def performWithinBudget (call : Text → Text → Action Unit) : List BusStep → Action Unit
  | [] => pure ()
  | step :: rest => do
    if ← takeFromBudget then
      let _ ← (step.perform call).attempt
    performWithinBudget call rest

/-- Calls a handler; handlers are called at most `depth` deep. -/
def callHandler (plans : List HandlerPlan) : (depth : Nat) → (handler message : Text) → Action Unit
  | 0, _, _ => pure ()
  | depth + 1, handler, message => do
    .change (World.recordReceived handler message)
    match plans.find? (·.name = handler) with
    | none => pure ()
    | some plan =>
      performWithinBudget (callHandler plans depth) plan.actions
      match plan.fault with
      | some f => .fail f
      | none => pure ()

/-- Deeper than the budget of actions lets publications nest. -/
def handlerDepth : Nat := 60

/-- Carries a step out, with the plans of handlers. -/
def BusStep.rehearse (plans : List HandlerPlan) (step : BusStep) : Action Outcome := do
  step.perform (callHandler plans handlerDepth)
  return .value .null

end UnitOfWork.Rehearsal
