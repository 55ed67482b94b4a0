import UnitOfWork.Rehearsal.StandIns

/-!
# Scripts

A script drives sessions through steps over a registry of its own, over the data layer with a bus in
memory, or over the data layer with the store. Every step that ends is traced. A failing step ends
the body around it, so that the body's container sees the failure; outside every body the script
goes on.
-/

namespace UnitOfWork.Rehearsal

/-- What a script drives. -/
inductive Layer where
  /-- One registry over a source and a bus of their own. -/
  | registry
  /-- The data layer, with a bus in memory and a registry that were set. -/
  | memory
  /-- The data layer with the store. -/
  | store
  deriving DecidableEq

namespace Layer

/-- The registry whose sessions a step works on. -/
def registryInPlace : Layer → Action RegistryRef
  | registry => pure 0
  | memory | store => dataLayer.sessionRegistry

/-- What a step does with the registry of the script, or with that of the data layer. -/
def choose {β : Type} (layer : Layer) (own shared : β) : β :=
  match layer with
  | registry => own
  | memory | store => shared

/-- What a step needs before it starts: over the store, a registry. -/
def prepare (layer : Layer) (s : Step) : Action Unit := do
  match layer, s with
  | store, .shutdown => pure ()
  | store, _ => let _ ← dataLayer.sessionRegistry
  | _, _ => pure ()

/-- The session that is bound around a step. -/
def bound? (layer : Layer) (scope : Scope) : Action (Option SessionRef) := do
  match layer with
  | registry => return (Rehearsal.registry 0).current? scope
  | memory =>
    match ← dataLayer.sessionRegistry.attempt with
    | .ok r => return (Rehearsal.registry r).current? scope
    | .error _ => return none
  | store => return (← World.dataLayerCell.load).registry.bind fun r => (Rehearsal.registry r).current? scope

/-- The world before a script: the registry that is in place, if one is set. Only a registry of its
own publishes with other attempts than the default ones. -/
def setUp (layer : Layer) (w : World) : World :=
  match layer with
  | registry => { w with dataLayer := { registries := [⟨.given 0, recordingBus⟩] } }
  | memory =>
    { w with
      publishAttempts := Publisher.defaultAttempts
      dataLayer :=
        { bus := some inMemoryBus, registry := some 0, registries := [⟨.given 0, inMemoryBus⟩] } }
  | store => { w with publishAttempts := Publisher.defaultAttempts }

end Layer

/-! ## Steps -/

/-- The session with a label. -/
def sessionNamed? (label : Text) (w : World) : Option SessionRef :=
  (List.range w.sessions.length).find? fun ref => sessionLabel ref = label

/-- The session that a step is about: the one that it names, else that of the body around it, else
the one that was last opened outside every body. -/
def target? (manner : Manner) (context : Context) (w : World) : Option SessionRef :=
  match manner.session with
  | some label => sessionNamed? label w
  | none => context.session.or w.lastOpened

/-- The fault of a step that is about no session. -/
def noTargetFault : Fault :=
  .named "TypeError" "Cannot read properties of null"

/-- The session that a step works on. -/
def target (manner : Manner) (context : Context) : Action SessionRef := do
  match ← Program.read (target? manner context) with
  | some ref => return ref
  | none => .fail noTargetFault

/-- A step that answers with nothing. -/
def quietly (action : Action Unit) : Action Outcome := do
  action
  return .value .null

/-- The connection of a session, remembered for a later step. -/
def connectTarget (ref : SessionRef) : Action Outcome := do
  match ← (session ref).connection with
  | none => return .value .null
  | some c =>
    .change fun w => { w with lastConnection := some (ref, c) }
    return .value (.str (connectionName c))

/-- Gives back the connection that a step was answered with last. -/
def releaseLast : Action Unit := do
  match ← Program.read World.lastConnection with
  | none => .fail noTargetFault
  | some (ref, c) => releaseTo (← .read (World.partsOf ref)).source c

/-- Opens a session outside every scope. -/
def openSession (layer : Layer) (context : Context) : Action Outcome := do
  let ref ← (registry (← layer.registryInPlace)).create
  if context.topLevel then .change fun w => { w with lastOpened := some ref }
  return .session ref

/-- What is drawn unless draws are planned. -/
def plainDraw : Number := 0.5

/-- Draws of one run, from a list that starts over at its end. An empty list has no number to
draw. -/
def drawFrom (draws : List Number) (counter : Nat) : Action Number := do
  let k ← Program.step (World.count counter)
  return draws.getD (k % draws.length) .nan

/-- How a serialized run is retried. -/
def retryOf (options : SerializedOptions) (draws : Nat) : Retry Kernel World where
  maxAttempts := options.maxAttempts.getD Retry.defaultAttempts
  rate := options.rate.getD Backoff.defaultRate
  draw := drawFrom options.draws draws
  sleep ms :=
    if options.sleeps then sleepFor ms
    else .change (World.recordSleep (Backoff.microseconds? ms))

/-- What an attempt answers with. -/
def attemptValue (k : Nat) (arguments : List Json) : Outcome :=
  .value (.obj [("attempt", .ofNat k), ("args", .arr arguments)])

/-- Whether the registry and the bus in place stay the same when they are asked for again. -/
def compareInPlace : Action Outcome := do
  let r ← dataLayer.sessionRegistry
  let r' ← dataLayer.sessionRegistry
  let b ← dataLayer.messageBus
  let b' ← dataLayer.messageBus
  return .value (.arr [.bool (r = r'), .bool (b = b')])

/-- Traces a step: notes its outcome, and passes a failure on to the body around it. -/
def traced (layer : Layer) (manner : Manner) (context : Context) (opens : Bool) (action : Action Outcome) :
    Action Unit := do
  let outcome ← action.attempt
  if !context.quiet then
    let bound ← layer.bound? context.scope
    let record ← Program.step World.takeRecord
    .change fun w =>
      let about :=
        match opens, outcome with
        | true, .ok (.session ref) => some ref
        | _, _ => target? manner context w
      let entry : TraceEntry :=
        ⟨manner.action, outcome, bound, w.active, record,
          about.map fun ref => (ref, (World.sessionCell ref).get w)⟩
      { w with trace := w.trace ++ [entry] }
  match outcome with
  | .ok _ => pure ()
  | .error f => if context.topLevel || manner.tolerant then pure () else .fail f

/-- The context of a body that belongs to a session. -/
def bodyContext (context : Context) (scope : Scope) (ref : SessionRef) : Context :=
  { context with scope, session := some ref, topLevel := false }

mutual

/-- Carries a step out. -/
def perform (layer : Layer) (manner : Manner) (context : Context) : Step → Action Outcome
  | .open => openSession layer context
  | .snapshot => return .value .null
  | .connection => do connectTarget (← target manner context)
  | .query statement => do quietly ((session (← target manner context)).query statement)
  | .release => quietly releaseLast
  | .queue channel message onBound => do
    if onBound then
      quietly (layer.choose (registry 0).queueMessage dataLayer.queueMessage channel message
        context.scope)
    else quietly ((session (← target manner context)).queueMessage channel message)
  | .isolation level => do quietly ((session (← target manner context)).setIsolation level)
  | .commit => do quietly (session (← target manner context)).commit
  | .rollback => do quietly (session (← target manner context)).rollback
  | .close => do quietly (session (← target manner context)).close
  | .savepoint body result => do
    let ref ← target manner context
    (session ref).savepoint do
      runAll layer (bodyContext context context.scope ref) body
      return .value result
  | .fail fault => .fail fault
  | .sleep ms => quietly (sleepFor ms)
  | .current => do return .session (← (registry (← layer.registryInPlace)).current context.scope)
  | .bind body result => do
    let ref ← target manner context
    (registry (← layer.registryInPlace)).bind ref (fun scope => do
      runAll layer (bodyContext context scope ref) body
      return .value result) context.scope
  | .scoped commit body result => do
    layer.choose ((registry 0).runScoped commit) (dataLayer.runScoped commit) (fun ref scope => do
      runAll layer (bodyContext context scope ref) body
      return .value result) context.scope
  | .worker name arguments commit body => do
    layer.choose ((registry 0).runWorker commit name) (dataLayer.runWorker commit name)
      (fun ref scope => do
        runAll layer (bodyContext context scope ref) body
        return .value (.arr arguments)) context.scope
  | .serialized options attempts => do
    let bodies := runEach layer attempts
    let attemptCounter ← Program.step World.newCounter
    let drawCounter ← Program.step World.newCounter
    let work (ref : SessionRef) (scope : Scope) : Action Outcome := do
      let k ← Program.step (World.count attemptCounter)
      let inner := bodyContext context scope ref
      bodies.getD (min k (bodies.length - 1)) (fun _ => pure ())
        { inner with quiet := context.quiet || options.quiet }
      return attemptValue (k + 1) options.arguments
    let retry := retryOf options drawCounter
    layer.choose ((registry 0).runSerialized retry) (dataLayer.runSerialized retry) work context.scope
  | .parallel branches => do
    return .branches (← forkAll (branches.map fun steps => ⟨{ context with topLevel := false }, steps⟩))
  | .planFailure failure => quietly (World.planCell.modify (Plans.addFailure failure))
  | .deadLetters => do return .deadLetters (← (World.deadLetterCell 0).load)
  | .clearDeadLetters => quietly ((World.deadLetterCell 0).modify fun _ => [])
  | .guardStats => do return .guard (← (World.guardCell (← database.client)).load)
  | .clearBus => quietly (World.subscriptionCell.modify Subscriptions.clear)
  | .sameRegistry => compareInPlace
  | .shutdown => quietly dataLayer.shutdown

/-- Runs steps in order, until one fails in a way that ends them. -/
def runAll (layer : Layer) (context : Context) : List (Manner × Step) → Action Unit
  | [] => pure ()
  | (manner, step) :: rest => do
    traced layer manner context (step matches .open) do
      layer.prepare step
      perform layer manner context step
    runAll layer context rest

/-- The runs of lists of steps, each waiting for its context. -/
def runEach (layer : Layer) : List (List (Manner × Step)) → List (Context → Action Unit)
  | [] => []
  | steps :: rest => (fun context => runAll layer context steps) :: runEach layer rest

end

/-! ## Scripts -/

/-- What a script leaves: the trace, what happened after the last entry if the script never ended,
and the world. -/
structure Report where
  world : World
  hung : Option Record

/-- What a branch of a script does. -/
def startBranch (layer : Layer) (b : Branch) : Action Outcome :=
  quietly (runAll layer b.context b.steps)

/-- Runs a script. -/
def runScript (layer : Layer) (w : World) (steps : Steps) : Report :=
  let machine : Machine := { world := layer.setUp w }
  let (task, machine) := machine.spawn (quietly (runAll layer {} steps))
  let machine := machine.runUntilFinished (startBranch layer) task Machine.patience
  match machine.outcome? task with
  | some _ => ⟨machine.world, none⟩
  | none =>
    let (record, world) := machine.world.takeRecord
    ⟨world, some record⟩

end UnitOfWork.Rehearsal
