import UnitOfWork.Config.EnvFile
import UnitOfWork.Database.Check
import UnitOfWork.Rehearsal.StandIns

/-!
# Rehearsing the store's client

Steps on the store's client, the health check and the store's check.
-/

namespace UnitOfWork.Rehearsal

/-- A step on the store's client. -/
inductive ClientStep where
  | get
  | create (config : ClientConfig)
  | close
  | notice (severity message : Option Json)
  /-- Takes the configuration of an environment, of the process if none is given, as the one in
  force. -/
  | setConfig (env : Option Json)

/-- A client with its guard. -/
def viewClient (ref : ClientRef) : Action Outcome := do
  return .client ref (← (World.guardCell ref).load)

/-- Carries a step out. -/
def ClientStep.perform : ClientStep → Action Outcome
  | .get => do viewClient (← database.client)
  | .create config => do viewClient (← database.createClient config)
  | .close => do
    database.closeClient
    return .value .null
  | .notice severity message => do
    database.notice severity message
    return .value .null
  | .setConfig env => do
    .ofExcept (← World.platformCell.step (Platform.adoptConfig env))
    return .value .null

/-- Tells the operator: on a stream of its own, or among the lines of the log. -/
def tellOperator (ownStream : Bool) (text : Text) : Action Unit :=
  .change fun w =>
    if ownStream then { w with hints := w.hints ++ [text] }
    else World.logCell.update (Log.tell text) w

/-- Runs the health check. -/
def healthCheck (ownStream : Bool) (url : Option Text) (timeout : Json) : Action Outcome := do
  database.checkConnection (tellOperator ownStream) url timeout
  return .value .null

/-- The store's check; the answer is its exit status. -/
def storeCheck : Action Outcome := do
  return .status (← database.check (tellOperator false))

/-- A process before the store's check: its environment, with what the files add to it. -/
def withFiles (files : List (Text × Text)) (p : Platform) : Platform :=
  { p with environment := EnvFile.load files p.environment }

/-- Runs the store's check in a world to its end: the exit status, if there is an end, and what
happened. -/
def runStoreCheck (files : List (Text × Text)) (w : World) : Option Nat × Record :=
  let m : Machine := { world := { w with platform := withFiles files w.platform } }
  let (outcome, m) := m.perform storeCheck
  let status :=
    match outcome with
    | some (.ok (.status code)) => some code
    | _ => none
  (status, m.world.takeRecord.1)

end UnitOfWork.Rehearsal
