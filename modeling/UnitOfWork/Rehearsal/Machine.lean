import UnitOfWork.Rehearsal.World

/-!
# Running programs side by side

A machine runs tasks over one world. A task runs until it has to wait: for a time, for a slot of a
guard, or for branches that it forks off. Tasks that are ready run in turn; only when none is does
the clock jump to the next timer.
-/

namespace UnitOfWork.Rehearsal

/-- What a task waits for. -/
inductive Request where
  | sleep (ms : Number)
  | slot (ticket : Ticket)
  | fork (branches : List Branch)

/-- What a task that waited is told. -/
def Request.Answer : Request → Type
  | sleep _ => Unit
  | slot _ => Unit
  | fork _ => List (Except Fault Unit)

/-- The requests of a rehearsal. -/
def Kernel : Signature :=
  ⟨Request, Request.Answer⟩

/-- A program of a rehearsal. -/
abbrev Action := Program Kernel World

/-- Waits for a time. -/
def sleepFor (ms : Number) : Action Unit :=
  .ask (.sleep ms) .done

/-- Waits until a ticket is settled. -/
def waitForSlot (ticket : Ticket) : Action Unit :=
  .ask (.slot ticket) .done

/-- Runs branches side by side and waits for all of them. -/
def forkAll (branches : List Branch) : Action (List (Except Fault Unit)) :=
  .ask (.fork branches) .done

/-- Whose outcome a task computes: that of a task started from outside, or a branch of a join. -/
inductive Owner where
  | root (task : Nat)
  | branch (join index : Nat)

/-- A task that can go on. -/
structure Task where
  owner : Owner
  program : Action Outcome

/-- A task that waits for a slot. -/
structure SlotWait where
  ticket : Ticket
  owner : Owner
  next : Except Fault Unit → Action Outcome

/-- A task that waits for its branches. -/
structure Join where
  ref : Nat
  results : List (Option (Except Fault Unit))
  owner : Owner
  next : Except Fault (List (Except Fault Unit)) → Action Outcome

/-- A timer of a machine. -/
inductive Alarm where
  | wake (task : Task)
  | expire (client : ClientRef) (ticket : Ticket)

/-- A world with its tasks. -/
structure Machine where
  world : World := {}
  ready : List Task := []
  sleepers : Timers Task := []
  slots : List SlotWait := []
  joins : List Join := []
  finished : List (Nat × Except Fault Outcome) := []
  nextRef : Nat := 0
  /-- What the first timer failed with that had nobody to tell. -/
  broken : Option Fault := none

/-- Borrowing slots of a client's guard in a rehearsal. -/
def pool (client : ClientRef) : Pool Kernel World where
  journal := World.journal
  guard := World.guardCell client
  stamps := World.stampCell
  wait := waitForSlot
  settle ticket outcome w := { w with settled := w.settled ++ [(ticket, outcome)] }

namespace Machine

/-- Tells those that wait for slots what was settled. -/
def tellSettled (m : Machine) : Machine :=
  let m' := { m with world := { m.world with settled := [] } }
  m.world.settled.foldl (fun m (ticket, outcome) =>
    match m.slots.find? (·.ticket = ticket) with
    | none => m
    | some wait =>
      { m with
        slots := m.slots.filter (·.ticket ≠ ticket)
        ready := m.ready ++ [⟨wait.owner, wait.next outcome⟩] }) m'

/-- Puts the result of a branch into its join. -/
def setResult (index : Nat) (outcome : Except Fault Unit) (j : Join) : Join :=
  { j with results := j.results.set index (some outcome) }

/-- Goes on after a join that is complete. -/
def completeJoin (j : Join) (m : Machine) : Machine :=
  if j.results.all Option.isSome then
    { m with
      joins := m.joins.filter (·.ref ≠ j.ref)
      ready := m.ready ++ [⟨j.owner, j.next (.ok (j.results.filterMap id))⟩] }
  else { m with joins := m.joins.map fun k => if k.ref = j.ref then j else k }

/-- Notes the outcome of a task. -/
def conclude (owner : Owner) (outcome : Except Fault Outcome) (m : Machine) : Machine :=
  match owner with
  | .root task => { m with finished := m.finished ++ [(task, outcome)] }
  | .branch join index =>
    match m.joins.find? (·.ref = join) with
    | none => m
    | some j => m.completeJoin (setResult index (outcome.map fun _ => ()) j)

/-- Parks a task on what it asked for. -/
def park (start : Branch → Action Outcome) (owner : Owner) (request : Request)
    (next : Except Fault request.Answer → Action Outcome) (m : Machine) : Machine :=
  match request, next with
  | .sleep ms, next =>
    let stamp := m.world.stamps
    { m with
      world := { m.world with stamps := stamp + 1 }
      sleepers := m.sleepers ++ [⟨m.world.clock + Time.delay ms, stamp, ⟨owner, next (.ok ())⟩⟩] }
  | .slot ticket, next => { m with slots := m.slots ++ [⟨ticket, owner, next⟩] }
  | .fork branches, next =>
    let ref := m.nextRef
    let tasks := branches.mapIdx fun i b => ⟨.branch ref i, start b⟩
    let j : Join := ⟨ref, branches.map fun _ => none, owner, next⟩
    completeJoin j { m with
      nextRef := ref + 1, joins := m.joins ++ [j], ready := m.ready ++ tasks }

/-- Runs one task until it stops. -/
def runTask (start : Branch → Action Outcome) (t : Task) (m : Machine) : Machine :=
  let (world, stop) := t.program.advance m.world
  let m := { m with world }
  tellSettled <|
    match stop with
    | .ended outcome => m.conclude t.owner outcome
    | .asked request next => m.park start t.owner request next

/-- Runs the tasks that are ready, at most `fuel` of them, until none is. -/
def settle (start : Branch → Action Outcome) : (fuel : Nat) → Machine → Machine
  | 0, m => m
  | fuel + 1, m =>
    match m.ready with
    | [] => m
    | t :: rest => settle start fuel (runTask start t { m with ready := rest })

/-- All pending timers. -/
def alarms (m : Machine) : Timers Alarm :=
  m.sleepers.map (fun t => ⟨t.due, t.stamp, .wake t.payload⟩)
    ++ (m.world.clients.guards.mapIdx fun client g =>
      g.timers.map fun t => (⟨t.due, t.stamp, .expire client t.payload⟩ : Timer Alarm)).flatten

/-- Fires a timer. -/
def fire (alarm : Timer Alarm) (m : Machine) : Machine :=
  let m := { m with world := { m.world with clock := m.world.clock.later alarm.due } }
  match alarm.payload with
  | .wake task =>
    { m with sleepers := m.sleepers.cancel alarm.stamp, ready := m.ready ++ [task] }
  | .expire client ticket =>
    match (pool client).expire ticket m.world with
    | (.ok (), world) => tellSettled { m with world }
    | (.error f, world) => { m with world, broken := m.broken.or (some f) }

/-- More turns than any rehearsal takes. -/
def patience : Nat := 1000000

/-- Runs until a task has finished or everything waits for nothing, firing at most `fuel` timers. -/
def runUntilFinished (start : Branch → Action Outcome) (task : Nat) : (fuel : Nat) → Machine → Machine
  | 0, m => m
  | fuel + 1, m =>
    let m := m.settle start patience
    if m.finished.any (·.1 = task) then m
    else
      match m.alarms.next? with
      | none => m
      | some alarm => runUntilFinished start task fuel (m.fire alarm)

/-- Starts a task; it is ready and has not run. -/
def spawn (program : Action Outcome) (m : Machine) : Nat × Machine :=
  let task := m.nextRef
  (task, { m with nextRef := task + 1, ready := m.ready ++ [⟨.root task, program⟩] })

/-- The outcome of a task, if it has finished. -/
def outcome? (task : Nat) (m : Machine) : Option (Except Fault Outcome) :=
  (m.finished.find? (·.1 = task)).map (·.2)

/-- A branch outside of scripts does nothing. -/
def noBranch (_ : Branch) : Action Outcome :=
  pure (.value .null)

/-- Runs everything that is ready outside of scripts. -/
def settleAll (m : Machine) : Machine :=
  m.settle noBranch patience

/-- Runs a program to its end, or as far as it gets: there is no outcome if it waits for ever. -/
def perform (program : Action Outcome) (m : Machine) : Option (Except Fault Outcome) × Machine :=
  let (task, m) := m.spawn program
  let m := m.runUntilFinished noBranch task patience
  (m.outcome? task, m)

/-- Takes the record of what happened since it was last taken. -/
def takeRecord (m : Machine) : Record × Machine :=
  let (record, world) := m.world.takeRecord
  (record, { m with world })

end Machine

end UnitOfWork.Rehearsal
