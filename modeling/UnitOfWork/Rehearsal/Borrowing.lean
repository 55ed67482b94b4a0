import UnitOfWork.Rehearsal.StandIns

/-!
# Rehearsing a guard

Borrowers come and go at one guard and nobody waits for them; the clock moves on request. What
happened to the borrowers is noted in groups, one for each step and for each timer that fired.
-/

namespace UnitOfWork.Rehearsal

/-- A step at a guard. -/
inductive GuardStep where
  | acquire (borrower : Text)
  | release
  /-- Holds a slot for a time and then ends with an outcome. -/
  | run (borrower name : Text) (ms : Number) (outcome : Except Fault Json)
  | advance (ms : Number)

/-- What happened to borrowers, by borrower. -/
abbrev Events := List (Text × Except Fault Json)

/-- Puts an event among events in the order of their borrowers, behind those of the same one. -/
def insertEvent (e : Text × Except Fault Json) : Events → Events
  | [] => [e]
  | d :: rest => if Text.le d.1 e.1 then d :: insertEvent e rest else e :: d :: rest

/-- Events in the order of their borrowers. -/
def sortEvents (events : Events) : Events :=
  events.foldl (fun done e => insertEvent e done) []

/-- The guard of a rehearsal is that of the first client. -/
def rehearsedClient : ClientRef := 0

/-- Starts a borrower whose outcome is noted when it is served or turned away. -/
def startBorrower (borrower : Text) (action : Action Json) (m : Machine) : Machine :=
  let noted : Action Outcome := do
    let outcome ← action.attempt
    .change (World.recordEvent borrower outcome)
    return .value .null
  (m.spawn noted).2

/-- Takes the events noted so far. -/
def takeEvents (m : Machine) : Events × Machine :=
  (sortEvents m.world.events, { m with world := { m.world with events := [] } })

/-- Moves the clock to a moment, firing the timers that are due, at most `fuel` of them. -/
def advanceTo (moment : Time) : (fuel : Nat) → Machine → Events × Machine
  | 0, m => ([], m)
  | fuel + 1, m =>
    match m.alarms.next? with
    | some alarm =>
      if alarm.due.le moment then
        let (group, m) := takeEvents (m.fire alarm).settleAll
        let (later, m) := advanceTo moment fuel m
        (group ++ later, m)
      else ([], { m with world := { m.world with clock := moment } })
    | none => ([], { m with world := { m.world with clock := moment } })

/-- The work of a borrower that holds a slot. -/
def heldWork (ms : Number) (outcome : Except Fault Json) : Action Json := do
  if !ms.isZero then sleepFor ms
  .ofExcept outcome

/-- Carries a step out: its own outcome, if it has one, and the events that it brought. -/
def GuardStep.perform (m : Machine) : GuardStep → Option (Except Fault Unit) × Events × Machine
  | .acquire borrower =>
    let m := startBorrower borrower (do (pool rehearsedClient).acquire; return .null) m
    let (events, m) := takeEvents m.settleAll
    (none, events, m)
  | .run borrower name ms outcome =>
    let m := startBorrower borrower ((pool rehearsedClient).run name (heldWork ms outcome)) m
    let (events, m) := takeEvents m.settleAll
    (none, events, m)
  | .release =>
    let (outcome, m) := m.perform do
      (pool rehearsedClient).release
      return .value .null
    let (events, m) := takeEvents m.settleAll
    (outcome.map (·.map fun _ => ()), events, m)
  | .advance ms =>
    let (events, m) := advanceTo (m.world.clock + ms) Machine.patience m
    (none, events, m)

end UnitOfWork.Rehearsal
