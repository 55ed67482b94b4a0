import UnitOfWork.Bus.Notify
import UnitOfWork.Bus.Subscriptions
import UnitOfWork.DataLayer
import UnitOfWork.Mail.Mailer
import UnitOfWork.Publisher
import UnitOfWork.Rehearsal.Step

/-!
# The world of a rehearsal

Everything that a rehearsal holds: the process, a clock that only moves when everything waits, the
plans, the sessions, and a record of what the stand-ins were asked. `World` is the state that all
programs of a rehearsal work on, and its parts are reached through cells.
-/

namespace UnitOfWork.Rehearsal

/-- A use of a stand-in: who was used, and for what. -/
structure Call where
  who : Text
  what : Option Json := none

/-- A message that was published, with the balance of borrowed connections at that moment. -/
structure Publication where
  message : Message
  active : Int

/-- What happened since the record was last taken. -/
structure Record where
  calls : List Call := []
  published : List Publication := []
  /-- Waits that were recorded; one that is too long to be told is left blank. -/
  sleeps : List (Option Number) := []
  received : List (Text × Text) := []
  lines : List LogLine := []

/-- A session that was opened: its registry and its state. -/
structure SessionEntry where
  registry : RegistryRef
  state : SessionState := {}

/-- A listener for notifications. -/
structure Listener where
  ref : Nat
  channel : Text
  subscriber : Text

/-- What a finished step answers with. -/
inductive Outcome where
  | value (v : Json)
  | session (ref : SessionRef)
  | deadLetters (letters : List DeadLetter)
  | branches (results : List (Except Fault Unit))
  | guard (g : PoolGuard)
  | client (ref : ClientRef) (g : PoolGuard)
  | status (code : Nat)

/-- A step that was finished, as it is traced: its name, its outcome, the session that was bound,
the balance of borrowed connections, what happened since the entry before, and the session it was
about. -/
structure TraceEntry where
  action : Text
  outcome : Except Fault Outcome
  bound : Option SessionRef
  active : Int
  record : Record
  session : Option (SessionRef × SessionState)

/-- The moment at which every rehearsal starts. -/
def start : Time := 1700000000000

/-- The state that a rehearsal works on. -/
structure World where
  platform : Platform := {}
  clock : Time := start
  stamps : Nat := 0
  plans : Plans := {}
  calls : List Call := []
  published : List Publication := []
  sleeps : List (Option Number) := []
  received : List (Text × Text) := []
  sessions : List SessionEntry := []
  dataLayer : DataLayerState := {}
  clients : Clients := {}
  deadLetters : List (List DeadLetter) := []
  publishAttempts : Number := Publisher.defaultAttempts
  subscriptions : Subscriptions Text := {}
  listeners : List Listener := []
  /-- What was listened on last under a name. -/
  listenings : List (Text × Listening) := []
  /-- What was subscribed to last under a name. -/
  named : List (Text × Subscription Text) := []
  /-- Actions that handlers may still take. -/
  budget : Nat := 50
  /-- Borrowers that were served or turned away. -/
  events : List (Text × Except Fault Json) := []
  /-- Connections that were handed out. -/
  connections : Nat := 0
  /-- Connections that were handed out, less those given back. A connection that is given back twice
  counts twice, so the balance may be negative. -/
  active : Int := 0
  /-- Pooled connections that were given back. -/
  released : List Connection := []
  /-- Tickets that were settled and not yet told to who waits for them. -/
  settled : List (Ticket × Except Fault Unit) := []
  counters : List Nat := []
  rows : List Json := []
  mailbox : Mailbox := {}
  notes : List Text := []
  hints : List Text := []
  /-- The session that was last opened outside every body. -/
  lastOpened : Option SessionRef := none
  /-- The connection that a step was answered with last, and its session. -/
  lastConnection : Option (SessionRef × Connection) := none
  trace : List TraceEntry := []

namespace World

/-- The process. -/
def platformCell : Cell World Platform :=
  ⟨World.platform, fun v w => { w with platform := v }⟩

/-- The log. -/
def logCell : Cell World Log :=
  ⟨fun w => w.platform.log, fun v w => { w with platform := { w.platform with log := v } }⟩

/-- Where entries are written. -/
def journal : Journal World :=
  ⟨logCell, World.clock⟩

/-- The stamps that order timers. -/
def stampCell : Cell World Nat :=
  ⟨World.stamps, fun v w => { w with stamps := v }⟩

/-- The plans. -/
def planCell : Cell World Plans :=
  ⟨World.plans, fun v w => { w with plans := v }⟩

/-- The data layer. -/
def dataLayerCell : Cell World DataLayerState :=
  ⟨World.dataLayer, fun v w => { w with dataLayer := v }⟩

/-- The clients. -/
def clientCell : Cell World Clients :=
  ⟨World.clients, fun v w => { w with clients := v }⟩

/-- The subscriptions to the bus in memory. -/
def subscriptionCell : Cell World (Subscriptions Text) :=
  ⟨World.subscriptions, fun v w => { w with subscriptions := v }⟩

/-- The mailbox. -/
def mailboxCell : Cell World Mailbox :=
  ⟨World.mailbox, fun v w => { w with mailbox := v }⟩

/-- What a notifier remembers. -/
def noteCell : Cell World (List Text) :=
  ⟨World.notes, fun v w => { w with notes := v }⟩

/-- The state of a session. -/
def sessionCell (ref : SessionRef) : Cell World SessionState where
  get w := ((w.sessions[ref]?).map (·.state)).getD {}
  set v w := { w with sessions := w.sessions.modify ref fun e => { e with state := v } }

/-- The guard of a client. A client that was never made has one that admits nobody. -/
def guardCell (ref : ClientRef) : Cell World PoolGuard where
  get w := w.clients.guards.getD ref ⟨0, 0, 0, [], 0, []⟩
  set v w := { w with clients := { w.clients with guards := w.clients.guards.modify ref fun _ => v } }

/-- The pooled connections that were given back. -/
def releasedCell : Cell World (List Connection) :=
  ⟨World.released, fun v w => { w with released := v }⟩

/-- The dead letters of a registry's publisher. -/
def deadLetterCell (ref : RegistryRef) : Cell World (List DeadLetter) where
  get w := w.deadLetters.getD ref []
  set v w :=
    let missing := ref + 1 - w.deadLetters.length
    { w with deadLetters := (w.deadLetters ++ List.replicate missing []).modify ref fun _ => v }

/-- Adds to the calls. -/
def recordCall (call : Call) (w : World) : World :=
  { w with calls := w.calls ++ [call] }

/-- Adds to the waits that are recorded instead of slept through. -/
def recordSleep (wait : Option Number) (w : World) : World :=
  { w with sleeps := w.sleeps ++ [wait] }

/-- Adds to the publications. -/
def recordPublication (message : Message) (w : World) : World :=
  { w with published := w.published ++ [⟨message, w.active⟩] }

/-- Adds to the messages received. -/
def recordReceived (receiver message : Text) (w : World) : World :=
  { w with received := w.received ++ [(receiver, message)] }

/-- Takes the record of what happened since it was last taken. -/
def takeRecord (w : World) : Record × World :=
  (⟨w.calls, w.published, w.sleeps, w.received, w.platform.log.lines⟩,
    { w with
      calls := [], published := [], sleeps := [], received := [],
      platform := { w.platform with log := { w.platform.log with lines := [] } } })

/-- The value that was noted last under a name. -/
def noted? {α : Type} (name : Text) (notes : List (Text × α)) : Option α :=
  (notes.find? (·.1 = name)).map (·.2)

/-- Notes that a borrower was served or turned away. -/
def recordEvent (borrower : Text) (outcome : Except Fault Json) (w : World) : World :=
  { w with events := w.events ++ [(borrower, outcome)] }

/-- Milliseconds since the start. -/
def elapsed (w : World) : Time :=
  w.clock - start

/-- Opens a session of a registry. -/
def openSession (registry : RegistryRef) (w : World) : SessionRef × World :=
  (w.sessions.length, { w with sessions := w.sessions ++ [{ registry }] })

/-- Starts a counter. -/
def newCounter (w : World) : Nat × World :=
  (w.counters.length, { w with counters := w.counters ++ [0] })

/-- Counts one more; the answer is the count before. -/
def count (counter : Nat) (w : World) : Nat × World :=
  (w.counters.getD counter 0, { w with counters := w.counters.modify counter (· + 1) })

/-- What the registry of a session is made of. A session that was never opened is one of the sources
and buses that were set. -/
def partsOf (ref : SessionRef) (w : World) : RegistryParts :=
  ((w.sessions[ref]?).bind fun e => w.dataLayer.registries[e.registry]?).getD ⟨.given 0, .given 0⟩

/-- The registry of a session. -/
def registryOf (ref : SessionRef) (w : World) : RegistryRef :=
  ((w.sessions[ref]?).map (·.registry)).getD 0

end World

end UnitOfWork.Rehearsal
