import UnitOfWork.Bus.Memory
import UnitOfWork.Bus.Notify
import UnitOfWork.Database.Client
import UnitOfWork.Pool.Source
import UnitOfWork.Rehearsal.Machine
import UnitOfWork.Session.Serialized

/-!
# Stand-ins

What takes the place of the store, the buses and the mail server in a rehearsal. A stand-in records
that it was used and then follows the plans.
-/

namespace UnitOfWork.Rehearsal

/-- Fails if a failure is planned for a key. -/
def failAsPlanned (key : Text) : Action Unit := do
  match ← World.planCell.step (Plans.takeFailure key) with
  | some f => .fail f
  | none => pure ()

/-- Uses a stand-in that answers at once: no delay is planned for it. -/
def useNow (who : Text) (what : Option Json) (key : Text) : Action Unit := do
  .change (World.recordCall ⟨who, what⟩)
  failAsPlanned key

/-- Uses a stand-in. -/
def useStandIn (who : Text) (what : Option Json) (key : Text) : Action Unit := do
  .change (World.recordCall ⟨who, what⟩)
  match ← World.planCell.step (Plans.takeDelay key) with
  | some ms => sleepFor ms
  | none => pure ()
  failAsPlanned key

/-! ## Connections -/

/-- The name of a connection. -/
def connectionName (c : Connection) : Text :=
  "C" ++ Text.ofNat c.number

/-- Hands out a connection. -/
def handOutConnection (w : World) : Connection × World :=
  let n := w.connections + 1
  (⟨n⟩, { w with connections := n, active := w.active + 1 })

/-- Counts a connection as given back. -/
def countReleased (w : World) : World :=
  { w with active := w.active - 1 }

/-- Borrows a connection. -/
def reserveConnection : Action Connection := do
  useStandIn "reserve" none "reserve"
  Program.step handOutConnection

/-- Executes a statement on a connection. -/
def executeOn (c : Connection) (s : Statement) : Action Unit :=
  useStandIn (connectionName c) (some (.str s.text)) s.text

/-- What a connection is asked for when it is given back. -/
def releaseWord : Text := "release"

/-- Gives a connection back. -/
def releaseConnection (c : Connection) : Action Unit := do
  useStandIn (connectionName c) (some (.str releaseWord)) releaseWord
  .change countReleased

/-- The connections of a client. A client takes a connection back at once. -/
def pooledSource (client : ClientRef) : PooledSource Kernel World where
  pool := pool client
  lend := reserveConnection
  takeBack c := do
    useNow (connectionName c) (some (.str releaseWord)) releaseWord
    .change countReleased
  released := World.releasedCell

/-- Borrows a connection of a source. -/
def reserveFrom : SourceRef → Action Connection
  | .pooled client => (pooledSource client).reserve
  | .given _ => reserveConnection

/-- Gives a connection of a source back. -/
def releaseTo (source : SourceRef) (c : Connection) : Action Unit :=
  match source with
  | .pooled client => (pooledSource client).release c
  | .given _ => releaseConnection c

/-! ## The store -/

/-- How a pool was opened, as it is recorded. -/
def connectCall (o : ConnectOptions) : Call :=
  ⟨"postgres", some (.object [("url", o.url), ("options", some (.object
    [("max", o.max), ("idle_timeout", some (.ofNat o.idleTimeout)),
      ("max_lifetime", o.maxLifetime.map .ofNat), ("connect_timeout", o.connectTimeout)]))])⟩

/-- What the store is asked for rows with. -/
def rowsWord : Text := "unsafe"

/-- The store. -/
def database : Database Kernel World where
  platform := World.platformCell
  journal := World.journal
  clients := World.clientCell
  pool := pool
  connect o := .change (World.recordCall (connectCall o))
  probe text := useStandIn "query" (some (.str text)) "query"
  rows text := do
    useStandIn rowsWord (some (.str text)) rowsWord
    Program.read World.rows
  finish timeout := useStandIn "end" (some (.obj [("timeout", timeout)])) "end"

/-! ## Buses -/

/-- A message as it is recorded. -/
def messagePair (m : Message) : Json :=
  .arr [.str m.channel, .str m.body]

/-- Delivers a notification to those that listen. -/
def deliverNotification (m : Message) (w : World) : World :=
  (w.listeners.filter (·.channel = m.channel)).foldl
    (fun w l => w.recordReceived l.subscriber m.body) w

/-- Sends a notification. -/
def notify (m : Message) : Action Unit := do
  useStandIn "notify" (some (messagePair m)) ("notify:" ++ m.body)
  .change (deliverNotification m)

/-- Listens on a channel. -/
def listenOn (channel subscriber : Text) : Action Listening := do
  useStandIn "listen" (some (.str channel)) ("listen:" ++ channel)
  let ref ← World.stampCell.step fun n => (n, n + 1)
  .change fun w => { w with listeners := w.listeners ++ [⟨ref, channel, subscriber⟩] }
  return ⟨channel, ref⟩

/-- Stops listening. -/
def stopListening (l : Listening) : Action Unit := do
  useStandIn "unlisten" (some (.str l.channel)) ("unlisten:" ++ l.channel)
  .change fun w => { w with listeners := w.listeners.filter (·.ref ≠ l.ref) }

/-- A notification bus with or without a guard. -/
def notifyBus (guard : Option ClientRef) : NotifyBus Kernel World :=
  ⟨World.journal, guard.map pool, notify, listenOn, stopListening⟩

/-- The bus that records what is published on it. -/
def publishRecorded (m : Message) : Action Unit := do
  useStandIn "publish" (some (messagePair m)) ("publish:" ++ m.body)
  .change (World.recordPublication m)

/-- The bus in memory, with what calling a handler does. -/
def memoryBus (call : Text → Text → Action Unit) : MemoryBus Kernel World Text :=
  ⟨World.journal, World.subscriptionCell, call⟩

/-- The place of the bus that records, among the buses that are set. -/
def recordingBus : BusRef := .given 0

/-- The place of the bus in memory, among the buses that are set. -/
def inMemoryBus : BusRef := .given 1

/-- Publishes on the bus in memory, to which nobody has subscribed. -/
def publishInMemory (m : Message) : Action Unit := do
  (memoryBus fun _ _ => pure ()).publish m
  .change (World.recordPublication m)

/-- Publishes on a bus. -/
def publishOn (bus : BusRef) (m : Message) : Action Unit :=
  match bus with
  | .notifications client => (notifyBus (some client)).publish m
  | .given _ => if bus = inMemoryBus then publishInMemory m else publishRecorded m

/-! ## Sessions -/

/-- The publisher of a registry that publishes on a bus. -/
def publisher (registry : RegistryRef) (maxAttempts : Number) (bus : BusRef) : Publisher Kernel World where
  journal := World.journal
  maxAttempts := maxAttempts
  publish := publishOn bus
  sleep := sleepFor
  deadLetters := World.deadLetterCell registry

/-- The label of a session. -/
def sessionLabel (ref : SessionRef) : Text :=
  "S" ++ Text.ofNat (ref + 1)

/-- A session, over what its registry is made of. -/
def session (ref : SessionRef) : Session Kernel World where
  id := sessionLabel ref
  state := World.sessionCell ref
  journal := World.journal
  reserve := do reserveFrom (← .read (World.partsOf ref)).source
  execute := executeOn
  release c := do releaseTo (← .read (World.partsOf ref)).source c
  handOver messages := do
    let w ← .read id
    (publisher (w.registryOf ref) w.publishAttempts (w.partsOf ref).bus).flush
      (Journal.field "sessionId" (sessionLabel ref)) messages

/-- A registry. -/
def registry (ref : RegistryRef) : Registry Kernel World where
  ref := ref
  journal := World.journal
  create := .step (World.openSession ref)
  session := session

/-- The data layer. -/
def dataLayer : DataLayer Kernel World :=
  ⟨database, World.dataLayerCell, registry⟩

end UnitOfWork.Rehearsal
