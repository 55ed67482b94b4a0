import UnitOfWork.DataLayer
import UnitOfWork.Proofs.Trial.Operations

/-!
# Chores over a data layer

A chore uses the data layer of a process: it puts buses in place and asks for the one that is, makes
registries and drops them, runs scopes and serialized transactions through the registry in place,
one inside another and one after another, and shuts the data layer down. What it does next may
depend on everything that it got back, so `Chore` is a tree. `Chore.play` is its program in a scene,
which decides what calls come to; the state is an `Office`, with a history of what concerns buses.
-/

namespace UnitOfWork.InPlace

open Trial (SessionCall)

/-! ## Requests and events -/

/-- What chores ask of their surroundings. -/
inductive Request where
  | reserve (ref : SessionRef)
  | execute (ref : SessionRef) (c : Connection) (statement : Statement)
  | release (ref : SessionRef) (c : Connection)
  | publish (bus : BusRef) (message : Message)
  /-- Waits between two attempts to publish a message. -/
  | pause (ms : Number)
  /-- Draws what the next wait between two attempts at a transaction is made from. -/
  | draw
  /-- Waits between two attempts at a transaction. -/
  | sleep (ms : Number)
  /-- Anything else that a chore waits for. -/
  | consult (question : Json)
  /-- Opens a pool of connections. -/
  | connect (options : ConnectOptions)
  /-- Waits for a slot of a client. -/
  | slot (ticket : Ticket)
  | probe (text : Text)
  | rows (text : Text)
  /-- Ends a pool of connections. -/
  | finish (timeout : Json)

/-- What a request is answered with. -/
def Request.Answer : Request → Type
  | reserve _ => Connection
  | draw => Number
  | consult _ => Json
  | rows _ => List Json
  | execute _ _ _ | release _ _ | publish _ _ | pause _ | sleep _ | connect _ | slot _ | probe _
  | finish _ => Unit

/-- The requests of chores. -/
abbrev Calls : Signature :=
  ⟨Request, Request.Answer⟩

/-- What happens in an office, as far as it concerns buses. -/
inductive Event where
  /-- A chore puts a bus in place, or none. -/
  | busSet (bus : Option BusRef)
  /-- A registry is made. -/
  | made (parts : RegistryParts)
  /-- A chore forgets the registry in place, alone or by shutting down. -/
  | dropped
  /-- Work begins in a session of a scope or of a serialized transaction. That started when the
  history was so long, and asking for the bus would have been answered so. -/
  | began (ref : SessionRef) (start : Nat) (answer : Except Fault BusRef)
  /-- A session hands messages over to the publisher of its registry. -/
  | handedOver (ref : SessionRef) (messages : List Message)
  | published (bus : BusRef) (message : Message) (fault : Option Fault)
  | parked (letter : DeadLetter)

/-! ## Offices -/

/-- What chores work on: what they keep for themselves, what the process holds, and what
happened. -/
structure Office (υ : Type) where
  own : υ
  platform : Platform := {}
  clients : Clients := {}
  layer : DataLayerState := {}
  sessions : SessionRef → SessionState := fun _ => {}
  /-- The registries of the sessions that were opened, in the order of their opening. -/
  owners : List RegistryRef := []
  letters : RegistryRef → List DeadLetter := fun _ => []
  /-- Connections that were handed out. -/
  connections : Nat := 0
  stamps : Nat := 0
  history : List Event := []

namespace Office

variable {υ : Type}

/-- Adds to the history. -/
def note (e : Event) (o : Office υ) : Office υ :=
  { o with history := o.history ++ [e] }

/-- The data layer. Registries that are made are noted. -/
def layerCell : Cell (Office υ) DataLayerState where
  get := Office.layer
  set layer o :=
    { o with
      layer
      history := o.history ++ (layer.registries.drop o.layer.registries.length).map .made }

/-- The dead letters of a registry's publisher. New ones are noted. -/
def letterCell (registry : RegistryRef) : Cell (Office υ) (List DeadLetter) where
  get o := o.letters registry
  set letters o :=
    { o with
      letters := Function.update o.letters registry letters
      history := o.history ++ (letters.drop (o.letters registry).length).map .parked }

/-- The state of a session. -/
def sessionCell (ref : SessionRef) : Cell (Office υ) SessionState :=
  ⟨fun o => o.sessions ref, fun x o => { o with sessions := Function.update o.sessions ref x }⟩

/-- The guard of a client. A client that was never made has one that admits nobody. -/
def guardCell (client : ClientRef) : Cell (Office υ) PoolGuard where
  get o := o.clients.guards.getD client ⟨0, 0, 0, [], 0, []⟩
  set guard o :=
    { o with clients := { o.clients with guards := o.clients.guards.modify client fun _ => guard } }

/-- Opens a session of a registry. -/
def openSession (registry : RegistryRef) (o : Office υ) : SessionRef × Office υ :=
  (o.owners.length, { o with owners := o.owners ++ [registry] })

/-- Hands out a connection. -/
def handOut (o : Office υ) : Connection × Office υ :=
  (⟨o.connections + 1⟩, { o with connections := o.connections + 1 })

/-- The bus that the registry of a session was made for. -/
def busOf? (o : Office υ) (ref : SessionRef) : Option BusRef := do
  let registry ← o.owners[ref]?
  let parts ← o.layer.registries[registry]?
  return parts.bus

end Office

/-! ## Scenes -/

/-- What decides what the calls of chores come to. All of it may depend on everything that
happened. -/
structure Scene (υ : Type) where
  /-- What a call fails with, if it does. -/
  fault? : Office υ → Request → Option Fault
  /-- A bus fails with what can be told. -/
  sayable : ∀ o bus message f, fault? o (.publish bus message) = some f → f.Sayable
  clock : Office υ → Time
  /-- A clock shows moments that have a date. -/
  dated : ∀ o, (clock o).hasDate = true
  draw : Office υ → Number
  advice : Office υ → Json → Json
  /-- The identifier of a session. -/
  label : SessionRef → Text

namespace Scene

variable {υ α : Type} (T : Scene υ)

/-- Answers a request. A wait always ends, and drawing never fails. -/
def serve : Server Calls (Office υ)
  | .reserve ref, o =>
    match T.fault? o (.reserve ref) with
    | some f => (.error f, o)
    | none => (.ok o.handOut.1, o.handOut.2)
  | .publish bus message, o =>
    let f := T.fault? o (.publish bus message)
    (Fault.toResult f, o.note (.published bus message f))
  | .pause _, o | .sleep _, o | .slot _, o => (.ok (), o)
  | .draw, o => (.ok (T.draw o), o)
  | .consult question, o =>
    match T.fault? o (.consult question) with
    | some f => (.error f, o)
    | none => (.ok (T.advice o question), o)
  | .rows text, o =>
    match T.fault? o (.rows text) with
    | some f => (.error f, o)
    | none => (.ok [], o)
  | .execute ref c statement, o => (Fault.toResult (T.fault? o (.execute ref c statement)), o)
  | .release ref c, o => (Fault.toResult (T.fault? o (.release ref c)), o)
  | .connect options, o => (Fault.toResult (T.fault? o (.connect options)), o)
  | .probe text, o => (Fault.toResult (T.fault? o (.probe text)), o)
  | .finish timeout, o => (Fault.toResult (T.fault? o (.finish timeout)), o)

/-! ## The program in a scene -/

/-- Makes a request. -/
def asking (request : Request) : Program Calls (Office υ) request.Answer :=
  .ask request .done

/-- Where entries are written. -/
def journal : Journal (Office υ) where
  log := ⟨fun o => o.platform.log, fun log o => { o with platform := { o.platform with log } }⟩
  now := T.clock

/-- The store. -/
def database : Database Calls (Office υ) where
  platform := ⟨Office.platform, fun platform o => { o with platform }⟩
  journal := T.journal
  clients := ⟨Office.clients, fun clients o => { o with clients }⟩
  pool client :=
    { journal := T.journal
      guard := Office.guardCell client
      stamps := ⟨Office.stamps, fun stamps o => { o with stamps }⟩
      wait := fun ticket => asking (.slot ticket)
      settle := fun _ _ o => o }
  connect options := asking (.connect options)
  probe text := asking (.probe text)
  rows text := asking (.rows text)
  finish timeout := asking (.finish timeout)

/-- The publisher of a registry, on the bus that the registry was made for. -/
def publisher (registry : RegistryRef) (bus : BusRef) : Publisher Calls (Office υ) where
  journal := T.journal
  maxAttempts := Publisher.defaultAttempts
  publish message := asking (.publish bus message)
  sleep ms := asking (.pause ms)
  deadLetters := Office.letterCell registry

/-- A session. What it hands over is noted before the publisher of its registry gets it. -/
def session (ref : SessionRef) : Session Calls (Office υ) where
  id := T.label ref
  state := Office.sessionCell ref
  journal := T.journal
  reserve := asking (.reserve ref)
  execute c statement := asking (.execute ref c statement)
  release c := asking (.release ref c)
  handOver messages :=
    .act (Office.note (.handedOver ref messages)) fun o =>
      (T.publisher (o.owners.getD ref 0) ((o.busOf? ref).getD (.given 0))).flush
        (Journal.field "sessionId" (T.label ref)) messages

/-- A registry. -/
def registry (ref : RegistryRef) : Registry Calls (Office υ) where
  ref := ref
  journal := T.journal
  create := .step (Office.openSession ref)
  session := T.session

/-- The data layer. -/
def layer : DataLayer Calls (Office υ) :=
  ⟨T.database, Office.layerCell, T.registry⟩

/-- How serialized transactions are retried. -/
def retry (limit rate : Number) : Retry Calls (Office υ) :=
  ⟨limit, rate, asking .draw, fun ms => asking (.sleep ms)⟩

/-- What asking for the bus is answered with. -/
def answer (o : Office υ) : Except Fault BusRef :=
  (T.layer.messageBus.run T.serve o).1

/-- Notes something and goes on. -/
def noting {β : Type} (e : Event) (p : Program Calls (Office υ) β) : Program Calls (Office υ) β :=
  .act (Office.note e) fun _ => p

/-- A program over a session, which must have been opened. -/
def reaching {β : Type} (ref : SessionRef) (p : Program Calls (Office υ) β) :
    Program Calls (Office υ) β :=
  .act id fun o =>
    if ref < o.owners.length then p
    else .fail (.named "TypeError" "Cannot read properties of undefined")

/-- Something that starts: what follows knows how the office is then. -/
def starting {β : Type} (p : Office υ → Program Calls (Office υ) β) : Program Calls (Office υ) β :=
  .act id p

/-- Work in a session of what started in an office. -/
def within (o : Office υ) (ref : SessionRef) (body : Scoped Calls (Office υ) α) :
    Scoped Calls (Office υ) α :=
  fun scope => noting (.began ref o.history.length (T.answer o)) (body scope)

end Scene

/-! ## Chores -/

/-- What a chore does. It keeps a state `υ` for itself and ends with a value of `α` or a fault. -/
inductive Chore (υ α : Type) where
  /-- The chore has ended. -/
  | done (outcome : Except Fault α)
  /-- Changes what the chore keeps for itself, and goes on with that before the change. -/
  | act (update : υ → υ) (next : υ → Chore υ α)
  /-- Waits for something else. -/
  | consult (question : Json) (next : Except Fault Json → Chore υ α)
  /-- Puts a bus in place, or none. -/
  | setBus (bus : Option BusRef) (next : Chore υ α)
  /-- Asks for the bus in place. -/
  | getBus (next : Except Fault BusRef → Chore υ α)
  /-- Asks for the registry in place. -/
  | getRegistry (next : Except Fault RegistryRef → Chore υ α)
  /-- Forgets the registry in place. -/
  | dropRegistry (next : Chore υ α)
  /-- Shuts the data layer down. -/
  | shutdown (next : Except Fault Unit → Chore υ α)
  /-- Queues a message on the session that is bound for the registry in place. -/
  | queue (channel : Text) (message : Option Json) (next : Except Fault Unit → Chore υ α)
  /-- Looks at the state of a session. -/
  | look (ref : SessionRef) (next : SessionState → Chore υ α)
  | call (ref : SessionRef) (call : SessionCall)
      (next : Except Fault (Option Connection) → Chore υ α)
  | savepoint (ref : SessionRef) (body : Chore υ α) (next : Except Fault α → Chore υ α)
  | inScope (commit : Bool) (work : SessionRef → Chore υ α) (next : Except Fault α → Chore υ α)
  | serialized (limit rate : Number) (work : SessionRef → Chore υ α)
      (next : Except Fault α → Chore υ α)

section

variable {υ α : Type}

/-- The program of a chore. -/
def Chore.play (T : Scene υ) : Chore υ α → Scoped Calls (Office υ) α
  | done outcome, _ => .ofExcept outcome
  | act update next, scope =>
    .act (fun o => { o with own := update o.own }) fun o => (next o.own).play T scope
  | consult question next, scope =>
    (Scene.asking (.consult question)).andThen fun r => (next r).play T scope
  | setBus bus next, scope =>
    Scene.noting (.busSet bus) (T.layer.setMessageBus bus) >>= fun _ => next.play T scope
  | getBus next, scope => T.layer.messageBus.andThen fun r => (next r).play T scope
  | getRegistry next, scope => T.layer.sessionRegistry.andThen fun r => (next r).play T scope
  | dropRegistry next, scope =>
    Scene.noting .dropped (T.layer.setSessionRegistry none) >>= fun _ => next.play T scope
  | shutdown next, scope =>
    (Scene.noting .dropped T.layer.shutdown).andThen fun r => (next r).play T scope
  | queue channel message next, scope =>
    (T.layer.queueMessage channel message scope).andThen fun r => (next r).play T scope
  | look ref next, scope =>
    Scene.reaching ref (T.session ref).state.load >>= fun x => (next x).play T scope
  | call ref c next, scope =>
    (Scene.reaching ref (c.perform (T.session ref))).andThen fun r => (next r).play T scope
  | savepoint ref body next, scope =>
    (Scene.reaching ref ((T.session ref).savepoint (body.play T scope))).andThen fun r =>
      (next r).play T scope
  | inScope commit work next, scope =>
    (Scene.starting fun o => T.layer.runScoped commit
      (fun ref => T.within o ref ((work ref).play T)) scope).andThen fun r => (next r).play T scope
  | serialized limit rate work next, scope =>
    (Scene.starting fun o => T.layer.runSerialized (Scene.retry limit rate)
      (fun ref => T.within o ref ((work ref).play T)) scope).andThen fun r => (next r).play T scope

/-- The office that a chore leaves, if the process starts with it. -/
def Chore.leaves (T : Scene υ) (chore : Chore υ α) (own : υ) (platform : Platform) : Office υ :=
  ((chore.play T []).run T.serve { own, platform }).2

end

end UnitOfWork.InPlace
