import UnitOfWork.Database.Client
import UnitOfWork.Session.Serialized

/-!
# The data layer

A process has one bus and one registry. Each is made over the store's client when it is first
needed, unless one was set before; a registry publishes on the bus that was in place when it was
made. Scopes, serialized transactions and messages that name no registry go to the one in place.
Shutting down forgets both and closes the client.
-/

namespace UnitOfWork

/-- A bus. -/
inductive BusRef where
  /-- The store's notifications over a client. -/
  | notifications (client : ClientRef)
  /-- A bus that was set, by its place among those. -/
  | given (n : Nat)
  deriving DecidableEq

/-- Where the sessions of a registry borrow their connections. -/
inductive SourceRef where
  /-- A client's pool. -/
  | pooled (client : ClientRef)
  /-- A source that was set, by its place among those. -/
  | given (n : Nat)
  deriving DecidableEq

/-- What a registry was made of: a source of connections and a bus for committed messages. -/
structure RegistryParts where
  source : SourceRef
  bus : BusRef
  deriving DecidableEq

/-- The bus and the registry in place, and the parts of every registry that was made. -/
structure DataLayerState where
  bus : Option BusRef := none
  registry : Option RegistryRef := none
  registries : List RegistryParts := []
  deriving DecidableEq

namespace DataLayerState

/-- Records a registry that is made of parts. -/
def addRegistry (parts : RegistryParts) (d : DataLayerState) : RegistryRef × DataLayerState :=
  (d.registries.length, { d with registries := d.registries ++ [parts] })

/-- Puts a bus in place, or none. -/
def setBus (bus : Option BusRef) (d : DataLayerState) : DataLayerState :=
  { d with bus }

/-- Puts a registry in place, or none. -/
def setRegistry (registry : Option RegistryRef) (d : DataLayerState) : DataLayerState :=
  { d with registry }

end DataLayerState

/-- A data layer over a state `σ`, with the registries that were made. -/
structure DataLayer (S : Signature) (σ : Type) where
  database : Database S σ
  state : Cell σ DataLayerState
  registry : RegistryRef → Registry S σ

namespace DataLayer

variable {S : Signature} {σ α : Type}

/-- The bus in place, made over the client's notifications if there is none. -/
def messageBus (d : DataLayer S σ) : Program S σ BusRef := do
  match (← d.state.load).bus with
  | some bus => return bus
  | none =>
    let bus := BusRef.notifications (← d.database.client)
    d.state.modify (DataLayerState.setBus (some bus))
    return bus

/-- The registry in place, made over the client and the bus if there is none. -/
def sessionRegistry (d : DataLayer S σ) : Program S σ RegistryRef := do
  match (← d.state.load).registry with
  | some registry => return registry
  | none =>
    let source := SourceRef.pooled (← d.database.client)
    let bus ← d.messageBus
    let registry ← d.state.step (DataLayerState.addRegistry ⟨source, bus⟩)
    d.state.modify (DataLayerState.setRegistry (some registry))
    return registry

/-- Puts a bus in place, or none. A registry that is in place keeps the bus that it was made for. -/
def setMessageBus (d : DataLayer S σ) (bus : Option BusRef) : Program S σ Unit :=
  d.state.modify (DataLayerState.setBus bus)

/-- Puts a registry in place, or none. -/
def setSessionRegistry (d : DataLayer S σ) (registry : Option RegistryRef) : Program S σ Unit :=
  d.state.modify (DataLayerState.setRegistry registry)

/-! ## Using the registry in place -/

/-- Runs work in a session of its own. -/
def runScoped (d : DataLayer S σ) (commit : Bool) (work : SessionRef → Scoped S σ α) : Scoped S σ α :=
  fun scope => do
    (d.registry (← d.sessionRegistry)).runScoped commit work scope

/-- Runs a named worker in a session of its own. -/
def runWorker (d : DataLayer S σ) (commit : Bool) (name : Text) (work : SessionRef → Scoped S σ α) :
    Scoped S σ α :=
  fun scope => do
    (d.registry (← d.sessionRegistry)).runWorker commit name work scope

/-- Runs work in serializable transactions. -/
def runSerialized (d : DataLayer S σ) (retry : Retry S σ) (work : SessionRef → Scoped S σ α) :
    Scoped S σ α :=
  fun scope => do
    (d.registry (← d.sessionRegistry)).runSerialized retry work scope

/-- Queues a message on the session that is bound. -/
def queueMessage (d : DataLayer S σ) (channel : Text) (message : Option Json) : Scoped S σ Unit :=
  fun scope => do
    (d.registry (← d.sessionRegistry)).queueMessage channel message scope

/-! ## Shutting down -/

/-- Forgets bus and registry and closes the client. -/
def shutdown (d : DataLayer S σ) : Program S σ Unit := do
  d.state.modify fun s => (s.setRegistry none).setBus none
  d.database.closeClient
  d.database.journal.write .info "Data layer shut down" []

end DataLayer

end UnitOfWork
