import UnitOfWork.Platform
import UnitOfWork.Pool.Basic

/-!
# The store's client

A client is a pool of connections to the store with a guard over it. A process keeps one, made from
the configuration in force when it is first needed and closed at the end.
-/

namespace UnitOfWork

/-- A client, by its place among the clients that were made. -/
abbrev ClientRef := Nat

/-- The clients that were made, each with its guard, and the one in use. -/
structure Clients where
  guards : List PoolGuard := []
  current : Option ClientRef := none

/-- What a client is made from. The guard checks the size of the pool; the other settings of the
pool are handed on as they are. -/
structure ClientConfig where
  databaseUrl : Option Json
  poolSize : Option Json
  connectTimeoutSeconds : Option Json
  queueTimeoutMs : Number

/-- The part of a configuration that a client is made from. -/
def ClientConfig.ofConfig (c : Config) : ClientConfig :=
  ⟨some (.str c.databaseUrl), some (.num c.poolSize), some (.num c.connectTimeoutSeconds),
    c.queueTimeoutMs⟩

/-- How a pool of connections is opened. It is for the store to make sense of the settings. -/
structure ConnectOptions where
  url : Option Json
  max : Option Json
  idleTimeout : Nat
  maxLifetime : Option Nat
  connectTimeout : Option Json

/-- A store over a state `σ`: the process, the clients' place in the state, and what opening a pool,
probing one, reading rows and ending one do. -/
structure Database (S : Signature) (σ : Type) where
  platform : Cell σ Platform
  journal : Journal σ
  clients : Cell σ Clients
  pool : ClientRef → Pool S σ
  connect : ConnectOptions → Program S σ Unit
  probe : Text → Program S σ Unit
  rows : Text → Program S σ (List Json)
  finish : Json → Program S σ Unit

namespace Database

variable {S : Signature} {σ : Type}

/-- The configuration in force. -/
def config (db : Database S σ) : Program S σ Config := do
  .ofExcept (← db.platform.step Platform.config)

/-- How the pool of a client is opened. -/
def poolOptions (c : ClientConfig) : ConnectOptions :=
  ⟨c.databaseUrl, c.poolSize, 20, some 300, c.connectTimeoutSeconds⟩

/-- Makes a client. -/
def createClient (db : Database S σ) (c : ClientConfig) : Program S σ ClientRef := do
  db.connect (poolOptions c)
  let guard ← .ofExcept (PoolGuard.make c.poolSize c.queueTimeoutMs)
  db.clients.step fun cs => (cs.guards.length, { cs with guards := cs.guards ++ [guard] })

/-- The client in use, made if there is none. -/
def client (db : Database S σ) : Program S σ ClientRef := do
  match (← db.clients.load).current with
  | some ref => return ref
  | none =>
    let ref ← db.createClient (ClientConfig.ofConfig (← db.config))
    db.clients.modify fun cs => { cs with current := some ref }
    return ref

/-- Seconds that a client gets to end its connections. -/
def closeTimeout : Json := .ofNat 5

/-- Closes the client in use, if there is one. -/
def closeClient (db : Database S σ) : Program S σ Unit := do
  match (← db.clients.load).current with
  | none => pure ()
  | some _ =>
    db.clients.modify fun cs => { cs with current := none }
    db.finish closeTimeout

/-- The warning that a notice from the store is logged as. -/
def noticeText (severity message : Option Json) : Except Fault Text := do
  return "[pg-notice] " ++ (← Fault.quoted severity) ++ ": " ++ (← Fault.quoted message)

/-- Logs a notice from the store. -/
def notice (db : Database S σ) (severity message : Option Json) : Program S σ Unit := do
  db.journal.write .warn (← .ofExcept (noticeText severity message)) []

end Database

end UnitOfWork
