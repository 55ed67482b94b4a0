import UnitOfWork.Journal
import UnitOfWork.Session.State

/-!
# Sessions

A session is a unit of work bound to one transaction at a time. The transaction begins with the
first use of the connection. Beginning one, rolling one back, wholly or to a savepoint, and closing
the session empty the outbox; a successful commit gives the connection back and then hands the
outbox to the publisher.

Each operation here is a program over whatever state the session lives in. What it needs is in the
fields of `Session`: the place of its own state, the journal, and how to borrow a connection,
execute a statement, give a connection back and hand messages over.
-/

namespace UnitOfWork

/-- A session over a state `σ`. -/
structure Session (S : Signature) (σ : Type) where
  id : Text
  state : Cell σ SessionState
  journal : Journal σ
  reserve : Program S σ Connection
  execute : Connection → Statement → Program S σ Unit
  release : Connection → Program S σ Unit
  handOver : List Message → Program S σ Unit

namespace Session

variable {S : Signature} {σ α : Type}

/-! ## Faults and entries -/

/-- The fault of using a closed session. -/
def closedFault (s : Session S σ) : Fault :=
  .sessionState ("Session " ++ s.id ++ " is closed")

/-- The fault of changing the isolation level under a transaction. -/
def isolationFault (level : Isolation) : Fault :=
  .sessionState ("Cannot change isolation level to " ++ level.name ++ " while a transaction is active")

/-- The fault of a message that has no written form. -/
def messageFault (channel : Text) : Fault :=
  .named "TypeError" ("Message for channel " ++ channel ++ " is not serializable")

/-- The fault of executing a statement after the connection was given back. -/
def detachedFault : Fault :=
  .named "TypeError" "Cannot read properties of null (reading 'execute')"

/-- The member that names the session in a log entry. -/
def mark (s : Session S σ) : Json.Members :=
  Journal.field "sessionId" s.id

/-- Fails if the session is closed. -/
def assertOpen (s : Session S σ) : Program S σ Unit := do
  if (← s.state.load).closed then .fail s.closedFault

/-! ## Connection and transaction -/

/-- Sets the isolation level of the next transaction. -/
def setIsolation (s : Session S σ) (level : Isolation) : Program S σ Unit := do
  s.assertOpen
  if (← s.state.load).transaction = .active then .fail (isolationFault level)
  s.state.modify fun d => { d with isolation := level }

/-- Begins a transaction on a connection. -/
def begin (s : Session S σ) (c : Connection) : Program S σ Unit := do
  let level := (← s.state.load).isolation
  s.execute c (.begin level)
  s.state.modify fun d => (d.withTransaction .active).dropMessages
  s.journal.write .debug "Transaction began"
    (s.mark ++ Journal.field "isolationLevel" (← s.state.load).isolation.name)

/-- The connection of a session, borrowed if there is none. -/
def attach (s : Session S σ) : Program S σ Connection := do
  match (← s.state.load).connection with
  | some c => pure c
  | none =>
    let c ← s.reserve
    s.state.modify (·.withConnection (some c))
    pure c

/-- The connection of a session inside a transaction, which begins if none is active. There is none
if another operation gave it back while the transaction began. -/
def connection (s : Session S σ) : Program S σ (Option Connection) := do
  s.assertOpen
  let c ← s.attach
  if (← s.state.load).transaction ≠ .active then s.begin c
  return (← s.state.load).connection

/-- The connection of a session, which a statement is about to be executed on. -/
def connectionForUse (s : Session S σ) : Program S σ Connection := do
  match ← s.connection with
  | some c => pure c
  | none => .fail detachedFault

/-- Executes a statement of the work inside the session's transaction. -/
def query (s : Session S σ) (text : Text) : Program S σ Unit := do
  s.execute (← s.connectionForUse) (.other text)

/-- Gives the connection back, if there is one. A failure is logged and no more. -/
def releaseConnection (s : Session S σ) : Program S σ Unit := do
  match (← s.state.load).connection with
  | none => pure ()
  | some c =>
    s.state.modify (·.withConnection none)
    (s.release c).rescue fun f =>
      s.journal.writeFault .error "Releasing session connection failed" s.mark f

/-! ## Messages -/

/-- The body of a message: a text as it is, any other value as it is written. -/
def body? : Option Json → Option Text
  | none => none
  | some (.str t) => some t
  | some v => some v.print

/-- Queues a message for the commit of the current transaction. -/
def queueMessage (s : Session S σ) (channel : Text) (message : Option Json) : Program S σ Unit := do
  s.assertOpen
  match body? message with
  | none => .fail (messageFault channel)
  | some body =>
    s.journal.write .debug ("Enqueueing message to " ++ channel)
      (s.mark ++ Journal.field "channel" channel ++ Journal.field "payload" body)
    s.state.modify fun d => { d with outbox := d.outbox.queue ⟨channel, body⟩ }

/-! ## Savepoints -/

/-- What follows a failed savepoint body: the outbox is emptied and the transaction rolled back to
the savepoint; a failure of that is logged and the body's fault stays the outcome. -/
def undoSavepoint (s : Session S σ) (c : Connection) (n : Nat) (f : Fault) : Program S σ α := do
  let fields := s.mark ++ Journal.field "savepoint" (savepointName n)
  s.journal.writeFault .error "Exception inside savepoint, rolling back to it" fields f
  s.state.modify SessionState.dropMessages
  (s.execute c (.rollbackTo n)).rescue fun g =>
    s.journal.writeFault .error "Rollback to savepoint failed" fields g
  .fail f

/-- Runs work inside a savepoint. If it fails, what it did is undone and so is everything queued so
far, while the transaction stays open. -/
def savepoint (s : Session S σ) (work : Program S σ α) : Program S σ α := do
  let attached ← s.connection
  s.state.modify SessionState.countSavepoint
  let n := (← s.state.load).savepoints
  match attached with
  | none => .fail detachedFault
  | some c =>
    s.execute c (.savepoint n)
    let result ← work.rescue (s.undoSavepoint c n)
    s.execute c (.releaseSavepoint n)
    return result

/-! ## Ending a transaction -/

/-- Commits on a connection and gives it back. A failed commit has ended the transaction too. -/
def commitOn (s : Session S σ) (c : Connection) : Program S σ Unit := do
  (s.execute c .commit).rescue fun f => do
    s.state.modify fun d => (d.withTransaction .rolledBack).dropMessages
    .fail f
  s.state.modify (·.withTransaction .committed)
  s.releaseConnection

/-- Commits the transaction, if one is active, and hands the messages over that wait. The connection
is given back before, since the bus may draw on the same pool. -/
def commit (s : Session S σ) : Program S σ Unit := do
  s.assertOpen
  match (← s.state.load).activeConnection? with
  | some c => s.commitOn c
  | none => pure ()
  s.state.modify (·.withTransaction .committed)
  let messages := (← s.state.load).outbox.entries
  s.state.modify SessionState.dropMessages
  if !messages.isEmpty then s.handOver messages

/-- Drops the messages that wait and rolls the transaction back, if one is active. -/
def rollback (s : Session S σ) : Program S σ Unit := do
  s.assertOpen
  s.state.modify SessionState.dropMessages
  match (← s.state.load).activeConnection? with
  | some c => (s.execute c .rollback).ensure (s.state.modify (·.withTransaction .rolledBack))
  | none => pure ()

/-- Discards an open transaction and gives the connection back. Closing again does nothing; failures
of the statement and of giving back are logged and no more. -/
def close (s : Session S σ) : Program S σ Unit := do
  let d ← s.state.load
  if !d.closed then
    s.state.modify SessionState.shut
    match d.connection with
    | none => pure ()
    | some c =>
      let undo : Program S σ Unit :=
        if d.transaction = .active then
          (s.execute c .rollback).rescue fun f =>
            s.journal.writeFault .error "Rollback while closing session failed" s.mark f
        else pure ()
      undo.ensure s.releaseConnection

end Session

end UnitOfWork
