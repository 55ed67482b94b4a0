import UnitOfWork.Outbox
import UnitOfWork.Text.Upper

/-!
# The state of a session

A session carries one transaction at a time over at most one borrowed connection. These are the
parts of its state and the statements that it executes.
-/

namespace UnitOfWork

/-- Where the transaction that a session carries stands. -/
inductive TransactionState where
  /-- None has begun. -/
  | inactive
  /-- It has begun and not ended. -/
  | active
  /-- It was committed, or there was nothing to commit. -/
  | committed
  /-- It was rolled back, or its commit failed. -/
  | rolledBack
  deriving DecidableEq

/-- The name of a transaction state. -/
def TransactionState.name : TransactionState → Text
  | inactive => "inactive"
  | active => "active"
  | committed => "committed"
  | rolledBack => "rolled_back"

/-- How far a transaction is kept apart from others: a level by its name. Which names are levels is
left to the database that is asked for one. -/
structure Isolation where
  name : Text
  deriving DecidableEq

namespace Isolation

/-- A transaction sees what was committed before each of its statements. -/
def readCommitted : Isolation := ⟨"read committed"⟩

/-- A transaction sees what was committed before it began. -/
def repeatableRead : Isolation := ⟨"repeatable read"⟩

/-- Transactions have the effect of some order in which they run one after another. -/
def serializable : Isolation := ⟨"serializable"⟩

end Isolation

/-- A borrowed connection, numbered in the order in which connections were borrowed. -/
structure Connection where
  number : Nat
  deriving DecidableEq

/-- A statement that is executed on a connection. -/
inductive Statement where
  | begin (level : Isolation)
  | commit
  | rollback
  | savepoint (n : Nat)
  | releaseSavepoint (n : Nat)
  | rollbackTo (n : Nat)
  /-- A statement of the work itself. -/
  | other (text : Text)
  deriving DecidableEq

/-- The name of a session's `n`-th savepoint. -/
def savepointName (n : Nat) : Text :=
  "sp_" ++ Text.ofNat n

/-- The text of a statement. -/
def Statement.text : Statement → Text
  | begin level => "BEGIN ISOLATION LEVEL " ++ Text.upper level.name
  | commit => "COMMIT"
  | rollback => "ROLLBACK"
  | savepoint n => "SAVEPOINT " ++ savepointName n
  | releaseSavepoint n => "RELEASE SAVEPOINT " ++ savepointName n
  | rollbackTo n => "ROLLBACK TO SAVEPOINT " ++ savepointName n
  | other text => text

/-- The state of a session. -/
structure SessionState where
  transaction : TransactionState := .inactive
  isolation : Isolation := .readCommitted
  connection : Option Connection := none
  closed : Bool := false
  savepoints : Nat := 0
  outbox : Outbox := {}
  deriving DecidableEq

namespace SessionState

/-- The isolation level of a session unless it is changed. -/
def defaultIsolation : Isolation := .readCommitted

/-- The connection on which a transaction is active. -/
def activeConnection? (s : SessionState) : Option Connection :=
  if s.transaction = .active then s.connection else none

/-- The state with the transaction at another stage. -/
def withTransaction (t : TransactionState) (s : SessionState) : SessionState :=
  { s with transaction := t }

/-- The state with an empty outbox. -/
def dropMessages (s : SessionState) : SessionState :=
  { s with outbox := s.outbox.reset }

/-- The state with a connection, or with none. -/
def withConnection (c : Option Connection) (s : SessionState) : SessionState :=
  { s with connection := c }

/-- The state with one savepoint more. -/
def countSavepoint (s : SessionState) : SessionState :=
  { s with savepoints := s.savepoints + 1 }

/-- The state once a session is closed: no transaction, no messages, the default isolation level. -/
def shut (s : SessionState) : SessionState :=
  { s with
    closed := true, transaction := .inactive, isolation := defaultIsolation, outbox := s.outbox.reset }

end SessionState

end UnitOfWork
