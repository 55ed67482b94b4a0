import UnitOfWork.Text.Basic

/-!
# The outbox

Messages wait here, in the order in which they were queued, for the commit of the transaction that
queued them.
-/

namespace UnitOfWork

/-- A message for a channel. -/
structure Message where
  channel : Text
  body : Text
  deriving DecidableEq

/-- The messages that wait, in queueing order. -/
structure Outbox where
  entries : List Message := []
  deriving DecidableEq

namespace Outbox

/-- Puts a message behind the ones that wait. -/
def queue (message : Message) (o : Outbox) : Outbox :=
  ⟨o.entries ++ [message]⟩

/-- Drops every message that waits. -/
def reset (_ : Outbox) : Outbox :=
  ⟨[]⟩

/-- How many messages wait. -/
def size (o : Outbox) : Nat :=
  o.entries.length

@[simp]
theorem entries_queue (message : Message) (o : Outbox) :
    (o.queue message).entries = o.entries ++ [message] :=
  rfl

@[simp]
theorem entries_reset (o : Outbox) : o.reset.entries = [] :=
  rfl

end Outbox

end UnitOfWork
