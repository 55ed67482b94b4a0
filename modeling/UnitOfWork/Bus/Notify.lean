import UnitOfWork.Outbox
import UnitOfWork.Pool.Basic

/-!
# The notification bus

Publishing over the store's notifications. A notification is sent on a pooled connection outside any
session, so it holds a slot of the guard, if there is one, while it is sent.
-/

namespace UnitOfWork

/-- A listener: its channel, and its place among the listeners. -/
structure Listening where
  channel : Text
  ref : Nat
  deriving DecidableEq

/-- A notification bus: the guard it borrows slots from, and how notifications are sent and listened
for. -/
structure NotifyBus (S : Signature) (σ : Type) where
  journal : Journal σ
  pool : Option (Pool S σ)
  notify : Message → Program S σ Unit
  listen : (channel subscriber : Text) → Program S σ Listening
  unlisten : Listening → Program S σ Unit

namespace NotifyBus

variable {S : Signature} {σ : Type}

/-- The name of a publication as an operation that holds a slot. -/
def operationName (message : Message) : Text :=
  "bus.publish:" ++ message.channel

/-- Publishes a message. -/
def publish (bus : NotifyBus S σ) (message : Message) : Program S σ Unit :=
  match bus.pool with
  | some pool => pool.run (operationName message) (bus.notify message)
  | none => bus.notify message

/-- Subscribes to a channel and answers with the listener. All listeners share one connection of
their own, so no slot is held. -/
def subscribe (bus : NotifyBus S σ) (channel subscriber : Text) : Program S σ Listening := do
  let listener ← bus.listen channel subscriber
  bus.journal.write .debug ("Listening on " ++ channel) (Journal.field "channel" channel)
  return listener

end NotifyBus

end UnitOfWork
