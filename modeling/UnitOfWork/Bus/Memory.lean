import UnitOfWork.Bus.Subscriptions
import UnitOfWork.Journal

/-!
# The bus in memory

A bus inside one process. A message is recorded and then delivered to the handlers that are
subscribed at that moment, one after another; a handler that fails is logged and passed over.
-/

namespace UnitOfWork

/-- A bus in memory: where its subscriptions stand, and what calling a handler does. -/
structure MemoryBus (S : Signature) (σ H : Type) where
  journal : Journal σ
  subscriptions : Cell σ (Subscriptions H)
  call : H → Text → Program S σ Unit

namespace MemoryBus

variable {S : Signature} {σ H : Type}

/-- Calls handlers one after another with a message. -/
def deliver (bus : MemoryBus S σ H) (message : Message) : List H → Program S σ Unit
  | [] => pure ()
  | h :: rest => do
    (bus.call h message.body).rescue fun f =>
      bus.journal.writeFault .error ("Subscriber on " ++ message.channel ++ " failed")
        (Journal.field "channel" message.channel) f
    deliver bus message rest

/-- Publishes a message. -/
def publish (bus : MemoryBus S σ H) (message : Message) : Program S σ Unit := do
  bus.subscriptions.modify (Subscriptions.record message)
  let s ← bus.subscriptions.load
  bus.deliver message (s.recipients message.channel)

end MemoryBus

end UnitOfWork
