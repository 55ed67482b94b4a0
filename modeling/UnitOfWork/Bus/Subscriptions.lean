import UnitOfWork.Outbox

/-!
# Subscriptions

The subscriptions of a bus inside one process. Handlers subscribe to one channel or to a pattern; a
key keeps its handlers in a set, in the order in which they came. A set outlives its key: a
subscription remembers the set that it joined, and ending one leaves that set and drops its key once
the set is empty, whatever set stands under the key by then.
-/

namespace UnitOfWork

/-- A set of handlers, by its place among the sets that were made. -/
abbrev SetRef := Nat

/-- What a subscription is for. -/
inductive Interest where
  /-- One channel. -/
  | channel
  /-- The channels that match a pattern. -/
  | pattern
  deriving DecidableEq

/-- What ending a subscription needs to know. -/
structure Subscription (H : Type) where
  interest : Interest
  key : Text
  set : SetRef
  handler : H
  deriving DecidableEq

/-- The keys of one kind of interest with their sets, in the order in which the keys came. -/
abbrev KeyTable := List (Text × SetRef)

namespace KeyTable

/-- The set under a key. -/
def get? (key : Text) (table : KeyTable) : Option SetRef :=
  (table.find? (·.1 = key)).map (·.2)

/-- The table without a key. -/
def erase (key : Text) (table : KeyTable) : KeyTable :=
  table.filter (·.1 ≠ key)

end KeyTable

/-- The subscriptions to a bus and the messages published on it. -/
structure Subscriptions (H : Type) where
  sets : List (List H) := []
  channels : KeyTable := []
  patterns : KeyTable := []
  published : List Message := []
  deriving DecidableEq

namespace Subscriptions

variable {H : Type}

/-- The keys of an interest. -/
def table (interest : Interest) (s : Subscriptions H) : KeyTable :=
  match interest with
  | .channel => s.channels
  | .pattern => s.patterns

/-- Changes the keys of an interest. -/
def mapTable (interest : Interest) (f : KeyTable → KeyTable) (s : Subscriptions H) : Subscriptions H :=
  match interest with
  | .channel => { s with channels := f s.channels }
  | .pattern => { s with patterns := f s.patterns }

/-- The handlers in a set. -/
def handlers (set : SetRef) (s : Subscriptions H) : List H :=
  s.sets.getD set []

/-- What a pattern ends in that stands for any rest. -/
def wildcard : Text := ".*"

/-- A channel that matches a pattern: one that goes on after the pattern's point, if the pattern
ends in a wildcard, and the pattern itself otherwise. -/
def isMatch (pattern channel : Text) : Bool :=
  if pattern.endsWith wildcard then channel.startsWith (pattern.take (pattern.length - 1))
  else pattern = channel

/-- The handlers that a message on a channel is for: those of the channel, then those of each
matching pattern. -/
def recipients (channel : Text) (s : Subscriptions H) : List H :=
  (match s.channels.get? channel with
    | some set => s.handlers set
    | none => [])
  ++ (s.patterns.filter fun (pattern, _) => isMatch pattern channel).flatMap fun (_, set) =>
    s.handlers set

/-- Records a message as published. -/
def record (message : Message) (s : Subscriptions H) : Subscriptions H :=
  { s with published := s.published ++ [message] }

/-- Forgets the messages published so far. -/
def clear (s : Subscriptions H) : Subscriptions H :=
  { s with published := [] }

variable [DecidableEq H]

/-- A set with one handler more; a handler that is there stays where it is. -/
def insert (h : H) (set : List H) : List H :=
  if h ∈ set then set else set ++ [h]

/-- Subscribes a handler under a key. -/
def subscribe (interest : Interest) (key : Text) (h : H) (s : Subscriptions H) :
    Subscription H × Subscriptions H :=
  match (s.table interest).get? key with
  | some set => (⟨interest, key, set, h⟩, { s with sets := s.sets.modify set (insert h) })
  | none =>
    let set := s.sets.length
    (⟨interest, key, set, h⟩,
      { s with sets := s.sets ++ [[h]] }.mapTable interest (· ++ [(key, set)]))

/-- Ends a subscription. -/
def unsubscribe (sub : Subscription H) (s : Subscriptions H) : Subscriptions H :=
  let s := { s with sets := s.sets.modify sub.set (·.erase sub.handler) }
  if (s.handlers sub.set).isEmpty then s.mapTable sub.interest (KeyTable.erase sub.key) else s

end Subscriptions

end UnitOfWork
