import Mathlib.Data.List.DropRight
import UnitOfWork.Bus.Memory
import UnitOfWork.Proofs.Bus.Arrival
import UnitOfWork.Proofs.Trial.Basic

/-!
# A hall

In a hall the handlers of a bus in memory use the bus themselves. While a message is delivered to
one of them, that handler may publish, subscribe, end subscriptions, clear the bus and look at what
was published, and it may throw; what it publishes is delivered before it goes on. How deep calls
are nested is up to the handlers, so the hall carries out calls down to a given depth and notes
where it cut one short. All that happens is noted in one list.
-/

namespace UnitOfWork.Reentrant

/-- What a handler does when it is called, step by step. What the handlers themselves keep is a
`υ`. -/
inductive Conduct (H υ : Type) where
  | done
  /-- Throws a fault that can be told, as every error can. -/
  | throws (f : Fault) (sayable : f.Sayable)
  /-- Changes what the handlers keep, and goes on with what they keep then. -/
  | keep (update : υ → υ) (next : υ → Conduct H υ)
  | publish (message : Message) (next : Conduct H υ)
  | subscribe (r : Registration H) (next : Subscription H → Conduct H υ)
  /-- Ends a subscription, if it was made. -/
  | unsubscribe (sub : Subscription H) (next : Conduct H υ)
  | clear (next : Conduct H υ)
  /-- Looks at what was published. -/
  | look (next : List Message → Conduct H υ)

/-- What happens in a hall. -/
inductive Note (H : Type) where
  /-- A publication starts, with what is registered at that moment and when that came. -/
  | started (message : Message) (held : Subscriptions H) (arrivals : Arrivals H)
  | settled (message : Message) (outcome : Except Fault Unit)
  | entered (handler : H) (body : Text)
  | left (handler : H)
  | subscribed (sub : Subscription H)
  | unsubscribed (sub : Subscription H)
  | cleared
  | looked (seen : List Message)
  /-- A call is not carried out, since calls are nested too deep. -/
  | cutShort

/-- The message of a publication that starts. -/
def Note.message? {H : Type} : Note H → Option Message
  | started message _ _ => some message
  | _ => none

/-- The bus is cleared. -/
def Note.isClear {H : Type} : Note H → Bool
  | cleared => true
  | _ => false

/-- The messages of the publications that were started since the bus was cleared, or ever if it was
not. -/
def sinceClear {H : Type} (notes : List (Note H)) : List Message :=
  (notes.rtakeWhile fun n => !n.isClear).filterMap Note.message?

/-- A hall: a bus in memory, what its handlers keep, and what happened so far. -/
structure Hall (H υ : Type) where
  log : Log := {}
  subscriptions : Subscriptions H := {}
  /-- The subscriptions that were made. -/
  issued : List (Subscription H) := []
  /-- When came what is registered. -/
  arrivals : Arrivals H := {}
  own : υ
  notes : List (Note H) := []

namespace Hall

variable {H υ : Type}

/-- Adds to what happened. -/
def note (n : Note H) (hall : Hall H υ) : Hall H υ :=
  { hall with notes := hall.notes ++ [n] }

def keep (update : υ → υ) (hall : Hall H υ) : Hall H υ :=
  { hall with own := update hall.own }

/-- Notes that a publication starts. -/
def start (message : Message) (hall : Hall H υ) : Hall H υ :=
  hall.note (.started message hall.subscriptions hall.arrivals)

/-- Records a message as published, once its publication has started. -/
def record (message : Message) (hall : Hall H υ) : Hall H υ :=
  { hall.start message with subscriptions := hall.subscriptions.record message }

def clear (hall : Hall H υ) : Hall H υ :=
  { hall with subscriptions := hall.subscriptions.clear }.note .cleared

def look (hall : Hall H υ) : Hall H υ :=
  hall.note (.looked hall.subscriptions.published)

variable [DecidableEq H]

/-- The subscription that a handler would get for subscribing now. -/
def subscription (r : Registration H) (hall : Hall H υ) : Subscription H :=
  (hall.subscriptions.subscribe r.interest r.key r.handler).1

def subscribe (r : Registration H) (hall : Hall H υ) : Hall H υ :=
  { hall with
    subscriptions := (hall.subscriptions.subscribe r.interest r.key r.handler).2
    issued := hall.subscription r :: hall.issued
    arrivals := hall.arrivals.note hall.subscriptions r }.note (.subscribed (hall.subscription r))

def unsubscribe (sub : Subscription H) (hall : Hall H υ) : Hall H υ :=
  if sub ∈ hall.issued then
    { hall with subscriptions := hall.subscriptions.unsubscribe sub }.note (.unsubscribed sub)
  else hall

end Hall

/-- In a hall nothing is asked of the surroundings. -/
abbrev Requests : Signature :=
  ⟨Empty, nofun⟩

/-- There is nothing to answer. -/
def nobody {σ : Type} : Server Requests σ :=
  nofun

/-- What each handler does when it is called with a text, and what the clock shows. -/
structure Company (H υ : Type) where
  conduct : H → Text → Conduct H υ
  clock : List (Note H) → Time
  /-- A clock shows moments that have a date. -/
  dated : ∀ notes, (clock notes).hasDate = true

namespace Company

variable {H υ : Type} (c : Company H υ) (call : H → Text → Program Requests (Hall H υ) Unit)

/-- The bus of a hall, given what calling a handler does. -/
def bus : MemoryBus Requests (Hall H υ) H where
  journal := ⟨⟨Hall.log, fun log hall => { hall with log }⟩, fun hall => c.clock hall.notes⟩
  subscriptions := ⟨Hall.subscriptions, fun subscriptions hall => { hall with subscriptions }⟩
  call := call

/-- Publishes a message, noting when that starts and how it settles. -/
def publishing (message : Message) : Program Requests (Hall H υ) Unit := do
  .change (Hall.start message)
  let outcome ← ((c.bus call).publish message).attempt
  .change (Hall.note (.settled message outcome))
  .ofExcept outcome

/-- Calls a handler that does what is given, noting when that starts and ends. -/
def visiting (handler : H) (body : Text) (work : Program Requests (Hall H υ) Unit) :
    Program Requests (Hall H υ) Unit := do
  .change (Hall.note (.entered handler body))
  work.ensure (.change (Hall.note (.left handler)))

variable [DecidableEq H]

/-- Does what a handler does. -/
def play : Conduct H υ → Program Requests (Hall H υ) Unit
  | .done => pure ()
  | .throws f _ => .fail f
  | .keep update next => .act (Hall.keep update) fun hall => play (next (update hall.own))
  | .publish message next => do
    c.publishing call message
    play next
  | .subscribe r next => .act (Hall.subscribe r) fun hall => play (next (hall.subscription r))
  | .unsubscribe sub next => .act (Hall.unsubscribe sub) fun _ => play next
  | .clear next => .act Hall.clear fun _ => play next
  | .look next => .act Hall.look fun hall => play (next hall.subscriptions.published)

/-- Calls a handler. Calls within calls are carried out down to a depth. -/
def calling : Nat → H → Text → Program Requests (Hall H υ) Unit
  | 0, handler, body => visiting handler body (.change (Hall.note .cutShort))
  | depth + 1, handler, body => visiting handler body (c.play (calling depth) (c.conduct handler body))

/-- The hall after a history. -/
def after (depth : Nat) (history : Conduct H υ) (own : υ) : Hall H υ :=
  ((c.play (c.calling depth) history).run nobody { own }).2

/-- Publishes a message in a hall. -/
def publish (depth : Nat) (message : Message) (hall : Hall H υ) : Except Fault Unit × Hall H υ :=
  (c.publishing (c.calling depth) message).run nobody hall

end Company

end UnitOfWork.Reentrant
