import UnitOfWork.Proofs.Trial.Operations

/-!
# Errands

An errand does one thing after another and waits for each to end before the next. It may run scopes
and serialized transactions, one inside another and one after another; it may ask for the session
that is bound around it, queue a message on that session, and use the sessions that it got. What it
does next may depend on everything that it got back, so `Errand` is a tree. `Errand.play` is the
program of an errand on a ground: a registry, and what else an errand works with.
-/

namespace UnitOfWork

open Trial (SessionCall)

variable {S : Signature} {σ υ α : Type}

/-- What an errand does. It keeps a state `υ` for itself and ends with a value of `α` or a fault. -/
inductive Errand (υ α : Type) where
  /-- The errand has ended. -/
  | done (outcome : Except Fault α)
  /-- Changes what the errand keeps for itself, and goes on with that before the change. -/
  | act (update : υ → υ) (next : υ → Errand υ α)
  /-- Waits for something else. -/
  | consult (question : Json) (next : Except Fault Json → Errand υ α)
  /-- Asks the registry for the session that is bound. -/
  | current (next : Except Fault SessionRef → Errand υ α)
  /-- Queues a message through the registry. -/
  | queue (channel : Text) (message : Option Json) (next : Except Fault Unit → Errand υ α)
  | openSession (next : SessionRef → Errand υ α)
  /-- Reads the identifier of a session. -/
  | identify (ref : SessionRef) (next : Text → Errand υ α)
  /-- Looks at the state of a session. -/
  | look (ref : SessionRef) (next : SessionState → Errand υ α)
  /-- Executes a statement on a connection that it got from a session before. -/
  | use (ref : SessionRef) (c : Connection) (text : Text) (next : Except Fault Unit → Errand υ α)
  | call (ref : SessionRef) (call : SessionCall)
      (next : Except Fault (Option Connection) → Errand υ α)
  | savepoint (ref : SessionRef) (body : Errand υ α) (next : Except Fault α → Errand υ α)
  /-- Runs a part of the errand with a session bound. -/
  | bind (ref : SessionRef) (body : Errand υ α) (next : Except Fault α → Errand υ α)
  | inScope (commit : Bool) (work : SessionRef → Errand υ α) (next : Except Fault α → Errand υ α)
  | serialized (limit rate : Number) (work : SessionRef → Errand υ α)
      (next : Except Fault α → Errand υ α)

/-- What is noted of an errand beside what its sessions do. -/
inductive Note (α : Type) where
  /-- What runs with a session bound begins. -/
  | began (ref : SessionRef)
  /-- What runs with a session bound has ended. -/
  | ended (ref : SessionRef)
  /-- A scope or a serialized transaction has ended. -/
  | settled (outcome : Except Fault α)
  /-- The registry has told the session that is bound. -/
  | current (result : Except Fault SessionRef)
  /-- The registry has queued a message. -/
  | queued (channel : Text) (message : Option Json) (result : Except Fault Unit)

/-- What errands work on: a registry, the place of what an errand keeps for itself, the sessions
that it got so far, and what it waits for. -/
structure Ground (S : Signature) (σ υ α : Type) where
  registry : Registry S σ
  own : Cell σ υ
  holds : SessionRef → σ → Bool
  consult : Json → Program S σ Json
  draw : Program S σ Number
  sleep : Number → Program S σ Unit
  note : Note α → σ → σ

namespace Ground

variable (g : Ground S σ υ α)

/-- The fault of using a session that an errand did not get. -/
def unheldFault : Fault :=
  .named "TypeError" "Cannot read properties of undefined"

/-- A program over a session, which the errand must have got. -/
def reaching {β : Type} (ref : SessionRef) (p : Program S σ β) : Program S σ β :=
  .act id fun s => if g.holds ref s then p else .fail unheldFault

/-- Notes something and goes on. -/
def noting {β : Type} (n : Note α) (p : Program S σ β) : Program S σ β :=
  .act (g.note n) fun _ => p

/-- What runs with a session bound, noted when it begins and when it has ended. -/
def within (ref : SessionRef) (body : Scoped S σ α) : Scoped S σ α := fun scope =>
  g.noting (.began ref) ((body scope).andThen fun r => g.noting (.ended ref) (.done r))

/-- How serialized transactions are retried. -/
def retry (limit rate : Number) : Retry S σ :=
  ⟨limit, rate, g.draw, g.sleep⟩

end Ground

/-- The program of an errand. -/
def Errand.play (g : Ground S σ υ α) : Errand υ α → Scoped S σ α
  | done outcome, _ => .ofExcept outcome
  | act update next, scope => .act (g.own.update update) fun s => (next (g.own.get s)).play g scope
  | consult question next, scope => (g.consult question).andThen fun r => (next r).play g scope
  | current next, scope =>
    (g.registry.current scope).andThen fun r => g.noting (.current r) ((next r).play g scope)
  | queue channel message next, scope =>
    (g.registry.queueMessage channel message scope).andThen fun r =>
      g.noting (.queued channel message r) ((next r).play g scope)
  | openSession next, scope => g.registry.create >>= fun ref => (next ref).play g scope
  | identify ref next, scope =>
    g.reaching ref (pure (g.registry.session ref).id) >>= fun id => (next id).play g scope
  | look ref next, scope =>
    g.reaching ref (g.registry.session ref).state.load >>= fun x => (next x).play g scope
  | use ref c text next, scope =>
    (g.reaching ref ((g.registry.session ref).execute c (.other text))).andThen fun r =>
      (next r).play g scope
  | call ref c next, scope =>
    (g.reaching ref (c.perform (g.registry.session ref))).andThen fun r => (next r).play g scope
  | savepoint ref body next, scope =>
    (g.reaching ref ((g.registry.session ref).savepoint (body.play g scope))).andThen fun r =>
      (next r).play g scope
  | bind ref body next, scope =>
    (g.reaching ref (g.registry.bind ref (g.within ref (body.play g)) scope)).andThen fun r =>
      (next r).play g scope
  | inScope commit work next, scope =>
    (g.registry.runScoped commit (fun ref => g.within ref ((work ref).play g)) scope).andThen fun r =>
      g.noting (.settled r) ((next r).play g scope)
  | serialized limit rate work next, scope =>
    (g.registry.runSerialized (g.retry limit rate) (fun ref => g.within ref ((work ref).play g))
      scope).andThen fun r => g.noting (.settled r) ((next r).play g scope)

end UnitOfWork
