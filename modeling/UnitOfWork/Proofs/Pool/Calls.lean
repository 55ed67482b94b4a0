import UnitOfWork.Bus.Notify
import UnitOfWork.Proofs.Pool.Lending

/-!
# Calls on a shared guard

Calls that borrow connections and give them back, that publish, and that run operations of any kind
share one guard. They take turns; in between they wait for a slot, for the client, or for what the
operation waits for, and any of these may fail. `Surroundings.step` is what may happen next: a call
that is ready has its turn, or a pending timer of the guard fires.
-/

namespace UnitOfWork.Lending

/-- What a call answers with. -/
inductive Reply where
  | nothing
  | connection (c : Connection)
  | value (v : Json)

/-- What an operation that holds a slot waits for. -/
inductive Question where
  /-- The client sends a notification. -/
  | notify (message : Message)
  /-- Anything else. -/
  | consult (question : Json)

/-- What calls wait for. -/
inductive Request where
  | slot (t : Ticket)
  /-- Who gives a connection back has got it before. -/
  | handle (c : Connection)
  /-- The client lends a connection. -/
  | lend
  | ask (q : Question)

/-- What a request is answered with. -/
def Request.Answer : Request → Type
  | slot _ | handle _ => Unit
  | lend => Connection
  | ask _ => Json

/-- The requests of calls on a guard. -/
abbrev Requests : Signature :=
  ⟨Request, Request.Answer⟩

/-- An operation: it ends, or it waits for something and goes on with the answer. -/
inductive Job where
  | ends (outcome : Except Fault Reply)
  | asks (q : Question) (next : Except Fault Json → Job)

/-- A call on a guard. -/
inductive Call where
  | reserve
  | release (c : Connection)
  | publish (message : Message)
  | run (name : Text) (job : Job)

/-- What happens to calls and connections. Calls are named by the elements of a type. -/
inductive Event (ι : Type) where
  /-- A call has its turn. -/
  | turned (i : ι)
  /-- A timer of the guard fires. -/
  | fired
  /-- A call learns what became of its wait for a slot. -/
  | woken (i : ι) (result : Except Fault Unit)
  /-- The client is asked for a connection by a call. -/
  | lent (i : ι) (result : Except Fault Connection)
  | answered (i : ι) (q : Question) (result : Except Fault Json)
  /-- The client gets a connection back. -/
  | returned (c : Connection) (result : Except Fault Unit)

section

variable {ι : Type}

/-- The connections that were lent, in order. -/
def lent (history : List (Event ι)) : List Connection :=
  history.filterMap fun
    | .lent _ (.ok c) => some c
    | _ => none

/-- The connections that were given back, in order. -/
def returned (history : List (Event ι)) : List Connection :=
  history.filterMap fun
    | .returned c _ => some c
    | _ => none

/-- The connections that were lent and not given back. -/
def outstanding (history : List (Event ι)) : List Connection :=
  (lent history).filter (· ∉ returned history)

end

/-- What calls run in: what the client and the operations answer, and what the clock shows. All of
it may depend on everything that happened. -/
structure Surroundings (ι : Type) where
  clock : Clock (Event ι)
  /-- What comes of asking the client for a connection. -/
  lends : List (Event ι) → Except Fault Unit
  answers : List (Event ι) → Question → Except Fault Json
  /-- What the client says when it gets a connection back. -/
  takesBack : List (Event ι) → Connection → Except Fault Unit
  listen : (channel subscriber : Text) → Program Requests (Desk (Event ι)) Listening
  unlisten : Listening → Program Requests (Desk (Event ι)) Unit

/-- Surroundings in which nothing fails and time stands still. -/
def Surroundings.obliging {ι : Type} : Surroundings ι where
  clock := .still
  lends _ := .ok ()
  answers _ _ := .ok .null
  takesBack _ _ := .ok ()
  listen channel _ := pure ⟨channel, 0⟩
  unlisten _ := pure ()

/-! ## Programs of calls -/

/-- An operation as a program. -/
def Job.program {σ : Type} : Job → Program Requests σ Reply
  | ends outcome => .done outcome
  | asks q next => .ask (.ask q) fun answer => (next answer).program

/-- Waits for the slot of a ticket. -/
def waitFor {σ : Type} (t : Ticket) : Program Requests σ Unit :=
  .ask (.slot t) .done

namespace Surroundings

variable {ι : Type} (w : Surroundings ι)

/-- Borrowing slots of the guard. -/
def pool : Pool Requests (Desk (Event ι)) :=
  Lending.pool w.clock waitFor

/-- Gives a connection back to the client. -/
def takeBack (c : Connection) : Program Requests (Desk (Event ι)) Unit :=
  .act (fun d => d.note (.returned c (w.takesBack d.history c))) fun d =>
    .done (w.takesBack d.history c)

/-- The connections of the client. -/
def source : PooledSource Requests (Desk (Event ι)) where
  pool := w.pool
  lend := .ask .lend .done
  takeBack := w.takeBack
  released := ⟨Desk.released, fun released d => { d with released := released }⟩

/-- The bus that sends its notifications on connections of the client. -/
def bus : NotifyBus Requests (Desk (Event ι)) where
  journal := journal w.clock
  pool := some w.pool
  notify message := do discard (.ask (.ask (.notify message)) .done)
  listen := w.listen
  unlisten := w.unlisten

/-- A call as a program. -/
def program : Call → Program Requests (Desk (Event ι)) Reply
  | .reserve => do return .connection (← w.source.reserve)
  | .release c => .ask (.handle c) fun _ => do
    w.source.release c
    return .nothing
  | .publish message => do
    w.bus.publish message
    return .nothing
  | .run name job => w.pool.run name job.program

/-! ## Turns -/

/-- Answers the request of a call. -/
def serve (i : ι) : Server Requests (Desk (Event ι))
  | .slot t, d =>
    match d.outcome? t with
    | some result => (result, d.note (.woken i result))
    | none => (.ok (), d)
  | .handle _, d => (.ok (), d)
  | .lend, d =>
    match w.lends d.history with
    | .error f => (.error f, d.note (.lent i (.error f)))
    | .ok () =>
      let c : Connection := ⟨(lent d.history).length + 1⟩
      (.ok c, d.note (.lent i (.ok c)))
  | .ask q, d =>
    let result := w.answers d.history q
    (result, d.note (.answered i q result))

end Surroundings

section

variable {ι : Type}

/-- What is left of a call can go on. -/
def Desk.ready (d : Desk (Event ι)) : Program Requests (Desk (Event ι)) Reply → Bool
  | .ask (.slot t) _ => (d.outcome? t).isSome
  | .ask (.handle c) _ => (lent d.history).contains c
  | _ => true

/-- What is left of a call holds a slot: it waits for the client or for an answer, or it waits for a
slot and has got one. -/
def Desk.holds (d : Desk (Event ι)) : Program Requests (Desk (Event ι)) Reply → Bool
  | .ask (.slot t) _ => d.granted t
  | .ask .lend _ | .ask (.ask _) _ => true
  | _ => false

end

/-- What may happen next. -/
inductive Step (ι : Type) where
  /-- A call has its turn, if it can go on. -/
  | turn (i : ι)
  /-- The pending timer at a place fires, if there is one. -/
  | fire (place : Nat)

/-- Calls under way on one guard. -/
abbrev Traffic (ι : Type) : Type :=
  Crowd Requests (Desk (Event ι)) Reply ι

namespace Surroundings

variable {ι : Type} [DecidableEq ι] (w : Surroundings ι)

/-- Something happens. -/
def step (x : Traffic ι) : Step ι → Traffic ι
  | .turn i =>
    if x.state.ready (x.programs i) then
      Crowd.turn (w.serve i) ⟨x.state.note (.turned i), x.programs⟩ i
    else x
  | .fire place =>
    match x.state.guard.timers[place]? with
    | none => x
    | some timer => { x with state := (w.pool.expire timer.payload (x.state.note .fired)).2 }

/-- One thing happens after another. -/
def play (x : Traffic ι) (steps : List (Step ι)) : Traffic ι :=
  steps.foldl w.step x

/-- Calls on a guard, none of which has begun. -/
def opening (g : PoolGuard) (calls : ι → Call) : Traffic ι :=
  ⟨{ guard := g }, fun i => w.program (calls i)⟩

end Surroundings

end UnitOfWork.Lending
