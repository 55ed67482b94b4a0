import UnitOfWork.Bus.Memory
import UnitOfWork.Mail.Mailer
import UnitOfWork.Proofs.Trial.Basic

/-!
# A bench for what is called

A bench holds what a publisher, a bus in memory and a mailer work on, and what they have called so
far: the bus beyond the publisher, subscribers, and a mail server. `Surroundings` decides from the
calls so far which call throws, and what; unlike in a trial, it may be anything. So what a program
makes of a value that is thrown can be asked for every value.
-/

namespace UnitOfWork

namespace Thrown

variable {H : Type}

/-- What is called. Subscribers are named by the elements of a type. -/
inductive Request (H : Type) where
  | publish (message : Message)
  /-- A pause between two attempts to publish a message. -/
  | pause (ms : Number)
  | handle (subscriber : H) (body : Text)
  /-- Makes a transport to a mail server. -/
  | connect (options : TransportOptions)
  | relay (email : Email)

/-- The requests of a bench. None is answered with a value. -/
abbrev Requests (H : Type) : Signature :=
  ⟨Request H, fun _ => Unit⟩

/-- What programs work on, with the calls that were made. -/
structure Bench (H : Type) where
  log : Log := {}
  deadLetters : List DeadLetter := []
  subscriptions : Subscriptions H := {}
  mailbox : Mailbox := {}
  calls : List (Request H) := []

/-- What a call throws, if it does, what it does to the subscriptions, and what the clock shows. -/
structure Surroundings (H : Type) where
  fault? : List (Request H) → Request H → Option Fault
  react : List (Request H) → Request H → Subscriptions H → Subscriptions H
  clock : List (Request H) → Time
  /-- A clock shows moments that have a date. -/
  dated : ∀ calls, (clock calls).hasDate = true

namespace Surroundings

/-- Surroundings in which every call throws but the pauses. -/
def throwing (f : Fault) : Surroundings H where
  fault? _ request :=
    match request with
    | .pause _ => none
    | _ => some f
  react _ _ subscriptions := subscriptions
  clock _ := .finite 0
  dated _ := by decide

variable (w : Surroundings H)

/-- Makes a call and notes it. -/
def serve : Server (Requests H) (Bench H) := fun request b =>
  (Fault.toResult (w.fault? b.calls request),
    { b with
      calls := b.calls ++ [request]
      subscriptions := w.react b.calls request b.subscriptions })

/-- Makes a call. -/
def calling (request : Request H) : Program (Requests H) (Bench H) Unit :=
  .ask request .done

/-- Where entries are written. -/
def journal : Journal (Bench H) :=
  ⟨⟨Bench.log, fun log b => { b with log }⟩, fun b => w.clock b.calls⟩

/-- A publisher with a limit of attempts. -/
def publisher (limit : Number) : Publisher (Requests H) (Bench H) where
  journal := w.journal
  maxAttempts := limit
  publish message := calling (.publish message)
  sleep ms := calling (.pause ms)
  deadLetters := ⟨Bench.deadLetters, fun letters b => { b with deadLetters := letters }⟩

/-- A bus in memory. -/
def bus : MemoryBus (Requests H) (Bench H) H where
  journal := w.journal
  subscriptions := ⟨Bench.subscriptions, fun subscriptions b => { b with subscriptions }⟩
  call subscriber body := calling (.handle subscriber body)

/-- Where mail is sent from. -/
def mail : MailDesk (Requests H) (Bench H) where
  journal := w.journal
  mailbox := ⟨Bench.mailbox, fun mailbox b => { b with mailbox }⟩
  connect options := calling (.connect options)
  relay email := calling (.relay email)

/-! ## Entries -/

section

variable (level : Level) (message : Text) (fields : Json.Members) (b : Bench H)

/-- An entry is written in the log, and nothing else changes. -/
theorem run_write :
    ∃ log, (w.journal.write level message fields).run w.serve b = (.ok (), { b with log }) :=
  w.journal.exists_run_write w.serve (w.dated b.calls) level message fields

/-- A fault that can be told is written in the log, and nothing else changes. -/
theorem run_writeFault {f : Fault} (hf : f.Sayable) :
    ∃ log, (w.journal.writeFault level message fields f).run w.serve b
      = (.ok (), { b with log }) :=
  w.journal.exists_run_writeFault w.serve (w.dated b.calls) hf level message fields

/-- What cannot be told is not written, and writing it fails. -/
theorem run_writeFault_of_not_sayable {f : Fault} (hf : ¬ f.Sayable) :
    (w.journal.writeFault level message fields f).run w.serve b = (.error .noPlainText, b) := by
  rw [Journal.writeFault, Program.run_bind, Program.run_ofExcept, Fault.report_of_not_sayable hf]

end

end Surroundings

end Thrown

end UnitOfWork
