import UnitOfWork.Mail.Mailer
import UnitOfWork.Proofs.Trial.Basic

/-!
# A bench for a mailer

A bench holds what a mailer works on, and what it has asked of its mail server so far, each call
with the error that it failed with. `Surroundings` decides from the calls so far whether the next
one fails. A run sends emails one after another, each when the one before has ended.
-/

namespace UnitOfWork

namespace Mailing

/-- What a mailer asks of its mail server. -/
inductive Request where
  /-- Makes a transport. -/
  | connect (options : TransportOptions)
  | relay (email : Email)

/-- The requests of a mailer. None is answered with a value. -/
abbrev Requests : Signature :=
  ⟨Request, fun _ => Unit⟩

/-- A request that was made, and what it failed with, if it did. -/
structure Call where
  request : Request
  fault? : Option Fault

/-! ## What calls tell -/

/-- How the attempts to make a transport ended, in order. -/
def attempts (calls : List Call) : List (Option Fault) :=
  calls.filterMap fun
    | ⟨.connect _, f?⟩ => some f?
    | _ => none

/-- The emails that were handed to the server, in order. -/
def handed (calls : List Call) : List Email :=
  calls.filterMap fun
    | ⟨.relay email, _⟩ => some email
    | _ => none

/-- The emails that the server took, in order. -/
def taken (calls : List Call) : List Email :=
  calls.filterMap fun
    | ⟨.relay email, none⟩ => some email
    | _ => none

/-- What calls failed with, in order. -/
def failures (calls : List Call) : List Fault :=
  calls.filterMap Call.fault?

/-- The attempts in two parts are those of the first and then those of the second. -/
theorem attempts_append (calls calls' : List Call) :
    attempts (calls ++ calls') = attempts calls ++ attempts calls' :=
  List.filterMap_append

/-- The mails taken in two parts are those of the first and then those of the second. -/
theorem taken_append (calls calls' : List Call) :
    taken (calls ++ calls') = taken calls ++ taken calls' :=
  List.filterMap_append

/-! ## Surroundings -/

/-- What a mailer works on, with the calls that were made. -/
structure Bench where
  log : Log := {}
  mailbox : Mailbox := {}
  calls : List Call := []

/-- What a call fails with, if it does, and what the clock shows. -/
structure Surroundings where
  fault? : List Call → Request → Option Fault
  isError : ∀ calls request f, fault? calls request = some f → f.isError = true
  clock : List Call → Time
  /-- A clock shows moments that have a date. -/
  dated : ∀ calls, (clock calls).hasDate = true

namespace Surroundings

variable (w : Surroundings)

/-- Answers a request and notes it. -/
def serve : Server Requests Bench := fun request b =>
  (Fault.toResult (w.fault? b.calls request),
    { b with calls := b.calls ++ [⟨request, w.fault? b.calls request⟩] })

/-- Makes a request. -/
def asking (request : Request) : Program Requests Bench Unit :=
  .ask request .done

/-- Where mail is sent from. -/
def desk : MailDesk Requests Bench where
  journal := ⟨⟨Bench.log, fun log b => { b with log }⟩, fun b => w.clock b.calls⟩
  mailbox := ⟨Bench.mailbox, fun mailbox b => { b with mailbox }⟩
  connect options := asking (.connect options)
  relay email := asking (.relay email)

end Surroundings

/-! ## Runs -/

/-- An email that was sent: the calls that were made for it, how that ended, and all emails that the
mailer had relayed by then. -/
structure Sending where
  email : Email
  calls : List Call
  outcome : Except Fault Unit
  relayed : List Email

namespace Surroundings

variable (w : Surroundings) (account : MailAccount)

/-- Sends an email. -/
def send (email : Email) (b : Bench) : Sending × Bench :=
  let (outcome, b') := (w.desk.send (.smtp account) email).run w.serve b
  (⟨email, b'.calls.drop b.calls.length, outcome, b'.mailbox.relayed⟩, b')

/-- Sends emails one after another, whatever becomes of them. -/
def play : List Email → Bench → List Sending × Bench
  | [], b => ([], b)
  | email :: rest, b =>
    let (sending, b') := w.send account email b
    let (later, b'') := play rest b'
    (sending :: later, b'')

end Surroundings

end Mailing

end UnitOfWork
