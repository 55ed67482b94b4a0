import UnitOfWork.Config
import UnitOfWork.Journal
import UnitOfWork.Mail.Host
import UnitOfWork.Mail.Message
import UnitOfWork.Mail.Settings

/-!
# Mailers

A mailer relays emails through a server, or writes them to the log where the settings do not allow
more. The transport is made with the first email and kept; a failure surfaces as one error that
carries its cause, and nothing is retried.
-/

namespace UnitOfWork

/-- What logging in at a mail server needs. -/
structure MailAccount where
  host : Text
  username : Text
  password : Text
  deriving DecidableEq

/-- How a transport to a mail server is made. -/
structure TransportOptions where
  server : MailHost
  secure : Bool
  requireTls : Bool
  connectionTimeoutMs : Nat
  username : Text
  password : Text
  deriving DecidableEq

namespace MailAccount

/-- The longest wait for a mail server. -/
def connectTimeoutMs : Nat := 8000

/-- The transport for an account: encrypted from the first byte on the secure port, and made so
after the greeting on any other. -/
def transport (a : MailAccount) : TransportOptions :=
  let server := MailHost.ofText a.host
  let secure : Bool := server.port = MailHost.securePort
  ⟨server, secure, !secure, connectTimeoutMs, a.username, a.password⟩

/-- The account that settings describe, if its three texts are not empty. -/
def ofSettings (s : MailSettings) : Except Fault MailAccount :=
  match s.smtpHost.nonempty?, s.smtpUsername.nonempty?, s.smtpPassword.nonempty? with
  | some host, some username, some password => .ok ⟨host, username, password⟩
  | _, _, _ =>
    .error (.of .invalidEmailConfig ((s.problems).getD "SMTP settings are incomplete"))

end MailAccount

/-- The kind of a mailer. -/
inductive Mailer where
  /-- Writes emails to the log. -/
  | logging
  /-- Relays emails through a server. -/
  | smtp (account : MailAccount)
  deriving DecidableEq

/-- What a mailer remembers: whether its transport is made, the emails it relayed, and the texts it
logged. -/
structure Mailbox where
  connected : Bool := false
  relayed : List Email := []
  logged : List Text := []
  deriving DecidableEq

namespace Mailer

variable {S : Signature} {σ : Type}

/-- What is said where emails are logged although they should be sent. -/
def fallbackNotice (problems : Text) : Text :=
  problems ++ " Will log errors instead of emailing them."

/-- The mailer that a mode and settings support. Settings that cannot be used are refused where
`strict` is set, and otherwise lead to a mailer that logs. -/
def select (journal : Journal σ) (mode : Option Mode) (settings : MailSettings) (strict : Bool) :
    Program S σ Mailer :=
  if mode = some .debug then return .logging
  else
    match settings.problems with
    | some problems =>
      if strict then .fail (.of .invalidEmailConfig problems)
      else do
        journal.write .info (fallbackNotice problems) []
        return .logging
    | none => do return .smtp (← .ofExcept (MailAccount.ofSettings settings))

/-- The codes of failures of the mail protocol. -/
def protocolCodes : List Text :=
  ["EAUTH", "ECONNECTION", "EENVELOPE", "EMESSAGE", "EPROTOCOL", "ESOCKET", "ETIMEDOUT", "ETLS"]

/-- The response code that a mail server gave, where it is a number. -/
def responseCode? (f : Fault) : Option Number :=
  match f.info? with
  | some ⟨.foreign _ _ (some (.num n)), _⟩ => some n
  | _ => none

/-- A failure of the mail protocol. -/
def isProtocolFault (f : Fault) : Bool :=
  (responseCode? f).isSome ||
    match f.textCode? with
    | some code => protocolCodes.contains code
    | none => false

/-- The fault that a failure to relay comes to. -/
def relayFault (f : Fault) : Fault :=
  if isProtocolFault f then .messenger "SMTP error sending notification email." f
  else .messenger "Unknown error sending notification email." f

end Mailer

/-- Where mail is sent from: the journal, the mailbox's place in the state, and how a transport is
made and used. -/
structure MailDesk (S : Signature) (σ : Type) where
  journal : Journal σ
  mailbox : Cell σ Mailbox
  connect : TransportOptions → Program S σ Unit
  relay : Email → Program S σ Unit

namespace MailDesk

variable {S : Signature} {σ : Type}

/-- Relays an email, making the transport first if there is none. -/
def dispatch (desk : MailDesk S σ) (account : MailAccount) (email : Email) : Program S σ Unit := do
  if !(← desk.mailbox.load).connected then
    desk.connect account.transport
    desk.mailbox.modify fun m => { m with connected := true }
  desk.relay email

/-- What follows a failure to relay: it is logged, and fails as one error. -/
def refuse (desk : MailDesk S σ) (email : Email) (f : Fault) : Program S σ Unit := do
  let message ← .ofExcept f.message
  desk.journal.write .error "Failed to relay notification email"
    (Journal.field "subject" email.subject
      ++ Journal.member "error" (.obj (Journal.field "message" message)))
  .fail (Mailer.relayFault f)

/-- Sends an email with a mailer. -/
def send (desk : MailDesk S σ) (mailer : Mailer) (email : Email) : Program S σ Unit :=
  match mailer with
  | .logging => do
    desk.journal.write .info email.logged []
    desk.mailbox.modify fun m => { m with logged := m.logged ++ [email.logged] }
  | .smtp account => do
    (desk.dispatch account email).rescue (desk.refuse email)
    desk.mailbox.modify fun m => { m with relayed := m.relayed ++ [email] }

end MailDesk

end UnitOfWork
