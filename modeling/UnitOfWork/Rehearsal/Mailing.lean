import UnitOfWork.Mail.Notifier
import UnitOfWork.Rehearsal.StandIns

/-!
# Rehearsing mail

Mailers and notifiers over a mail server that records what it is sent.
-/

namespace UnitOfWork.Rehearsal

/-- How a transport was made, as it is recorded. -/
def transportJson (o : TransportOptions) : Json :=
  .obj [("host", .str o.server.host), ("port", .num o.server.port), ("secure", .bool o.secure),
    ("requireTLS", .bool o.requireTls), ("connectionTimeout", .ofNat o.connectionTimeoutMs),
    ("auth", .obj [("user", .str o.username), ("pass", .str o.password)])]

/-- An email as it is recorded. -/
def emailJson (e : Email) : Json :=
  .obj [("subject", .str e.subject), ("from", .str e.sender), ("to", .arr (e.recipients.map .str)),
    ("text", .str e.body)]

/-- Where mail is sent from in a rehearsal. -/
def mailDesk : MailDesk Kernel World where
  journal := World.journal
  mailbox := World.mailboxCell
  connect o := useNow "createTransport" (some (transportJson o)) "createTransport"
  relay e := useStandIn "sendMail" (some (emailJson e)) "sendMail"

/-- Selects a mailer: by mode and settings, or by the settings alone. -/
def selectMailer (direct : Bool) (mode : Option Mode) (settings : MailSettings) (strict : Bool) :
    Action Mailer :=
  if direct then do return .smtp (← .ofExcept (MailAccount.ofSettings settings))
  else Mailer.select World.journal mode settings strict

/-- Runs a program that answers at once. -/
def runAtOnce {α : Type} (action : Action α) (m : Machine) : Option (Except Fault α) × Machine :=
  let (world, stop) := action.advance m.world
  match stop with
  | .ended outcome => (some outcome, { m with world })
  | .asked _ _ => (none, { m with world })

/-- Sends an email. -/
def sendEmail (mailer : Mailer) (email : Email) : Action Outcome := do
  mailDesk.send mailer email
  return .value .null

/-- Sends a message to the owner. -/
def sendNotice (n : Notifier) (subject body : Text) : Action Outcome := do
  n.send mailDesk World.noteCell subject body
  return .value .null

end UnitOfWork.Rehearsal
