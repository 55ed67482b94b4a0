import UnitOfWork.Mail.Mailer

/-!
# Admin notifications

Short messages to the owner of an experiment, with the addresses taken from the settings. Where mail
cannot be sent they are logged and remembered.
-/

namespace UnitOfWork

/-- A notifier: whether it remembers what it logs, its mailer, and its addresses. -/
structure Notifier where
  remembers : Bool
  mailer : Mailer
  fromAddress : Text
  toAddress : Text
  deriving DecidableEq

namespace Notifier

variable {S : Signature} {σ : Type}

/-- An address, empty where there is none. -/
def address (s : Setting) : Text :=
  s.text?.getD []

/-- A notifier that logs. -/
def logging (settings : MailSettings) : Notifier :=
  ⟨true, .logging, address settings.platformEmailAddress, address settings.contactEmailOnError⟩

/-- The notifier that a mode and settings support. -/
def select (journal : Journal σ) (mode : Option Mode) (settings : MailSettings) :
    Program S σ Notifier :=
  if mode = some .debug then return logging settings
  else
    match settings.problems with
    | some problems => do
      journal.write .info (Mailer.fallbackNotice problems) []
      return logging settings
    | none => do
      let account ← .ofExcept (MailAccount.ofSettings settings)
      return { logging settings with remembers := false, mailer := .smtp account }

/-- What is remembered of a message. -/
def summary (subject body : Text) : Text :=
  subject ++ ": " ++ body

/-- Sends a message to the owner. -/
def send (n : Notifier) (desk : MailDesk S σ) (notes : Cell σ (List Text)) (subject body : Text) :
    Program S σ Unit := do
  if n.remembers then notes.modify (· ++ [summary subject body])
  desk.send n.mailer ⟨subject, n.fromAddress, [n.toAddress], body⟩

end Notifier

end UnitOfWork
