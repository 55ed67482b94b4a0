import UnitOfWork.Text.Basic

/-!
# Notification emails

An email, and the text that stands for it where it is logged instead of sent.
-/

namespace UnitOfWork

/-- An email. -/
structure Email where
  subject : Text
  sender : Text
  recipients : List Text
  body : Text
  deriving DecidableEq

namespace Email

/-- An email as it is written to the log. -/
def logged (e : Email) : Text :=
  Text.join "\n"
    ["LoggingMailer:", "Subject: " ++ e.subject, "Sender: " ++ e.sender,
      "Recipients: " ++ Text.join ", " e.recipients, "Body:", e.body]

end Email

end UnitOfWork
