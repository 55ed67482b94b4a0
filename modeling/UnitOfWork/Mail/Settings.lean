import UnitOfWork.Text.Basic

/-!
# Mail settings

The five texts that sending mail needs. `MailSettings.problems` names those that are missing or
still placeholders, and `MailSettings.masked` is the form that may be logged: of the password it
keeps the first three units and the last one.
-/

namespace UnitOfWork

/-- A setting as it was given: not at all, as null, or as a text. -/
inductive Setting where
  | absent
  | null
  | text (t : Text)
  deriving DecidableEq

namespace Setting

/-- What stands in for a setting until it is known. -/
def placeholder : Text := "???"

/-- The text of a setting, if it has one. -/
def text? : Setting → Option Text
  | text t => some t
  | _ => none

/-- The text of a setting, if it has one that is not empty. -/
def nonempty? (s : Setting) : Option Text :=
  s.text?.filter (!·.isEmpty)

/-- A setting that can be used. -/
def usable (s : Setting) : Bool :=
  match s.nonempty? with
  | some t => t ≠ placeholder
  | none => false

/-- The setting that an optional text makes. -/
def ofOption : Option Text → Setting
  | some t => text t
  | none => absent

/-- The last unit of a text. -/
def lastUnit (t : Text) : Text :=
  t.drop (t.length - 1)

/-- A password with all but its first three units and its last one left out. An empty password and
the placeholder hide nothing. -/
def masked (s : Setting) : Setting :=
  match s.nonempty? with
  | some t => if t = placeholder then s else text (t.take 3 ++ "......" ++ lastUnit t)
  | none => s

end Setting

/-- The settings that sending mail needs. -/
structure MailSettings where
  smtpHost : Setting
  smtpUsername : Setting
  smtpPassword : Setting
  contactEmailOnError : Setting
  platformEmailAddress : Setting
  deriving DecidableEq

namespace MailSettings

/-- The settings by the names that operators know them by, in the order of these names. -/
def byName (s : MailSettings) : List (Text × Setting) :=
  [("CONTACT_EMAIL_ON_ERROR", s.contactEmailOnError),
    ("PLATFORM_EMAIL_ADDRESS", s.platformEmailAddress),
    ("SMTP_HOST", s.smtpHost),
    ("SMTP_PASSWORD", s.smtpPassword),
    ("SMTP_USERNAME", s.smtpUsername)]

/-- The settings that may be logged. -/
def masked (s : MailSettings) : MailSettings :=
  { s with smtpPassword := s.smtpPassword.masked }

/-- The names of the settings that cannot be used. -/
def unusable (s : MailSettings) : List Text :=
  (s.byName.filter fun (_, setting) => !setting.usable).map (·.1)

/-- What keeps these settings from being used, if anything does. -/
def problems (s : MailSettings) : Option Text :=
  match s.unusable with
  | [] => none
  | names => some ("Missing or invalid config values: " ++ Text.join ", " names)

end MailSettings

end UnitOfWork
