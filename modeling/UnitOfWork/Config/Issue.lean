import UnitOfWork.Json.Printer

/-!
# Issues with settings

What can be wrong with one setting. An issue keeps the cause; its kind and wording are read off it.
-/

namespace UnitOfWork

/-- What is wrong with one setting, or with the whole environment. -/
inductive Issue.Cause where
  /-- A value of another kind was expected. -/
  | wrongKind (expected received : Text)
  /-- A text that is none of the choices. -/
  | wrongChoice (choices : List Text) (received : Text)
  /-- A text with no unit where one is needed. -/
  | emptyText
  /-- A number that has to be above zero. -/
  | notPositive
  /-- A number that has to be at least zero. -/
  | negative
  deriving DecidableEq

/-- An issue: its cause, and the setting it is about unless it is about the whole environment. -/
structure Issue where
  setting : Option Text
  cause : Issue.Cause
  deriving DecidableEq

namespace Issue

/-- A text in single quotes. -/
def inQuotes (t : Text) : Text :=
  "'" ++ t ++ "'"

/-- Choices as they are named in messages. -/
def alternatives (choices : List Text) : Text :=
  Text.join " | " (choices.map inQuotes)

/-- The kind of an issue. -/
def code (issue : Issue) : Text :=
  match issue.cause with
  | .wrongKind _ _ => "invalid_type"
  | .wrongChoice _ _ => "invalid_enum_value"
  | .emptyText | .notPositive | .negative => "too_small"

/-- The wording of an issue. -/
def message (issue : Issue) : Text :=
  match issue.cause with
  | .wrongKind expected received => "Expected " ++ expected ++ ", received " ++ received
  | .wrongChoice choices received =>
    "Invalid enum value. Expected " ++ alternatives choices ++ ", received " ++ inQuotes received
  | .emptyText => "String must contain at least 1 character(s)"
  | .notPositive => "Number must be greater than 0"
  | .negative => "Number must be greater than or equal to 0"

/-- An issue as a value. -/
def toJson (issue : Issue) : Json :=
  .obj [("code", .str issue.code), ("path", .arr (issue.setting.toList.map .str)),
    ("message", .str issue.message)]

/-- The wording of a list of issues. -/
def listing (issues : List Issue) : Text :=
  Json.print (.arr (issues.map toJson))

end Issue

end UnitOfWork
