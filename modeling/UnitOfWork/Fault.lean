import UnitOfWork.Config.Issue
import UnitOfWork.Json.Reading

/-!
# Faults

What an operation can fail with: an error, with or without a cause, or any other value. An error's
class is data, and its name, code and status are read off the class. Main definitions:
`Fault.isSerializationFailure`, which looks for the code of a serialization failure along the
causes, and `Fault.report`, what a log entry says of a fault; it fails for a value that has no
plain text.
-/

namespace UnitOfWork

/-- The class of an error. -/
inductive ErrorClass where
  /-- An error from outside, with what was set on it. -/
  | foreign (name : Json) (code responseCode : Option Json)
  /-- Settings that were refused. -/
  | settings (issues : List Issue)
  /-- An application error of no special class. -/
  | application (code : Option Json) (status : Json)
  /-- The store cannot be reached. -/
  | connectionFailed
  /-- No connection became free in time. -/
  | poolExhausted
  /-- An operation that the session's state does not allow. -/
  | sessionState
  /-- Every attempt at a serialized transaction was a serialization failure. -/
  | retriesExhausted (attempts : Option Json)
  /-- Mail settings that cannot be used. -/
  | invalidEmailConfig
  /-- A message that could not be relayed. -/
  | messenger

namespace ErrorClass

/-- The name of an error of this class. Only one from outside may have a name that is no text. -/
def name : ErrorClass → Json
  | foreign name _ _ => name
  | settings _ => .str "ZodError"
  | application _ _ => .str "AppError"
  | connectionFailed => .str "ConnectionFailedError"
  | poolExhausted => .str "PoolExhaustedError"
  | sessionState => .str "SessionStateError"
  | retriesExhausted _ => .str "SerializationRetriesExhaustedError"
  | invalidEmailConfig => .str "InvalidEmailConfigError"
  | messenger => .str "MessengerError"

/-- The code of an error of this class. -/
def code? : ErrorClass → Option Json
  | foreign _ code _ => code
  | settings _ => none
  | application code _ => code
  | connectionFailed => some (.str "CONNECTION_FAILED")
  | poolExhausted => some (.str "POOL_EXHAUSTED")
  | sessionState => some (.str "SESSION_STATE")
  | retriesExhausted _ => some (.str "SERIALIZATION_RETRIES_EXHAUSTED")
  | invalidEmailConfig => some (.str "INVALID_EMAIL_CONFIG")
  | messenger => some (.str "MESSENGER_ERROR")

/-- The status that an application error of this class is answered with. -/
def status? : ErrorClass → Option Json
  | foreign _ _ _ | settings _ => none
  | application _ status => some status
  | connectionFailed | poolExhausted | retriesExhausted _ => some (.ofNat 503)
  | sessionState | invalidEmailConfig => some (.ofNat 500)
  | messenger => some (.ofNat 502)

/-- The attempts that were made, where the class counts them. -/
def attempts? : ErrorClass → Option Json
  | retriesExhausted attempts => attempts
  | _ => none

/-- A class of this application. -/
def isApplication (c : ErrorClass) : Bool :=
  c.status?.isSome

end ErrorClass

/-- An error: its class and its message. -/
structure ErrorInfo where
  errorClass : ErrorClass
  message : Text

/-- What an operation fails with. -/
inductive Fault where
  /-- A value that is no error, or nothing at all. -/
  | value (v : Option Json)
  /-- An error that names no cause. -/
  | error (info : ErrorInfo)
  /-- An error with its cause. -/
  | caused (info : ErrorInfo) (cause : Fault)
  /-- An error that is its own cause. -/
  | selfCaused (info : ErrorInfo)

namespace Fault

/-- The status of an application error of no special class, unless it is given. -/
def defaultStatus : Json :=
  .ofNat 500

/-- An error of a class with a message. -/
def of (errorClass : ErrorClass) (message : Text) : Fault :=
  error ⟨errorClass, message⟩

/-- An error from outside with a name and no more. -/
def named (name message : Text) : Fault :=
  of (.foreign (.str name) none none) message

/-- Settings were refused. -/
def settings (issues : List Issue) : Fault :=
  of (.settings issues) (Issue.listing issues)

/-- The store cannot be reached. -/
def connectionFailed (message : Text) (cause : Fault) : Fault :=
  caused ⟨.connectionFailed, message⟩ cause

/-- A message could not be relayed. -/
def messenger (message : Text) (cause : Fault) : Fault :=
  caused ⟨.messenger, message⟩ cause

/-- The message after the last of a number of attempts. -/
def retriesMessage (attempts : Text) : Text :=
  "Could not commit serialized transaction after " ++ attempts ++ " attempts."

/-- Every one of a number of attempts was a serialization failure; the cause is the last one. -/
def retriesExhausted (attempts : Nat) (cause : Fault) : Fault :=
  caused ⟨.retriesExhausted (some (.ofNat attempts)), retriesMessage (Text.ofNat attempts)⟩ cause

/-- An operation that the session's state does not allow. -/
def sessionState (message : Text) : Fault :=
  of .sessionState message

/-- The fault of reading a value that has no plain text. -/
def noPlainText : Fault :=
  named "TypeError" "Cannot convert object to primitive value"

/-- The error of a fault, if it is one. -/
def info? : Fault → Option ErrorInfo
  | value _ => none
  | error info | caused info _ | selfCaused info => some info

/-- An error, not another value. -/
def isError (f : Fault) : Bool :=
  f.info?.isSome

/-- The cause of an error; a value has none. -/
def cause? : Fault → Option Fault
  | value _ | error _ => none
  | caused _ cause => some cause
  | selfCaused info => some (selfCaused info)

/-- The code of an error. -/
def code? (f : Fault) : Option Json :=
  f.info?.bind (·.errorClass.code?)

/-- The code of an error, where it is a text. -/
def textCode? (f : Fault) : Option Text :=
  f.code?.bind Json.text?

/-- A value as plain text; nothing at all has its own word. -/
def valueText? : Option Json → Option Text
  | none => some "undefined"
  | some v => v.plainText?

/-- A value as it stands in a message; a value that has no plain text cannot. -/
def quoted (v : Option Json) : Except Fault Text :=
  match valueText? v with
  | some t => .ok t
  | none => .error noPlainText

/-- What a fault says: an error its message, a value its plain text. -/
def message (f : Fault) : Except Fault Text :=
  match f with
  | value v => quoted v
  | error info | caused info _ | selfCaused info => .ok info.message

/-- Name and message of an error, either alone where the other is empty. -/
def headline (info : ErrorInfo) : Except Fault Text := do
  let name ← quoted (some info.errorClass.name)
  if info.message.isEmpty then return name
  else if name.isEmpty then return info.message
  else return name ++ ": " ++ info.message

/-- The fault of looking for a member of nothing. -/
def noMembers : Fault :=
  named "TypeError" "Cannot convert undefined or null to object"

/-- Whether a fault brings a cause of its own, and its text: of an error the headline, of a value
the plain text. -/
def description (f : Fault) : Except Fault (Bool × Text) :=
  match f with
  | value none | value (some .null) => .error noMembers
  | value (some v) => f.message.map fun text => ((v.get? "cause").isSome, text)
  | error info | caused info _ | selfCaused info =>
    (headline info).map fun text => (f.cause?.isSome, text)

/-- The error that stands for a fault: itself, or an error that says what the value says. -/
def toError (f : Fault) : Except Fault Fault :=
  match f with
  | value _ => f.message.map (named "Error")
  | f => .ok f

/-! ## What a log entry says -/

/-- What a log entry says of a fault. Only an error is traced to where it arose. -/
structure Report where
  code : Option Text
  message : Text
  traced : Bool

/-- The members of a report as they are named in a log entry. -/
def Report.names (r : Report) : List Text :=
  if r.traced then ["code", "message", "stack"] else ["message"]

/-- A report as a value. Where an error arose is left to the surroundings to add. -/
def Report.toJson (r : Report) : Json :=
  .object [("code", r.code.map .str), ("message", some (.str r.message))]

/-- What a log entry says of a fault. -/
def report (f : Fault) : Except Fault Report :=
  f.message.map fun message => ⟨f.textCode?, message, f.isError⟩

/-! ## Serialization failures and missing roles -/

/-- The code of a serialization failure. -/
def serializationFailureCode : Text := "40001"

/-- The length to which causes are followed. -/
def causeDepth : Nat := 5

/-- An error among the first `depth` of a chain of causes carries the code of a serialization
failure. -/
def serializationFailureWithin : (depth : Nat) → Fault → Bool
  | 0, _ => false
  | depth + 1, f =>
    f.textCode? == some serializationFailureCode ||
      match f.cause? with
      | some cause => serializationFailureWithin depth cause
      | none => false

/-- A serialization failure: the transaction may be run again from scratch. -/
def isSerializationFailure (f : Fault) : Bool :=
  serializationFailureWithin causeDepth f

/-- The codes of a refused password and a refused role. -/
def authFailureCodes : List Text := ["28P01", "28000"]

/-- `role "` and, on the same line, `" does not exist` after it. -/
def tellsMissingRole : Text → Bool
  | [] => false
  | u :: us =>
    (match Text.dropBeginning? "role \"" (u :: us) with
      | some rest => Text.includes "\" does not exist" (rest.takeWhile (!Text.isLineEnd ·))
      | none => false) || tellsMissingRole us

/-- The failure points at a missing role or a rejected password. Capital letters count as small
ones; ASCII letters are enough, since no other letter has one of the phrases' letters as its whole
small form. -/
def isMissingRole (f : Fault) : Bool :=
  match f.info? with
  | none => false
  | some info =>
    (match f.textCode? with
      | some code => authFailureCodes.contains code
      | none => false)
    || (let message := Text.lowerAscii info.message
        Text.includes "password authentication failed for user" message || tellsMissingRole message)

end Fault

end UnitOfWork
