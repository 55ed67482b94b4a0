import UnitOfWork.Number.Basic
import UnitOfWork.Number.Numeral
import UnitOfWork.Text.Blank

/-!
# Mail hosts

A mail host is a name with or without a port. The port is what follows the last colon, if that is
digits only and a name stands before it.
-/

namespace UnitOfWork

/-- Where a mail server listens. -/
structure MailHost where
  host : Text
  port : Number
  deriving DecidableEq

namespace MailHost

/-- The port for submitting mail. -/
def defaultPort : Number := 587

/-- The port that is encrypted from the first byte. -/
def securePort : Number := 465

/-- The number that a run of digits writes. -/
def portNumber (digits : Text) : Number :=
  let n := Text.digitsValue digits
  Numeral.scale n (Text.ofNat n).length 0

/-- Splits a text at its last colon into a name on one line and a port in digits. -/
def split? (t : Text) : Option (Text × Text) :=
  let (digits, rest) := t.reverse.span Text.isDigit
  match rest with
  | [] => none
  | colon :: name =>
    if colon = Text.unit ':' ∧ !digits.isEmpty ∧ !name.isEmpty ∧ !name.any Text.isLineEnd then
      some (name.reverse, digits.reverse)
    else none

/-- Reads a host with or without a port. -/
def ofText (t : Text) : MailHost :=
  match split? t with
  | some (host, digits) => ⟨host, portNumber digits⟩
  | none => ⟨t, defaultPort⟩

end MailHost

end UnitOfWork
