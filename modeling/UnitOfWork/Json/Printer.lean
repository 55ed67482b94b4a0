import UnitOfWork.Json.Basic
import UnitOfWork.Number.Shortest

/-!
# Written values

`Json.print` writes a value without blanks. Quotes, backslashes, control characters and unpaired
surrogates inside a text are escaped, so no written value holds a line feed; a number that is not
finite is written as null.
-/

namespace UnitOfWork.Json

/-- A digit in base sixteen, with small letters. -/
def hexDigit (n : Nat) : UInt16 :=
  if n < 10 then (48 + n).toUInt16 else (87 + n).toUInt16

/-- A unit by its four digits in base sixteen. -/
def unicodeEscape (u : UInt16) : Text :=
  let n := u.toNat
  "\\u" ++ [hexDigit (n / 4096), hexDigit (n / 256 % 16), hexDigit (n / 16 % 16), hexDigit (n % 16)]

/-- A unit inside a written text. -/
def escape (u : UInt16) : Text :=
  if u = Text.unit '"' then "\\\""
  else if u = Text.unit '\\' then "\\\\"
  else if u = 0x08 then "\\b"
  else if u = 0x09 then "\\t"
  else if u = 0x0A then "\\n"
  else if u = 0x0C then "\\f"
  else if u = 0x0D then "\\r"
  else if u < 0x20 then unicodeEscape u
  else [u]

/-- The inside of a written text: surrogate pairs as they are, all else unit by unit. -/
def escaped : Text → Text
  | [] => []
  | u :: rest =>
    if Text.isHigh u then
      match rest with
      | v :: rest' =>
        if Text.isLow v then u :: v :: escaped rest' else unicodeEscape u ++ escaped (v :: rest')
      | [] => unicodeEscape u
    else if Text.isLow u then unicodeEscape u ++ escaped rest
    else escape u ++ escaped rest

/-- A written text. -/
def quoted (t : Text) : Text :=
  "\"" ++ escaped t ++ "\""

/-- A written number. -/
def printNumber : Number → Text
  | .nan | .infinite _ => "null"
  | n => n.text

mutual

/-- A written value. -/
def print : Json → Text
  | null => "null"
  | bool true => "true"
  | bool false => "false"
  | num n => printNumber n
  | str t => quoted t
  | arr items => "[" ++ Text.join "," (printItems items) ++ "]"
  | obj members => "\x7b" ++ Text.join "," (printMembers members) ++ "\x7d"

/-- The written items of a list. -/
def printItems : List Json → List Text
  | [] => []
  | item :: rest => print item :: printItems rest

/-- The written members of an object. -/
def printMembers : List (Text × Json) → List Text
  | [] => []
  | (name, value) :: rest => (quoted name ++ ":" ++ print value) :: printMembers rest

end

end UnitOfWork.Json
