import UnitOfWork.Fault

/-!
# Identifiers

An identifier is twenty-six digits in Crockford's base thirty-two: ten for the time in milliseconds
and sixteen that are drawn at random. `Ulid.next` keeps identifiers ascending: while the clock does
not pass the last time used, that time is kept and the random part goes up by one.
-/

namespace UnitOfWork

/-- Where identifiers come from: the last time used, the last random part, and how many random bytes
were drawn. -/
structure UlidSource where
  lastTime : Number := 0
  lastRandom : Option Text := none
  drawn : Nat := 0

namespace Ulid

/-- The digits, in ascending order: no I, L, O or U. -/
def alphabet : Text :=
  "0123456789ABCDEFGHJKMNPQRSTVWXYZ"

/-- The size of the base. -/
def base : Nat := 32

/-- Digits of the time. -/
def timeLength : Nat := 10

/-- Digits of the random part. -/
def randomLength : Nat := 16

/-- The greatest time that ten digits hold, kept to forty-eight bits. -/
def maxTime : Nat := 281474976710655

/-- A digit by its value. -/
def digit (value : Nat) : UInt16 :=
  alphabet.getD value (Text.unit '0')

/-- The value of a digit. -/
def value? (u : UInt16) : Option Nat :=
  alphabet.idxOf? u

/-- A natural number in `width` digits. -/
def encode : (width n : Nat) → Text
  | 0, _ => []
  | width + 1, n => encode width (n / base) ++ [digit (n % base)]

/-- The digit that a random byte draws. -/
def drawDigit (byte : Nat) : UInt16 :=
  digit (min (byte * base / 255) (base - 1))

/-- A random part: each byte in turn puts its digit before the ones drawn earlier. -/
def randomPart (bytes : List Nat) : Text :=
  (bytes.map drawDigit).reverse

/-- The digits, least first, of the next number, or `none` if all are the greatest digit. -/
def incrementReversed : Text → Option Text
  | [] => none
  | u :: us =>
    match value? u with
    | none => none
    | some v => if v + 1 < base then some (digit (v + 1) :: us)
      else (incrementReversed us).map (digit 0 :: ·)

/-- The next random part, or `none` after the last one. -/
def increment? (t : Text) : Option Text :=
  (incrementReversed t.reverse).map List.reverse

/-- The digits of a time. -/
def encodeTime (time : Number) : Except Fault Text :=
  if time = .nan then .error (.named "Error" (time.text ++ " must be a number"))
  else if Number.lt (Number.ofNat maxTime) time then
    .error (.named "Error" ("cannot encode time greater than " ++ Text.ofNat maxTime))
  else if time.lt 0 then .error (.named "Error" "time must be positive")
  else
    match time.toInt? with
    | some n => .ok (encode timeLength n.toNat)
    | none => .error (.named "Error" "time must be an integer")

/-- The next identifier at a reading of the clock, from a stream of random bytes. A random part is
drawn before the time is checked, and both are kept where the check fails. -/
def next (time : Number) (bytes : Nat → Nat) (source : UlidSource) : Except Fault Text × UlidSource :=
  if time.le source.lastTime then
    match source.lastRandom with
    | none =>
      (.error (.named "TypeError" "Cannot read properties of undefined (reading 'length')"), source)
    | some random =>
      match increment? random with
      | none => (.error (.named "Error" "incorrectly encoded string"), source)
      | some random =>
        ((encodeTime source.lastTime).map (· ++ random), { source with lastRandom := some random })
  else
    let random := randomPart ((List.range randomLength).map fun i => bytes (source.drawn + i))
    ((encodeTime time).map (· ++ random), ⟨time, some random, source.drawn + randomLength⟩)

/-- A text with the form of an identifier. -/
def isValid (t : Text) : Bool :=
  t.length = timeLength + randomLength && t.all alphabet.contains

end Ulid

end UnitOfWork
