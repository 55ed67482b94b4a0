import UnitOfWork.Number.Basic
import UnitOfWork.Text.Basic

/-!
# Time

Moments are milliseconds since the start of 1970, held by a clock as binary64 numbers: moments far
away are apart by more than a millisecond, and times between moments are rounded. `Time.stamp?`
writes a moment as a date and time of the proleptic Gregorian calendar, if it is near enough to have
a date, and `Time.delay` is how long a timer waits that was asked to wait for a number of
milliseconds.
-/

namespace UnitOfWork

/-- A moment, in milliseconds since the start of 1970, or the time between two moments. -/
abbrev Time := Number

namespace Time

/-- Milliseconds of a day. -/
def dayLength : Int := 86400000

/-- Year, month and day of the `n`-th day after 1970-01-01. Years are counted from March, in eras of
four hundred years. -/
def date (n : Int) : Int × Nat × Nat :=
  let z := n + 719468
  let era := z.fdiv 146097
  let dayOfEra := (z.fmod 146097).toNat
  let yearOfEra := (dayOfEra - dayOfEra / 1460 + dayOfEra / 36524 - dayOfEra / 146096) / 365
  let dayOfYear := dayOfEra - (365 * yearOfEra + yearOfEra / 4 - yearOfEra / 100)
  let monthFromMarch := (5 * dayOfYear + 2) / 153
  let day := dayOfYear - (153 * monthFromMarch + 2) / 5 + 1
  let month := if monthFromMarch < 10 then monthFromMarch + 3 else monthFromMarch - 9
  (era * 400 + yearOfEra + (if month ≤ 2 then 1 else 0), month, day)

/-- A year with four digits, or with a sign and six digits where four are not enough. -/
def yearText (year : Int) : Text :=
  if 0 ≤ year ∧ year ≤ 9999 then Text.padded 4 year.toNat
  else (if year < 0 then "-" else "+") ++ Text.padded 6 year.natAbs

/-- A whole number of milliseconds since the start of 1970 as date and time. -/
def stampOf (n : Int) : Text :=
  let (year, month, day) := date (n.fdiv dayLength)
  let ms := (n.fmod dayLength).toNat
  yearText year ++ "-" ++ Text.padded 2 month ++ "-" ++ Text.padded 2 day ++ "T"
    ++ Text.padded 2 (ms / 3600000) ++ ":" ++ Text.padded 2 (ms / 60000 % 60) ++ ":"
    ++ Text.padded 2 (ms / 1000 % 60) ++ "." ++ Text.padded 3 (ms % 1000) ++ "Z"

/-- The last moment that has a date, a hundred million days after the first of 1970. -/
def lastDate : Time :=
  Number.ofInt (100000000 * dayLength)

/-- The moment has a date: it is at most a hundred million days from the first of 1970, on either
side. -/
def hasDate (t : Time) : Bool :=
  lastDate.neg.le t && t.le lastDate

/-- A moment as date and time, to the millisecond, if it has a date. -/
def stamp? (t : Time) : Option Text :=
  if t.hasDate then some (stampOf t.truncate) else none

/-- The later of two moments. -/
def later (s t : Time) : Time :=
  if s.lt t then t else s

/-- The longest wait of a timer. -/
def maxDelay : Int := 2147483647

/-- How long a timer waits: whole milliseconds, and one millisecond where the wait is shorter,
longer than the longest wait, or no number. -/
def delay (ms : Number) : Time :=
  if Number.le 1 ms ∧ ms.le (Number.ofInt maxDelay) then Number.ofInt ms.truncate else 1

end Time

end UnitOfWork
