import UnitOfWork.Number.Logarithm

/-!
# Backoff

Waits between attempts at a serialized transaction follow an exponential distribution.
-/

namespace UnitOfWork.Backoff

/-- The rate of the distribution unless another is given, per second. -/
def defaultRate : Number := 0.5

/-- The wait in milliseconds for a rate per second and a draw from zero up to one. -/
def delayMs (rate draw : Number) : Number :=
  -(-draw).log1p / rate * 1000

/-- Whole microseconds of a wait in milliseconds. A wait that is infinite or no number stays what it
is, and a finite one has none if they are too many for a number. -/
def microseconds? (ms : Number) : Option Number :=
  match ms, ms * 1000 + 0.5 with
  | .nan, _ | .infinite _, _ => some ms
  | _, .finite q => some (.finite q.floor)
  | _, _ => none

end UnitOfWork.Backoff
