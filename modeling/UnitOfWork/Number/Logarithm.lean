import UnitOfWork.Number.Basic

/-!
# The logarithm of one plus a number

`Number.log1p` approximates the natural logarithm of `1 + x` to within one place, and every step of
it is rounded, so its last place is part of the definition. `1 + x` is taken apart into a power of
two `2 ^ k` and a factor `1 + f` near one, and the sum `k * log 2 + log (1 + f)` is taken with the
logarithm of two in two parts, so that the product with `k` loses nothing of the larger part.
-/

namespace UnitOfWork

namespace Logarithm

/-- The larger part of the logarithm of two: its product with an exponent is exact. -/
def log2High : Number := 6.93147180369123816490e-01

/-- The rest of the logarithm of two. -/
def log2Low : Number := 1.90821492927058770002e-10

/-- The coefficients, from the lowest power on, of the polynomial in `z = s * s` that stands for
`(log (1 + f) - 2 * s) / s`, where `s = f / (2 + f)`. -/
def coefficients : List Number :=
  [6.666666666666735130e-01, 3.999999999940941908e-01, 2.857142874366239149e-01,
   2.222219843214978396e-01, 1.818357216161805012e-01, 1.531383769920937332e-01,
   1.479819860511658591e-01]

/-- The value at `z` of the polynomial with the given coefficients and no constant term. -/
def polynomial (z : Number) : List Number → Number
  | [] => 0
  | c :: rest => z * (c + polynomial z rest)

/-- A number taken apart: `1 + x` is `2 ^ exponent * (1 + excess)`, but for the error that rounding
`1 + x` made, relative to it. -/
structure Reduced where
  exponent : Int
  excess : Number
  error : Number := 0
  /-- The excess is so small that two terms of its power series are enough. -/
  tiny : Bool := false

/-- Below this fraction of a power of two the power itself is the near one; at most the square root
of two. -/
def middle : Rat := mkRat (Nat.pow 2 20 + 0x6A09E) (Nat.pow 2 20)

/-- How far a fraction above a power of two may be from it to be tiny. -/
def tinyAbove : Rat := mkRat 1 (Nat.pow 2 20)

/-- How far a fraction below a power of two may be from it to be tiny, relative to the power
before. -/
def tinyBelow : Rat := mkRat 3 (Nat.pow 2 20)

/-- Takes a positive number apart, given the error of it. -/
def reduce (u error : Number) : Reduced :=
  let k := Number.log2Floor u.value.num.natAbs u.value.den
  let (n, d) := Number.scaled u.value.num.natAbs u.value.den k
  let m := mkRat n d
  if m < middle then
    { exponent := k, excess := .finite (m - 1), error, tiny := m < 1 + tinyAbove }
  else
    { exponent := k + 1, excess := .finite (m / 2 - 1), error, tiny := 2 - tinyBelow ≤ m }

/-- Up to here a positive `x` is an excess itself. -/
def excessAbove : Rat := mkRat (Nat.pow 2 20 + 0xA827A) (Nat.pow 2 22)

/-- Up to here below zero `x` is an excess itself. -/
def excessBelow : Rat := mkRat (Nat.pow 2 20 + 0x2BEC5) (Nat.pow 2 22)

/-- From here on `1 + x` is not told apart from `x`. -/
def large : Rat := (Nat.pow 2 53 : Nat)

/-- Takes `1 + x` apart, for `x` above minus one. -/
def Reduced.ofSuccessor (x : Number) : Reduced :=
  if -excessBelow < x.value ∧ x.value < excessAbove then { exponent := 0, excess := x }
  else if x.value < large then
    let u := 1 + x
    let lost := if 2 ≤ u.value then 1 - (u - x) else x - (u - 1)
    reduce u (lost / u)
  else reduce x 0

/-- The logarithm of a number that was taken apart. -/
def Reduced.log (r : Reduced) : Number :=
  let k := Number.ofInt r.exponent
  let f := r.excess
  let half := 0.5 * f * f
  if r.tiny ∧ f.isZero then
    if r.exponent = 0 then 0 else k * log2High + (r.error + k * log2Low)
  else if r.tiny then
    let rest := half * (1 - 0.66666666666666666 * f)
    if r.exponent = 0 then f - rest
    else k * log2High - ((rest - (k * log2Low + r.error)) - f)
  else
    let s := f / (2 + f)
    let rest := s * (half + polynomial (s * s) coefficients)
    if r.exponent = 0 then f - (half - rest)
    else k * log2High - ((half - (rest + (k * log2Low + r.error))) - f)

/-- Below this size `x` is the logarithm itself. -/
def minute : Rat := mkRat 1 (Nat.pow 2 54)

/-- Below this size two terms of the power series are the logarithm. -/
def small : Rat := mkRat 1 (Nat.pow 2 29)

end Logarithm

/-- The natural logarithm of `1 + x`. -/
def Number.log1p (x : Number) : Number :=
  match x with
  | nan => nan
  | infinite negative => if negative then nan else infinite false
  | negativeZero => negativeZero
  | finite q =>
    if q < -1 then nan
    else if q = -1 then infinite true
    else if -Logarithm.minute < q ∧ q < Logarithm.minute then finite q
    else if -Logarithm.small < q ∧ q < Logarithm.small then x - x * x * 0.5
    else (Logarithm.Reduced.ofSuccessor x).log

end UnitOfWork
