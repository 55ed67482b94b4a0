/-!
# Binary64 numbers, exactly

A number is a binary64 value held as the rational it stands for, so comparing and printing are exact
and a proof can see through both. `round` takes a rational to the nearest binary64 value, a tie to
the even significand; every operation is the exact one followed by `round`. The two zeros are equal
in the order and differ only as divisors.
-/

namespace UnitOfWork

/-- A binary64 value. -/
inductive Number where
  /-- What is not a number. -/
  | nan
  | infinite (negative : Bool)
  /-- The zero of what is rounded up from below, by which a positive number has the quotient
  `infinite true`. -/
  | negativeZero
  /-- A rational; zero itself is the other zero. -/
  | finite (value : Rat)
  deriving DecidableEq

namespace Number

/-- The bits of a significand. -/
def precision : Nat := 53

/-- The exponent of the least positive value, `2 ^ (-1074)`. -/
def minExponent : Int := -1074

/-- The greatest exponent of the last place: larger values are infinite. -/
def maxExponent : Int := 971

/-- The fraction `num / den`, divided by `2 ^ e`, as a fraction. -/
def scaled (num den : Nat) (e : Int) : Nat × Nat :=
  match e with
  | .ofNat k => (num, den * Nat.pow 2 k)
  | .negSucc k => (num * Nat.pow 2 (k + 1), den)

/-- The exponent of the greatest power of two that is at most the positive fraction `num / den`. -/
def log2Floor (num den : Nat) : Int :=
  let k : Int := (Nat.log2 num : Int) - (Nat.log2 den : Int)
  let (n, d) := scaled num den k
  if d ≤ n then k else k - 1

/-- The natural number nearest to `num / den`, a tie to the even one. -/
def roundHalfEven (num den : Nat) : Nat :=
  let q := num / den
  let r := num % den
  if 2 * r < den then q
  else if den < 2 * r then q + 1
  else if q % 2 = 0 then q else q + 1

/-- The exponent of the last place of the binary64 values around the positive fraction
`num / den`. -/
def lastPlace (num den : Nat) : Int :=
  max (log2Floor num den - (precision - 1)) minExponent

/-- The value `m * 2 ^ e`. -/
def dyadic (m : Nat) (e : Int) : Rat :=
  match e with
  | .ofNat k => ((m * Nat.pow 2 k : Nat) : Rat)
  | .negSucc k => mkRat m (Nat.pow 2 (k + 1))

/-- The binary64 value nearest to the fraction `num / den`, or `none` if it is too large. -/
def roundFraction (num den : Nat) : Option Rat :=
  if num = 0 then some 0
  else
    let e := lastPlace num den
    let (n, d) := scaled num den e
    let m := roundHalfEven n d
    if e > maxExponent || (e = maxExponent && m ≥ Nat.pow 2 precision) then none else some (dyadic m e)

/-- The zero with a sign. -/
def zero (negative : Bool) : Number :=
  if negative then negativeZero else finite 0

/-- The binary64 value nearest to a rational; what is too small for any other is the zero with its
sign. -/
def round (q : Rat) : Number :=
  match roundFraction q.num.natAbs q.den with
  | none => infinite (q.num < 0)
  | some v => if v = 0 then zero (q.num < 0) else finite (if q.num < 0 then -v else v)

/-- The number of a natural number. -/
def ofNat (n : Nat) : Number :=
  round n

/-- The number of an integer. -/
def ofInt (n : Int) : Number :=
  round n

instance (n : Nat) : OfNat Number n := ⟨ofNat n⟩

/-- The decimal `digits * 10 ^ exponent`, or `digits / 10 ^ exponent`, rounded. -/
def ofDecimal (digits : Nat) (divides : Bool) (exponent : Nat) : Number :=
  round (if divides then mkRat digits (Nat.pow 10 exponent) else (digits * Nat.pow 10 exponent : Nat))

instance : OfScientific Number := ⟨ofDecimal⟩

/-- More rounds than any loop makes: a counter stands still from there on. -/
def unbounded : Nat := Nat.pow 2 53

/-- The rational a number stands for; zero for what is none. -/
def value : Number → Rat
  | finite q => q
  | _ => 0

/-- Either zero. -/
def isZero : Number → Bool
  | negativeZero => true
  | finite q => q = 0
  | _ => false

/-- The sign of a number is minus. -/
def isNegative : Number → Bool
  | nan => false
  | infinite negative => negative
  | negativeZero => true
  | finite q => q < 0

/-- An integer; neither infinity is one. -/
def isInteger : Number → Bool
  | negativeZero => true
  | finite q => q.den = 1
  | _ => false

/-- The integer a number is, if it is one. -/
def toInt? : Number → Option Int
  | negativeZero => some 0
  | finite q => if q.den = 1 then some q.num else none
  | _ => none

/-- The strict order. What is not a number is neither below nor above anything. -/
def lt : Number → Number → Bool
  | nan, _ | _, nan => false
  | infinite a, infinite b => a && !b
  | infinite a, _ => a
  | _, infinite b => !b
  | x, y => x.value < y.value

/-- The order. What is not a number is not even below itself. -/
def le : Number → Number → Bool
  | nan, _ | _, nan => false
  | infinite a, infinite b => a || !b
  | infinite a, _ => a
  | _, infinite b => !b
  | x, y => x.value ≤ y.value

/-- The number with the opposite sign. -/
def neg : Number → Number
  | nan => nan
  | infinite a => infinite (!a)
  | negativeZero => finite 0
  | finite q => if q = 0 then negativeZero else finite (-q)

/-- The sum. Opposite infinities have none, and only two negative zeros make a negative zero. -/
def add : Number → Number → Number
  | nan, _ | _, nan => nan
  | infinite a, infinite b => if a = b then infinite a else nan
  | infinite a, _ | _, infinite a => infinite a
  | negativeZero, negativeZero => negativeZero
  | x, y => round (x.value + y.value)

/-- The difference. -/
def sub (x y : Number) : Number :=
  x.add y.neg

/-- The product of two signs: minus if they differ. -/
def signOfProduct (x y : Number) : Bool :=
  x.isNegative != y.isNegative

/-- The product. An infinity times zero is not a number. -/
def mul (x y : Number) : Number :=
  match x, y with
  | nan, _ | _, nan => nan
  | infinite _, _ | _, infinite _ =>
    if x.isZero || y.isZero then nan else infinite (signOfProduct x y)
  | _, _ =>
    if x.isZero || y.isZero then zero (signOfProduct x y) else round (x.value * y.value)

/-- The quotient. A quotient by zero is infinite, of zero by zero not a number. -/
def div (x y : Number) : Number :=
  match x, y with
  | nan, _ | _, nan => nan
  | infinite _, infinite _ => nan
  | infinite _, _ => infinite (signOfProduct x y)
  | _, infinite _ => zero (signOfProduct x y)
  | _, _ =>
    if y.isZero then
      if x.isZero then nan else infinite (signOfProduct x y)
    else if x.isZero then zero (signOfProduct x y)
    else round (x.value / y.value)

instance : Neg Number := ⟨neg⟩
instance : Add Number := ⟨add⟩
instance : Sub Number := ⟨sub⟩
instance : Mul Number := ⟨mul⟩
instance : Div Number := ⟨div⟩

/-- The greatest integer at most a number; zero for what is no rational. -/
def floor (x : Number) : Int :=
  x.value.floor

/-- The least integer at least a number; zero for what is no rational. -/
def ceil (x : Number) : Int :=
  x.value.ceil

/-- The number without its fraction; zero for what is no rational. -/
def truncate (x : Number) : Int :=
  if x.value < 0 then x.ceil else x.floor

end Number

end UnitOfWork
