import UnitOfWork.Number.Basic
import UnitOfWork.Text.Basic

/-!
# The shortest decimal that reads back

A number is written with the fewest digits that read back to it, and of those with the digits
nearest to it. `shortest` finds them on the decimal grids of one, two, … seventeen digits;
`Number.text` lays them out, positionally from `10 ^ (-6)` up to `10 ^ 21` and with an exponent
outside.
-/

namespace UnitOfWork

/-- The decimal `digits * 10 ^ exponent`. -/
structure Decimal where
  digits : Nat
  exponent : Int
  deriving DecidableEq

namespace Decimal

/-- The rational a decimal stands for. -/
def value (d : Decimal) : Rat :=
  match d.exponent with
  | .ofNat k => ((d.digits * Nat.pow 10 k : Nat) : Rat)
  | .negSucc k => mkRat d.digits (Nat.pow 10 (k + 1))

/-- The count of decimal digits before the point of the positive fraction `num / den`: `k` where
`10 ^ (k - 1) ≤ num / den < 10 ^ k`. -/
def magnitude (num den : Nat) : Int :=
  if den ≤ num then (Text.ofNat (num / den)).length
  else 1 - (Text.ofNat ((den + num - 1) / num - 1)).length

/-- The greatest multiple of `10 ^ e` that is at most `num / den`, in units of `10 ^ e`. -/
def floorAt (num den : Nat) (e : Int) : Nat :=
  match e with
  | .ofNat k => num / (den * Nat.pow 10 k)
  | .negSucc k => num * Nat.pow 10 (k + 1) / den

/-- The nearer to `v` of two decimals, a tie to the one with even digits. -/
def nearer (v : Rat) (below above : Decimal) : Decimal :=
  let down := v - below.value
  let up := above.value - v
  if down < up then below
  else if up < down then above
  else if below.digits % 2 = 0 then below else above

/-- The decimal with `n` digits nearest to the positive `v` among the two neighbours of `v` that
read back to it, or `none` if neither does. -/
def withDigits? (v : Rat) (n : Nat) : Option Decimal :=
  let num := v.num.natAbs
  let e := magnitude num v.den - n
  let f := floorAt num v.den e
  let below : Decimal := ⟨f, e⟩
  let above : Decimal := ⟨f + 1, e⟩
  let readsBack (d : Decimal) : Bool := Number.round d.value = .finite v
  match readsBack below, readsBack above with
  | true, true => some (nearer v below above)
  | true, false => some below
  | false, true => some above
  | false, false => none

/-- The first grid from `n` digits on that reads back, of `left + 1` grids. -/
def searchFrom (v : Rat) : (left n : Nat) → Decimal
  | 0, n => (withDigits? v n).getD ⟨0, 0⟩
  | left + 1, n => (withDigits? v n).getD (searchFrom v left (n + 1))

/-- Digits that no binary64 value exceeds. -/
def maxDigits : Nat := 17

/-- The shortest decimal that reads back to a positive binary64 value. -/
def shortest (v : Rat) : Decimal :=
  searchFrom v (maxDigits - 1) 1

end Decimal

namespace Number

/-- The digits of a number without the zeros at their end. -/
def significant (digits : Nat) : Text :=
  ((Text.ofNat digits).reverse.dropWhile (· = Text.unit '0')).reverse

/-- Digits `d₁d₂…` of the value `0.d₁d₂… * 10 ^ point`: without an exponent where the point is at
most twenty-one places right of the first digit and fewer than six zeros follow it on the left. -/
def layout (digits : Text) (point : Int) : Text :=
  let count := digits.length
  if 0 < point ∧ point ≤ 21 then
    let before := point.toNat
    if count ≤ before then digits ++ List.replicate (before - count) (Text.unit '0')
    else digits.take before ++ "." ++ digits.drop before
  else if -6 < point ∧ point ≤ 0 then
    "0." ++ List.replicate (-point).toNat (Text.unit '0') ++ digits
  else
    let e := point - 1
    let exponent : Text := (if e < 0 then "e-" else "e+") ++ Text.ofNat e.natAbs
    if count ≤ 1 then digits ++ exponent
    else digits.take 1 ++ "." ++ digits.drop 1 ++ exponent

/-- A positive rational, written shortest. -/
def positiveText (v : Rat) : Text :=
  let d := Decimal.shortest v
  layout (significant d.digits) ((Text.ofNat d.digits).length + d.exponent)

/-- A number in words or digits; the sign of a zero is not written. -/
def text : Number → Text
  | nan => "NaN"
  | infinite false => "Infinity"
  | infinite true => "-Infinity"
  | negativeZero => "0"
  | finite q =>
    if q = 0 then "0"
    else if q < 0 then "-" ++ positiveText (-q)
    else positiveText q

end Number

end UnitOfWork
