import UnitOfWork.Number.Basic
import UnitOfWork.Text.Blank

/-!
# Reading numerals

`Numeral.decimal?` reads an unsigned decimal numeral and `Number.ofText` what a setting may hold: a
decimal numeral with a sign, an infinity, or a hexadecimal, octal or binary integer, blanks around
it ignored. A blank text is zero and any other text is not a number.
-/

namespace UnitOfWork

namespace Numeral

/-- The digits at the beginning of a text and the rest. -/
def digits (t : Text) : Text × Text :=
  t.span Text.isDigit

/-- The value of a digit in a base of at most sixteen. -/
def digitIn? (base : Nat) (u : UInt16) : Option Nat :=
  let n := u.toNat
  let d :=
    if 48 ≤ n ∧ n ≤ 57 then some (n - 48)
    else if 97 ≤ n ∧ n ≤ 102 then some (n - 87)
    else if 65 ≤ n ∧ n ≤ 70 then some (n - 55)
    else none
  d.filter (· < base)

/-- A nonempty run of digits in a base, and nothing else. -/
def integerIn? (base : Nat) (t : Text) : Option Nat :=
  if t.isEmpty then none
  else t.foldlM (fun n u => (digitIn? base u).map (base * n + ·)) 0

/-- The sign at the beginning of a text, true for minus, and the rest. -/
def sign : Text → Bool × Text
  | [] => (false, [])
  | u :: us =>
    if u = Text.unit '-' then (true, us)
    else if u = Text.unit '+' then (false, us)
    else (false, u :: us)

/-- An exponent, with its letter, and nothing else. An empty text is the exponent zero. -/
def exponent? : Text → Option Int
  | [] => some 0
  | u :: us =>
    if u = Text.unit 'e' ∨ u = Text.unit 'E' then
      let (negative, rest) := sign us
      if rest.isEmpty ∨ !rest.all Text.isDigit then none
      else
        let n : Int := Text.digitsValue rest
        some (if negative then -n else n)
    else none

/-- Beyond this many places from the point every decimal is zero or too large for a binary64
value. -/
def farPlace : Int := 400

/-- The binary64 value nearest to `digits * 10 ^ exponent`, where `digits` has `count` places. -/
def scale (digits count : Nat) (exponent : Int) : Number :=
  if digits = 0 then .finite 0
  else if exponent + count > farPlace then .infinite false
  else if exponent + count < -farPlace then .finite 0
  else match exponent with
    | .ofNat k => Number.round ((digits * Nat.pow 10 k : Nat) : Rat)
    | .negSucc k => Number.round (mkRat digits (Nat.pow 10 (k + 1)))

/-- An unsigned decimal numeral with at least one digit beside its point, and nothing else. -/
def decimal? (t : Text) : Option Number :=
  let (whole, rest) := digits t
  let (fraction, rest) :=
    match rest with
    | u :: us => if u = Text.unit '.' then digits us else ([], rest)
    | [] => ([], [])
  let all := whole ++ fraction
  if all.isEmpty then none
  else
    (exponent? rest).map fun e =>
      let n := Text.digitsValue all
      scale n (Text.ofNat n).length (e - fraction.length)

/-- The number with a sign. -/
def signed (negative : Bool) (x : Number) : Number :=
  if negative then x.neg else x

/-- A decimal numeral or an infinity, with or without a sign. -/
def signedDecimal? (t : Text) : Option Number :=
  let (negative, rest) := sign t
  if rest = "Infinity" then some (.infinite negative)
  else (decimal? rest).map (signed negative)

/-- The base that the two units at the beginning of a text name, and the digits after them. -/
def base? : Text → Option (Nat × Text)
  | z :: b :: rest =>
    if z ≠ Text.unit '0' then none
    else if b = Text.unit 'x' ∨ b = Text.unit 'X' then some (16, rest)
    else if b = Text.unit 'o' ∨ b = Text.unit 'O' then some (8, rest)
    else if b = Text.unit 'b' ∨ b = Text.unit 'B' then some (2, rest)
    else none
  | _ => none

end Numeral

/-- The number a text stands for, blanks around it ignored; a blank text is zero. -/
def Number.ofText (t : Text) : Number :=
  let t := Text.trim t
  if t.isEmpty then .finite 0
  else
    match Numeral.base? t with
    | some (base, digits) => ((Numeral.integerIn? base digits).map Number.ofNat).getD .nan
    | none => (Numeral.signedDecimal? t).getD .nan

end UnitOfWork
