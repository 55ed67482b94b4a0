import UnitOfWork.Json.Basic
import UnitOfWork.Number.Numeral

/-!
# Reading values

`Json.parse?` reads one value and nothing after it. Each step takes the text that is left and
returns what it read with the rest; the nesting is bounded by the length of the text.
-/

namespace UnitOfWork.Json

/-- A blank between the parts of a value. -/
def isSpace (u : UInt16) : Bool :=
  u = 0x20 || u = 0x09 || u = 0x0A || u = 0x0D

/-- A text without the blanks at its beginning. -/
def skipSpace (t : Text) : Text :=
  t.dropWhile isSpace

/-- The unit that four digits in base sixteen name. -/
def unicodeUnit? (a b c d : UInt16) : Option UInt16 :=
  (Numeral.integerIn? 16 [a, b, c, d]).map Nat.toUInt16

/-- The unit after a backslash, where it is one of the short escapes. -/
def shortEscape? (u : UInt16) : Option UInt16 :=
  if u = Text.unit '"' ∨ u = Text.unit '\\' ∨ u = Text.unit '/' then some u
  else if u = Text.unit 'b' then some 0x08
  else if u = Text.unit 't' then some 0x09
  else if u = Text.unit 'n' then some 0x0A
  else if u = Text.unit 'f' then some 0x0C
  else if u = Text.unit 'r' then some 0x0D
  else none

/-- Puts a unit before a text that was read. -/
def consRead (u : UInt16) : Option (Text × Text) → Option (Text × Text) :=
  Option.map fun (t, rest) => (u :: t, rest)

/-- The inside of a text up to its closing quote, and what follows the quote. -/
def closeText? : Text → Option (Text × Text)
  | [] => none
  | [u] => if u = Text.unit '"' then some ([], []) else none
  | u :: e :: rest =>
    if u = Text.unit '"' then some ([], e :: rest)
    else if u = Text.unit '\\' then
      if e = Text.unit 'u' then
        match rest with
        | a :: b :: c :: d :: rest' =>
          (unicodeUnit? a b c d).bind fun v => consRead v (closeText? rest')
        | _ => none
      else (shortEscape? e).bind fun v => consRead v (closeText? rest)
    else if u < 0x20 then none
    else consRead u (closeText? (e :: rest))

/-- Digits at the beginning of a text, at least one. -/
def digits1? (t : Text) : Option (Text × Text) :=
  let (ds, rest) := Numeral.digits t
  if ds.isEmpty then none else some (ds, rest)

/-- A point with digits after it, or nothing. -/
def fraction? : Text → Option (Text × Text)
  | [] => some ([], [])
  | u :: rest => if u = Text.unit '.' then digits1? rest else some ([], u :: rest)

/-- An exponent, or nothing. -/
def exponent? : Text → Option (Int × Text)
  | [] => some (0, [])
  | u :: rest =>
    if u = Text.unit 'e' ∨ u = Text.unit 'E' then
      let (negative, rest) := Numeral.sign rest
      (digits1? rest).map fun (ds, rest) =>
        let n : Int := Text.digitsValue ds
        (if negative then -n else n, rest)
    else some (0, u :: rest)

/-- A numeral at the beginning of a text: no leading zero and no plus sign. -/
def numeral? (t : Text) : Option (Number × Text) := do
  let (negative, t) :=
    match t with
    | u :: rest => if u = Text.unit '-' then (true, rest) else (false, t)
    | [] => (false, [])
  let (whole, t) ← digits1? t
  if 1 < whole.length ∧ whole.head? = some (Text.unit '0') then none
  let (fraction, t) ← fraction? t
  let (e, t) ← exponent? t
  let n := Text.digitsValue (whole ++ fraction)
  let x := Numeral.scale n (Text.ofNat n).length (e - fraction.length)
  return (Numeral.signed negative x, t)

mutual

/-- A value at the beginning of a text, nested at most `depth` deep. -/
def value? : (depth : Nat) → Text → Option (Json × Text)
  | 0, _ => none
  | depth + 1, t =>
    match skipSpace t with
    | [] => none
    | u :: rest =>
      if u = Text.unit '"' then (closeText? rest).map fun (t, rest) => (str t, rest)
      else if u = Text.unit '[' then
        match skipSpace rest with
        | v :: rest' =>
          if v = Text.unit ']' then some (arr [], rest')
          else (items? depth rest).map fun (items, rest) => (arr items, rest)
        | [] => none
      else if u = Text.unit '\x7b' then
        match skipSpace rest with
        | v :: rest' =>
          if v = Text.unit '\x7d' then some (obj [], rest')
          else (members? depth rest).map fun (members, rest) => (ofMembers members, rest)
        | [] => none
      else
        match Text.dropBeginning? "null" (u :: rest) with
        | some rest => some (null, rest)
        | none =>
          match Text.dropBeginning? "true" (u :: rest) with
          | some rest => some (bool true, rest)
          | none =>
            match Text.dropBeginning? "false" (u :: rest) with
            | some rest => some (bool false, rest)
            | none => (numeral? (u :: rest)).map fun (n, rest) => (num n, rest)

/-- The items of a list up to its closing bracket. -/
def items? : (depth : Nat) → Text → Option (List Json × Text)
  | 0, _ => none
  | depth + 1, t =>
    (value? depth t).bind fun (item, t) =>
      match skipSpace t with
      | [] => none
      | u :: rest =>
        if u = Text.unit ']' then some ([item], rest)
        else if u = Text.unit ',' then
          (items? depth rest).map fun (items, rest) => (item :: items, rest)
        else none

/-- The members of an object up to its closing brace, in the order in which they stand. -/
def members? : (depth : Nat) → Text → Option (Members × Text)
  | 0, _ => none
  | depth + 1, t =>
    match skipSpace t with
    | [] => none
    | q :: t =>
      if q ≠ Text.unit '"' then none
      else
        (closeText? t).bind fun (name, t) =>
          match skipSpace t with
          | [] => none
          | c :: t =>
            if c ≠ Text.unit ':' then none
            else
              (value? depth t).bind fun (value, t) =>
                match skipSpace t with
                | [] => none
                | u :: rest =>
                  if u = Text.unit '\x7d' then some ([(name, value)], rest)
                  else if u = Text.unit ',' then
                    (members? depth rest).map fun (members, rest) =>
                      ((name, value) :: members, rest)
                  else none

end

/-- The value that a text writes, or `none` if it writes none. -/
def parse? (t : Text) : Option Json :=
  match value? (2 * t.length + 1) t with
  | some (v, rest) => if (skipSpace rest).isEmpty then some v else none
  | none => none

end UnitOfWork.Json
