/-!
# Text as UTF-16 code units

Messages, channels, addresses and passwords may hold unpaired surrogates, and a password is cut by
code units, so a text is its list of UTF-16 code units. `ofString` writes a well-formed string as
units and `toString?` reads units back, failing exactly on an unpaired surrogate.
-/

namespace UnitOfWork

/-- A text: its UTF-16 code units in order. -/
abbrev Text := List UInt16

namespace Text

/-- The one or two code units of a code point. -/
def ofCodePoint (n : Nat) : Text :=
  if n < 0x10000 then [n.toUInt16]
  else [(0xD800 + (n - 0x10000) / 0x400).toUInt16, (0xDC00 + (n - 0x10000) % 0x400).toUInt16]

/-- The one or two code units of a character. -/
def ofChar (c : Char) : Text :=
  ofCodePoint c.toNat

/-- The code units of a well-formed string. -/
def ofString (s : String) : Text :=
  s.toList.flatMap ofChar

instance : Coe String Text := ⟨ofString⟩

/-- The first unit of a surrogate pair. -/
def isHigh (u : UInt16) : Bool :=
  0xD800 ≤ u && u < 0xDC00

/-- The second unit of a surrogate pair. -/
def isLow (u : UInt16) : Bool :=
  0xDC00 ≤ u && u < 0xE000

/-- The code point of a surrogate pair. -/
def pairValue (high low : UInt16) : Nat :=
  0x10000 + (high.toNat - 0xD800) * 0x400 + (low.toNat - 0xDC00)

/-- The characters of a text, or `none` if a surrogate stands alone. -/
def chars? : Text → Option (List Char)
  | [] => some []
  | u :: rest =>
    if isHigh u then
      match rest with
      | v :: rest' =>
        if isLow v then
          (chars? rest').map (Char.ofNat (pairValue u v) :: ·)
        else none
      | [] => none
    else if isLow u then none
    else (chars? rest).map (Char.ofNat u.toNat :: ·)

/-- The string of a text, or `none` if a surrogate stands alone. -/
def toString? (t : Text) : Option String :=
  (chars? t).map String.ofList

/-- The unit of an ASCII character. -/
def unit (c : Char) : UInt16 :=
  c.toNat.toUInt16

/-- A unit that is an ASCII decimal digit. -/
def isDigit (u : UInt16) : Bool :=
  unit '0' ≤ u && u ≤ unit '9'

/-- The value of a decimal digit. -/
def digit (u : UInt16) : Nat :=
  u.toNat - 48

/-- The unit of a decimal digit below ten. -/
def ofDigit (d : Nat) : UInt16 :=
  (48 + d).toUInt16

/-- A natural number in decimal, without leading zeros. -/
def ofNat (n : Nat) : Text :=
  (Nat.toDigits 10 n).map unit

/-- An integer in decimal. -/
def ofInt : Int → Text
  | .ofNat n => ofNat n
  | .negSucc n => "-" ++ ofNat (n + 1)

/-- A natural number in decimal, padded with zeros on the left to a width. -/
def padded (width n : Nat) : Text :=
  let digits := ofNat n
  List.replicate (width - digits.length) (unit '0') ++ digits

/-- The natural number that a run of decimal digits writes, most significant first. -/
def digitsValue (t : Text) : Nat :=
  t.foldl (fun n u => 10 * n + digit u) 0

/-- Texts joined by a separator. -/
def join (separator : Text) (parts : List Text) : Text :=
  separator.intercalate parts

/-- Replaces each unit of an ASCII capital letter by its small letter. -/
def lowerAscii (t : Text) : Text :=
  t.map fun u => if unit 'A' ≤ u && u ≤ unit 'Z' then u + 32 else u

/-- The rest of a text after a given beginning. -/
def dropBeginning? : (beginning text : Text) → Option Text
  | [], t => some t
  | _ :: _, [] => none
  | b :: bs, u :: us => if b = u then dropBeginning? bs us else none

/-- A text that begins with another. -/
def startsWith (text beginning : Text) : Bool :=
  (dropBeginning? beginning text).isSome

/-- A text that ends with another. -/
def endsWith (text ending : Text) : Bool :=
  startsWith text.reverse ending.reverse

/-- A text that holds another one somewhere. -/
def includes (part : Text) : Text → Bool
  | [] => part.isEmpty
  | u :: us => startsWith (u :: us) part || includes part us

/-- The order of texts by code units, a beginning before its continuations. -/
def le : Text → Text → Bool
  | [], _ => true
  | _ :: _, [] => false
  | u :: us, v :: vs => if u = v then le us vs else u < v

end Text

end UnitOfWork
