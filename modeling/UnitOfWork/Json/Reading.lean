import UnitOfWork.Json.Basic
import UnitOfWork.Number.Shortest
import UnitOfWork.Number.Numeral

/-!
# A value as plain text, as a number and as members

A value that stands where a text or a number is wanted is read as one. A list is its items joined
by commas and an object a fixed text; an object that brings a member named `toString` of its own
has neither reading. Every value can stand where members are wanted.
-/

namespace UnitOfWork.Json

/-- An object whose own member stands in the way of a reading. -/
def hidesText (members : Members) : Bool :=
  members.any fun m => m.1 = ("toString" : Text)

mutual

/-- A value as plain text, or `none` if it has no such reading. -/
def plainText? : Json → Option Text
  | null => some "null"
  | bool true => some "true"
  | bool false => some "false"
  | num n => some n.text
  | str t => some t
  | arr items => (itemTexts? items).map (Text.join ",")
  | obj members => if hidesText members then none else some "[object Object]"

/-- The items of a list as plain texts; null is empty. -/
def itemTexts? : List Json → Option (List Text)
  | [] => some []
  | null :: rest => (itemTexts? rest).map ([] :: ·)
  | item :: rest => (plainText? item).bind fun t => (itemTexts? rest).map (t :: ·)

end

/-- A value as a number, or `none` if it has no such reading. -/
def plainNumber? : Json → Option Number
  | null => some 0
  | bool b => some (if b then 1 else 0)
  | num n => some n
  | str t => some (Number.ofText t)
  | arr items => (plainText? (arr items)).map Number.ofText
  | obj members => (plainText? (obj members)).map Number.ofText

/-- The members that a value brings: those of an object; the items of a list and the units of a text
under their places; of any other value none. -/
def spread : Json → Members
  | obj members => members
  | arr items => items.zipIdx.map fun (v, i) => (Text.ofNat i, v)
  | str t => t.zipIdx.map fun (u, i) => (Text.ofNat i, str [u])
  | _ => []

end UnitOfWork.Json
