import UnitOfWork.Number.Basic
import UnitOfWork.Text.Basic

/-!
# Values

A value as messages, settings and log entries hold it. The members of an object are an association
list in the order in which they are written: names that are list indices ascending, then the other
names in the order in which they were first put.
-/

namespace UnitOfWork

/-- A value. -/
inductive Json where
  | null
  | bool (b : Bool)
  | num (n : Number)
  | str (t : Text)
  | arr (items : List Json)
  | obj (members : List (Text × Json))
  deriving Inhabited

namespace Json

/-- The members of an object by name. -/
abbrev Members := List (Text × Json)

namespace Members

/-- The value of a member. -/
def get? (name : Text) : Members → Option Json
  | [] => none
  | (n, v) :: rest => if n = name then some v else get? name rest

/-- Sets a member: in its place if the name is there, else at the end. -/
def put (name : Text) (value : Json) : Members → Members
  | [] => [(name, value)]
  | (n, v) :: rest => if n = name then (n, value) :: rest else (n, v) :: put name value rest

/-- Sets each of a list of members in turn. -/
def putAll (members : Members) (more : Members) : Members :=
  more.foldl (fun ms (n, v) => put n v ms) members

/-- The index that a name writes in decimal, if it is below `2 ^ 32 - 1`. -/
def index? (name : Text) : Option Nat :=
  if name.isEmpty ∨ !name.all Text.isDigit then none
  else
    let n := Text.digitsValue name
    if Text.ofNat n = name ∧ n < 4294967295 then some n else none

/-- Puts an index among ascending indices. -/
def insertIndex (i : Nat) (member : Text × Json) : List (Nat × Text × Json) → List (Nat × Text × Json)
  | [] => [(i, member)]
  | (j, m) :: rest => if i < j then (i, member) :: (j, m) :: rest else (j, m) :: insertIndex i member rest

/-- The members in the order in which they are written. -/
def ordered (members : Members) : Members :=
  let indexed := members.filterMap fun m => (index? m.1).map fun i => (i, m)
  (indexed.foldr (fun (i, m) done => insertIndex i m done) []).map (·.2)
    ++ members.filter fun m => (index? m.1).isNone

end Members

/-- The object that puts each of a list of members in turn. -/
def ofMembers (members : Members) : Json :=
  obj (Members.ordered (Members.putAll [] members))

/-- The object with the members that are present. -/
def object (members : List (Text × Option Json)) : Json :=
  obj (members.filterMap fun (name, value) => value.map (name, ·))

/-- A member of an object. -/
def get? (name : Text) : Json → Option Json
  | obj members => Members.get? name members
  | _ => none

/-- The text of a text value. -/
def text? : Json → Option Text
  | str t => some t
  | _ => none

/-- The number of a number value. -/
def number? : Json → Option Number
  | num n => some n
  | _ => none

/-- An integer as a value. -/
def ofInt (n : Int) : Json :=
  num (.finite n)

/-- A natural number as a value. -/
def ofNat (n : Nat) : Json :=
  ofInt n

end Json

end UnitOfWork
