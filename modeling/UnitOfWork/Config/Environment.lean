import UnitOfWork.Json.Reading

/-!
# The environment of a process

Variables and the texts that they hold. A variable is kept as characters that end with the first
NUL, so not every text can be held: `Environment.value` is what a variable holds that was set to a
text, and a text without NUL and without unpaired surrogates is held as it is.
-/

namespace UnitOfWork.Environment

/-- What is kept in place of an unpaired surrogate. -/
def replacement : UInt16 := 0xFFFD

/-- A text whose unpaired surrogates are replaced. -/
def wellFormed : Text → Text
  | [] => []
  | u :: rest =>
    if Text.isHigh u then
      match rest with
      | v :: rest' =>
        if Text.isLow v then u :: v :: wellFormed rest' else replacement :: wellFormed (v :: rest')
      | [] => [replacement]
    else if Text.isLow u then replacement :: wellFormed rest
    else u :: wellFormed rest

/-- What a variable holds that was set to a text. -/
def value (t : Text) : Text :=
  wellFormed (t.takeWhile (· ≠ 0))

/-- The environment in which variables were set to values, each as its plain text. -/
def ofMembers (members : Json.Members) : Json.Members :=
  members.map fun (name, v) => (name, (v.plainText?).elim v fun t => .str (value t))

end UnitOfWork.Environment
