import UnitOfWork.Fault

/-!
# Plans of a rehearsal

What goes wrong in a rehearsal is planned: a stand-in that is used under a key first waits, if a
delay is planned for the key, and then fails, if a failure is. Each entry of a plan serves a number
of times.
-/

namespace UnitOfWork.Rehearsal

/-- An entry of a plan: the key it is for, what it brings, and how often it still serves. -/
structure Planned (α : Type) where
  key : Text
  effect : α
  left : Nat

/-- How often an entry serves that is planned for a number of times. A time that is begun counts,
and an entry without an end serves more often than any rehearsal asks. -/
def uses (times : Number) : Nat :=
  match times with
  | .infinite false => Nat.pow 2 53
  | _ => times.ceil.toNat

/-- Takes the first entry for a key that still serves. -/
def takePlanned {α : Type} (key : Text) : List (Planned α) → Option α × List (Planned α)
  | [] => (none, [])
  | p :: rest =>
    if p.key = key ∧ 0 < p.left then (some p.effect, { p with left := p.left - 1 } :: rest)
    else
      let (effect, rest) := takePlanned key rest
      (effect, p :: rest)

/-- The failures and the delays that are planned. -/
structure Plans where
  failures : List (Planned Fault) := []
  delays : List (Planned Number) := []

namespace Plans

/-- Takes the delay for a key, in milliseconds. -/
def takeDelay (key : Text) (p : Plans) : Option Number × Plans :=
  let (ms, delays) := takePlanned key p.delays
  (ms, { p with delays })

/-- Takes the failure for a key. -/
def takeFailure (key : Text) (p : Plans) : Option Fault × Plans :=
  let (fault, failures) := takePlanned key p.failures
  (fault, { p with failures })

/-- Plans a further failure. -/
def addFailure (failure : Planned Fault) (p : Plans) : Plans :=
  { p with failures := p.failures ++ [failure] }

end Plans

end UnitOfWork.Rehearsal
