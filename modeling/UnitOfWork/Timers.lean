import UnitOfWork.Time

/-!
# Timers

Pending timers with their due times. A timer that is due earlier fires earlier; of timers due at the
same time the one that was set earlier does.
-/

namespace UnitOfWork

/-- A pending timer: when it is due, its place in the order in which timers were set, and what it is
for. -/
structure Timer (α : Type) where
  due : Time
  stamp : Nat
  payload : α
  deriving DecidableEq

/-- A timer that fires before another. -/
def Timer.before {α β : Type} (a : Timer α) (b : Timer β) : Bool :=
  a.due.lt b.due || (!b.due.lt a.due && a.stamp < b.stamp)

/-- The pending timers. -/
abbrev Timers (α : Type) := List (Timer α)

namespace Timers

variable {α : Type}

/-- The timer that fires first. -/
def next? : Timers α → Option (Timer α)
  | [] => none
  | t :: rest =>
    match next? rest with
    | none => some t
    | some u => if u.before t then some u else some t

/-- The timers but the one with a stamp. -/
def cancel (stamp : Nat) (timers : Timers α) : Timers α :=
  timers.filter (·.stamp ≠ stamp)

end Timers

end UnitOfWork
