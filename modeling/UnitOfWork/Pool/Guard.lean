import UnitOfWork.Fault
import UnitOfWork.Json.Reading
import UnitOfWork.Timers

/-!
# The pool guard

A guard bounds how many connections may be borrowed at once. Borrowers beyond the limit wait in
arrival order for a slot; one that still waits when its timer fires is turned away.

`acquire`, `release` and `expire` are the guard's only transitions, each on plain data.
-/

namespace UnitOfWork

/-- A waiting borrower, named by the stamp of its arrival. -/
abbrev Ticket := Nat

/-- A guard: its settings, the slots in use, the borrowers that wait in arrival order, how many were
turned away, and the pending timers. -/
structure PoolGuard where
  limit : Nat
  queueTimeoutMs : Number
  active : Nat := 0
  waiting : List Ticket := []
  exhaustions : Nat := 0
  timers : Timers Ticket := []
  deriving DecidableEq

namespace PoolGuard

/-- How a borrower is received. -/
inductive Reception where
  | granted
  | queued (ticket : Ticket)
  deriving DecidableEq

/-- A fault of using a guard outside its range. -/
def outOfRange (message : Text) : Fault :=
  .named "RangeError" message

/-- The limit that a value sets, if it is a positive integer. -/
def limit? : Option Json → Option Nat
  | some (.num n) =>
    match n.toInt? with
    | some k => if 1 ≤ k then some k.toNat else none
    | none => none
  | _ => none

/-- A guard with a limit and a longest wait in milliseconds; a wait of zero is no bound. -/
def make (limit : Option Json) (queueTimeoutMs : Number) : Except Fault PoolGuard :=
  match limit? limit with
  | some n => .ok { limit := n, queueTimeoutMs }
  | none => do
    throw (outOfRange ("Pool limit must be a positive integer, got " ++ (← Fault.quoted limit)))

/-- A slot is free. -/
def hasRoom (g : PoolGuard) : Bool :=
  g.active < g.limit

/-- Waits have a bound. -/
def timesOut (g : PoolGuard) : Bool :=
  Number.lt 0 g.queueTimeoutMs

/-- Receives a borrower at a moment. One that has to wait joins the queue under a fresh stamp and
sets a timer if waits have a bound. -/
def acquire (now : Time) (stamp : Nat) (g : PoolGuard) : Reception × PoolGuard :=
  if g.hasRoom then (.granted, { g with active := g.active + 1 })
  else
    let timer : Timers Ticket :=
      if g.timesOut then [⟨now + Time.delay g.queueTimeoutMs, stamp, stamp⟩] else []
    (.queued stamp, { g with waiting := g.waiting ++ [stamp], timers := g.timers ++ timer })

/-- Takes a slot back and passes it on to the borrower that waits longest. -/
def release (g : PoolGuard) : Except Fault (Option Ticket × PoolGuard) :=
  if g.active = 0 then
    .error (outOfRange "[pool-guard] release() without a matching acquire()")
  else
    match g.waiting with
    | [] => .ok (none, { g with active := g.active - 1 })
    | t :: rest => .ok (some t, { g with waiting := rest, timers := g.timers.cancel t })

/-- What a borrower that waited too long is told. -/
def exhausted (g : PoolGuard) : Fault :=
  .of .poolExhausted
    ("[pool-guard] waited " ++ g.queueTimeoutMs.text ++ "ms for a connection ("
      ++ Text.ofNat g.active ++ " active, " ++ Text.ofNat g.waiting.length ++ " queued)")

/-- The timer of a borrower fires: if it still waits, it leaves the queue and is turned away. -/
def expire (ticket : Ticket) (g : PoolGuard) : Option Fault × PoolGuard :=
  let g := { g with timers := g.timers.cancel ticket }
  if g.waiting.contains ticket then
    let g := { g with waiting := g.waiting.erase ticket, exhaustions := g.exhaustions + 1 }
    (some g.exhausted, g)
  else (none, g)

end PoolGuard

end UnitOfWork
