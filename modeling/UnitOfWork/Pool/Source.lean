import UnitOfWork.Pool.Basic
import UnitOfWork.Session.State

/-!
# Pooled connections

A source lends connections of a client, each under a slot of a guard. The slot is taken before the
client is asked and given back if the client fails; giving the connection back gives the slot back,
whatever the client makes of it.
-/

namespace UnitOfWork

/-- A source of connections: the guard it borrows slots from, how its client lends a connection and
takes one back, and the connections that were given back. -/
structure PooledSource (S : Signature) (σ : Type) where
  pool : Pool S σ
  lend : Program S σ Connection
  takeBack : Connection → Program S σ Unit
  released : Cell σ (List Connection)

namespace PooledSource

variable {S : Signature} {σ : Type}

/-- Borrows a connection, holding a slot from then on. -/
def reserve (source : PooledSource S σ) : Program S σ Connection := do
  source.pool.acquire
  source.lend.rescue fun f => do
    source.pool.release
    .fail f

/-- Gives a connection back, and its slot whatever comes of that. Giving it back again does
nothing. -/
def release (source : PooledSource S σ) (c : Connection) : Program S σ Unit := do
  if !(← source.released.load).contains c then
    source.released.modify (c :: ·)
    (source.takeBack c).ensure source.pool.release

end PooledSource

end UnitOfWork
