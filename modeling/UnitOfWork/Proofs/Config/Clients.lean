import UnitOfWork.Database.Client
import UnitOfWork.Proofs.Config.Numbers
import UnitOfWork.Proofs.Inspection.Bench
import UnitOfWork.Proofs.Pool.Guard
import UnitOfWork.Proofs.Run

/-!
# Clients of a configuration that was loaded

A configuration checks the numbers that it reads, and a guard checks its limit once more. What the
first check lets pass satisfies the second, whatever values the environment gave: a client that is
made from a configuration that was loaded gets a guard, and that has room (`createClient_of_load`).
-/

namespace UnitOfWork

/-- The numbers of a configuration are whole: at least one for the size of the pool and for the
longest wait for a connection, and at least zero for the longest wait for a slot. -/
theorem Config.load_natCast {env : Json} {c : Config} (h : load env = .ok c) :
    ∃ size seconds ms : Nat,
      1 ≤ size ∧ c.poolSize = .finite (size : Int)
        ∧ 1 ≤ seconds ∧ c.connectTimeoutSeconds = .finite (seconds : Int)
        ∧ (c.queueTimeoutMs = .finite (ms : Int) ∨ c.queueTimeoutMs = .negativeZero ∧ ms = 0) := by
  obtain ⟨hpool, hconnect, hqueue⟩ := load_numbers h
  obtain ⟨size, hsize, hpool⟩ := Number.exists_eq_natCast hpool.1 hpool.2
  obtain ⟨seconds, hseconds, hconnect⟩ := Number.exists_eq_natCast hconnect.1 hconnect.2
  obtain ⟨ms, hqueue⟩ := Number.exists_eq_natCast_or_negativeZero hqueue.1 hqueue.2
  exact ⟨size, seconds, ms, hsize, hpool, hseconds, hconnect, hqueue⟩

namespace Database

variable {S : Signature} {σ : Type}

/-- Making a client adds its guard to those that were made, once its pool is opened. -/
theorem run_createClient_of_make (db : Database S σ) (serve : Server S σ) {config : ClientConfig}
    {guard : PoolGuard} (h : PoolGuard.make config.poolSize config.queueTimeoutMs = .ok guard) (s : σ) :
    (db.createClient config).run serve s =
      match (db.connect (poolOptions config)).run serve s with
      | (.ok _, s') =>
        (.ok (db.clients.get s').guards.length,
          db.clients.update (fun cs => { cs with guards := cs.guards ++ [guard] }) s')
      | (.error f, s') => (.error f, s') := by
  rw [createClient, h, Program.run_bind]
  rcases (db.connect (poolOptions config)).run serve s with ⟨_ | _, s'⟩ <;> rfl

/-- A configuration that was loaded makes a client: the numbers are whole and in their bounds, so
the guard is made, with as many slots as the pool has connections, and only opening the pool can
fail. -/
theorem createClient_of_load (db : Database S σ) (serve : Server S σ) {env : Json} {c : Config}
    (h : Config.load env = .ok c) (s : σ) :
    ∃ size seconds ms : Nat,
      (1 ≤ size ∧ c.poolSize = .finite (size : Int))
        ∧ (1 ≤ seconds ∧ c.connectTimeoutSeconds = .finite (seconds : Int))
        ∧ (c.queueTimeoutMs = .finite (ms : Int) ∨ c.queueTimeoutMs = .negativeZero ∧ ms = 0)
        ∧ ∃ guard : PoolGuard, guard = { limit := size, queueTimeoutMs := c.queueTimeoutMs }
          ∧ guard.hasRoom = true
          ∧ PoolGuard.make (some (.num c.poolSize)) c.queueTimeoutMs = .ok guard
          ∧ (db.createClient (.ofConfig c)).run serve s =
            match (db.connect (poolOptions (.ofConfig c))).run serve s with
            | (.ok _, s') =>
              (.ok (db.clients.get s').guards.length,
                db.clients.update (fun cs => { cs with guards := cs.guards ++ [guard] }) s')
            | (.error f, s') => (.error f, s') := by
  obtain ⟨size, seconds, ms, hsize, hpool, hseconds, hconnect, hqueue⟩ := Config.load_natCast h
  have hmake := PoolGuard.make_of_pos (hpool ▸ Number.toInt?_finite size) hsize c.queueTimeoutMs
  refine ⟨size, seconds, ms, ⟨hsize, hpool⟩, ⟨hseconds, hconnect⟩, hqueue, _, rfl, ?_, hmake, ?_⟩
  · exact decide_eq_true hsize
  · exact db.run_createClient_of_make serve hmake s

/-- An environment whose values are read as numbers by way of lists, a base, a truth value and a
sign. -/
def oddEnvironment : Json :=
  .obj [("DB_POOL_MAX", .arr [.arr [.str " 0x10 "]]), ("DB_CONNECT_TIMEOUT", .bool true),
    ("DB_QUEUE_TIMEOUT", .str "-0")]

/-- Where every pool can be opened an odd environment makes a client with sixteen slots, and waits
for one of them have no bound. -/
theorem createClient_of_oddEnvironment :
    ∃ (w : Inspection.Surroundings) (c : Config), Config.load oddEnvironment = .ok c
      ∧ c.poolSize = 16 ∧ c.connectTimeoutSeconds = 1 ∧ c.queueTimeoutMs = .negativeZero
      ∧ ((w.database.createClient (.ofConfig c)).run w.serve {}).1 = .ok 0 := by
  let w : Inspection.Surroundings := .failing fun _ _ => none
  have hload : Config.load oddEnvironment = .ok _ := rfl
  obtain ⟨size, seconds, ms, -, -, -, guard, -, -, -, hrun⟩ :=
    createClient_of_load w.database w.serve hload {}
  refine ⟨w, _, hload, rfl, rfl, rfl, ?_⟩
  rw [hrun]
  rfl

end Database

end UnitOfWork
