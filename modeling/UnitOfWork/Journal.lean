import UnitOfWork.Log
import UnitOfWork.Program.Basic

/-!
# The journal

Where programs write log entries: the log's place in the state and the clock that entries are
stamped with.
-/

namespace UnitOfWork

/-- Where log entries are written. -/
structure Journal (σ : Type) where
  log : Cell σ Log
  now : σ → Time

namespace Journal

variable {S : Signature} {σ : Type}

/-- A member of an entry. -/
def member (name : Text) (v : Json) : Json.Members :=
  [(name, v)]

/-- A text member of an entry. -/
def field (name : Text) (t : Text) : Json.Members :=
  member name (.str t)

/-- A member of an entry that counts something. -/
def count (name : Text) (n : Nat) : Json.Members :=
  member name (.ofNat n)

/-- The state after writing an entry, if it can be written. -/
def written (j : Journal σ) (level : Level) (message : Text) (fields : Json.Members) (s : σ) :
    Except Fault σ :=
  ((j.log.get s).write (j.now s) level message fields).map fun log => j.log.set log s

/-- At a moment that has a date an entry can be written. Only the log changes. -/
theorem exists_written (j : Journal σ) {s : σ} (h : (j.now s).hasDate = true) (level : Level)
    (message : Text) (fields : Json.Members) :
    ∃ log, j.written level message fields s = .ok (j.log.set log s) := by
  obtain ⟨log, hlog⟩ := Log.exists_write h level message fields (j.log.get s)
  exact ⟨log, by rw [written, hlog, Except.map]⟩

/-- Writes an entry. Nothing is written, and this fails, at a moment that has no date. -/
def write (j : Journal σ) (level : Level) (message : Text) (fields : Json.Members) :
    Program S σ Unit :=
  .tryChange (j.written level message fields)

/-- Writes an entry that ends with a report on a fault. Nothing is written, and this fails, if the
fault has no report. -/
def writeFault (j : Journal σ) (level : Level) (message : Text) (fields : Json.Members) (f : Fault) :
    Program S σ Unit := do
  let report ← .ofExcept f.report
  j.write level message (fields ++ member "error" report.toJson)

end Journal

end UnitOfWork
