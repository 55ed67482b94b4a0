import UnitOfWork.Proofs.Course.Programs
import UnitOfWork.Proofs.Trial.Operations

/-!
# Sessions that keep a course

A session keeps a course if what it is made of does: setting its state, writing in the journal,
reserving, executing, giving back and handing over. Then so does every operation of it, and a
savepoint around work that keeps the course.
-/

namespace UnitOfWork

open Trial (SessionCall)

variable {S : Signature} {σ α : Type} {C : Course S σ} {F : C.Fact}

/-- A journal in which a program may write. -/
def Journal.Keeps (F : C.Fact) (j : Journal σ) : Prop :=
  ∀ level message fields, F.Keeps (j.write level message fields : Program S σ Unit)

/-- Writing a fault keeps what writing keeps, whether or not the fault can be told. -/
theorem Journal.Keeps.writeFault {j : Journal σ} (h : j.Keeps F) (level : Level) (message : Text)
    (fields : Json.Members) (f : Fault) :
    F.Keeps (j.writeFault level message fields f : Program S σ Unit) := by
  rw [Journal.writeFault]
  exact .bind (.done _) fun report => h _ _ _

namespace Session

/-- Sessions that keep a course under a fact. -/
structure Keeps (F : C.Fact) (s : Session S σ) : Prop where
  modify : ∀ f, F.Keeps (s.state.modify f)
  journal : s.journal.Keeps F
  reserve : F.Keeps s.reserve
  execute : ∀ c statement, F.Keeps (s.execute c statement)
  release : ∀ c, F.Keeps (s.release c)
  handOver : ∀ messages, F.Keeps (s.handOver messages)

namespace Keeps

variable {s : Session S σ}

/-- The check that a session is open keeps the fact. -/
theorem assertOpen : F.Keeps s.assertOpen :=
  .load _ fun _ => .ite (.done _) (.done _)

variable (h : s.Keeps F)

include h

/-- Setting the isolation level keeps the fact. -/
theorem setIsolation (level : Isolation) : F.Keeps (s.setIsolation level) :=
  assertOpen.bind fun _ => .load _ fun _ => .ite (.done _) (h.modify _)

/-- Beginning a transaction keeps the fact. -/
theorem begin (c : Connection) : F.Keeps (s.begin c) :=
  .load _ fun _ => (h.execute c _).bind fun _ => (h.modify _).bind fun _ =>
    .load _ fun _ => h.journal _ _ _

/-- Coming to hold a connection keeps the fact. -/
theorem attach : F.Keeps s.attach := by
  refine .load _ fun x => ?_
  split
  · exact .done _
  · exact h.reserve.bind fun c => (h.modify _).bind fun _ => .done _

/-- Connecting keeps the fact. -/
theorem connection : F.Keeps s.connection := by
  refine assertOpen.bind fun _ => h.attach.bind fun c => .load _ fun x => ?_
  exact .ite ((h.begin c).bind fun _ => .load _ fun _ => .done _) (.load _ fun _ => .done _)

/-- Querying keeps the fact. -/
theorem query (text : Text) : F.Keeps (s.query text) := by
  refine .bind (h.connection.bind fun c => ?_) fun c => h.execute c _
  cases c <;> exact .done _

/-- Giving the connection back keeps the fact. -/
theorem releaseConnection : F.Keeps s.releaseConnection := by
  refine .load _ fun x => ?_
  split
  · exact .done _
  · exact (h.modify _).bind fun _ => (h.release _).rescue fun f => h.journal.writeFault _ _ _ _

/-- Queueing a message keeps the fact. -/
theorem queueMessage (channel : Text) (message : Option Json) :
    F.Keeps (s.queueMessage channel message) := by
  refine assertOpen.bind fun _ => ?_
  split
  · exact .done _
  · exact (h.journal _ _ _).bind fun _ => h.modify _

/-- A savepoint around work that keeps the course. -/
theorem savepoint {work : Program S σ α} (hwork : F.Keeps work) : F.Keeps (s.savepoint work) := by
  refine h.connection.bind fun attached => (h.modify _).bind fun _ => .load _ fun x => ?_
  cases attached with
  | none => exact .done _
  | some c =>
    have hundo (f : Fault) : F.Keeps (s.undoSavepoint c x.savepoints f : Program S σ α) := by
      refine (h.journal.writeFault _ _ _ _).bind fun _ => (h.modify _).bind fun _ => ?_
      exact .bind ((h.execute c _).rescue fun g => h.journal.writeFault _ _ _ _) fun _ => .done _
    exact (h.execute c _).bind fun _ => (hwork.rescue hundo).bind fun a =>
      (h.execute c _).bind fun _ => .done _

/-- Committing on a connection keeps the fact. -/
theorem commitOn (c : Connection) : F.Keeps (s.commitOn c) :=
  .bind ((h.execute c _).rescue fun _ => (h.modify _).bind fun _ => .done _) fun _ =>
    (h.modify _).bind fun _ => h.releaseConnection

/-- Committing keeps the fact, with what is handed over. -/
theorem commit : F.Keeps s.commit := by
  have hend : F.Keeps (do
      s.state.modify (·.withTransaction .committed)
      let messages := (← s.state.load).outbox.entries
      s.state.modify SessionState.dropMessages
      if !messages.isEmpty then s.handOver messages) :=
    (h.modify _).bind fun _ => .load _ fun x => (h.modify _).bind fun _ =>
      .ite (h.handOver _) (.done _)
  refine assertOpen.bind fun _ => .load _ fun x => ?_
  split
  · exact (h.commitOn _).bind fun _ => hend
  · exact hend

/-- Rolling back keeps the fact. -/
theorem rollback : F.Keeps s.rollback := by
  refine assertOpen.bind fun _ => (h.modify _).bind fun _ => .load _ fun x => ?_
  split
  · exact (h.execute _ _).ensure (h.modify _)
  · exact .done _

/-- Closing keeps the fact. -/
theorem close : F.Keeps s.close := by
  refine .load _ fun x => .ite ((h.modify _).bind fun _ => ?_) (.done _)
  split
  · exact .done _
  · refine .ensure (.ite ?_ (.done _)) h.releaseConnection
    exact (h.execute _ _).rescue fun f => h.journal.writeFault _ _ _ _

/-- Every operation keeps the course. -/
theorem perform (call : SessionCall) : F.Keeps (call.perform s) := by
  cases call with
  | setIsolation level => exact (h.setIsolation level).bind fun _ => .done _
  | connection => exact h.connection
  | query text => exact (h.query text).bind fun _ => .done _
  | queueMessage channel message => exact (h.queueMessage channel message).bind fun _ => .done _
  | commit => exact h.commit.bind fun _ => .done _
  | rollback => exact h.rollback.bind fun _ => .done _
  | close => exact h.close.bind fun _ => .done _

end Keeps

end Session

end UnitOfWork
