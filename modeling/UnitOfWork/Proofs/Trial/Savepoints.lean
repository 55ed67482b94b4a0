import UnitOfWork.Proofs.Trial.Work

/-!
# What a savepoint does

`Saves` says everything that a savepoint around a body can do, from asking for the connection to the
statement that ends the savepoint, with the run of the body in between. `Surroundings.run_savepoint`
reads the run of `Session.savepoint` as one of its cases. The connection is the one that the session
had when the savepoint began, whatever the body does with the session. A body that fails with what
cannot be told is told all the same before anything is undone, so its savepoint stays open.
-/

namespace UnitOfWork.Trial

variable {υ α : Type}

/-- A session gets its connection and executes SAVEPOINT on it, which counts even if it fails. -/
inductive Marks (ref : SessionRef) (d : Desk υ) : Connection → Nat → Option Fault → Desk υ → Prop where
  | mk {block : List SessionEvent} {c : Connection} {s : SessionState} {f : Option Fault}
      {d₁ d' : Desk υ} (hconn : Connects (d.sessions ref) block (.ok c) s)
      (hobtains : d.Takes ref block s d₁)
      (hmarks : d₁.Takes ref [.executed c (.savepoint (s.savepoints + 1)) f] s.countSavepoint d') :
      Marks ref d c (s.savepoints + 1) f d'

/-- What a savepoint around a body does: its outcome and the desk that it leaves. -/
inductive Saves (w : Surroundings) (ref : SessionRef) (body : Program Calls (Desk υ) α) (d : Desk υ) :
    Except Fault α → Desk υ → Prop where
  | refused {block : List SessionEvent} {f : Fault} {s : SessionState} {d' : Desk υ}
      (hconn : Connects (d.sessions ref) block (.error f) s) (htakes : d.Takes ref block s d') :
      Saves w ref body d (.error f) d'
  | unmarked {c : Connection} {n : Nat} {f : Fault} {d' : Desk υ}
      (hmarks : Marks ref d c n (some f) d') :
      Saves w ref body d (.error f) d'
  | returned {c : Connection} {n : Nat} {a : α} {f : Option Fault} {d₁ d₂ d' : Desk υ}
      (hmarks : Marks ref d c n none d₁)
      (hbody : body.run w.serve (d₁.note (.session ref .bodyBegan)) = (.ok a, d₂))
      (hends : (d₂.note (.session ref (.bodyEnded none))).Takes ref
        [.executed c (.releaseSavepoint n) f] (d₂.sessions ref) d') :
      Saves w ref body d ((Fault.toResult f).map fun _ => a) d'
  | failed {c : Connection} {n : Nat} {f : Fault} {g : Option Fault} {d₁ d₂ d' : Desk υ}
      (hmarks : Marks ref d c n none d₁)
      (hbody : body.run w.serve (d₁.note (.session ref .bodyBegan)) = (.error f, d₂))
      (hf : f.Sayable)
      (hends : (d₂.note (.session ref (.bodyEnded (some f)))).Takes ref
        [.executed c (.rollbackTo n) g] (d₂.sessions ref).dropMessages d') :
      Saves w ref body d (.error f) d'
  | stranded {c : Connection} {n : Nat} {f : Fault} {d₁ d₂ : Desk υ} (hmarks : Marks ref d c n none d₁)
      (hbody : body.run w.serve (d₁.note (.session ref .bodyBegan)) = (.error f, d₂))
      (hf : ¬ f.Sayable) :
      Saves w ref body d (.error .noPlainText) (d₂.note (.session ref (.bodyEnded (some f))))

namespace Surroundings

variable (w : Surroundings) (ref : SessionRef) (d : Desk υ)

/-- A statement is executed and no more. -/
theorem takes_execute (c : Connection) (statement : Statement) :
    ∃ f d', ((w.session ref).execute c statement).run w.serve d = (Fault.toResult f, d')
      ∧ Settles (Fault.toResult f) ∧ d.Takes ref [.executed c statement f] (d.sessions ref) d' := by
  refine ⟨_, _, w.run_execute ref d c statement, ?_, .after d _ d.log rfl⟩
  cases hf : w.fault? d.history (.execute ref c statement) with
  | none => exact settles_ok ()
  | some f => exact settles_error.2 (w.sayable _ _ f hf)

/-- What follows a failed body: the messages are dropped and the transaction is rolled back to the
savepoint, whether or not that fails. -/
theorem run_undoSavepoint (c : Connection) (n : Nat) {f : Fault} (hf : f.Sayable) :
    ∃ g d', ((w.session ref).undoSavepoint c n f : Program Calls (Desk υ) α).run w.serve d
        = (.error f, d')
      ∧ d.Takes ref [.executed c (.rollbackTo n) g] (d.sessions ref).dropMessages d' := by
  unfold Session.undoSavepoint
  generalize (w.session (υ := υ) ref).mark ++ Journal.field "savepoint" (savepointName n) = fields
  obtain ⟨g, log, hrun⟩ := w.run_reporting ref
    (d.after ref (d.sessions ref).dropMessages [] (w.enteredFault d.history .error
      "Exception inside savepoint, rolling back to it" fields f d.log) d.connections)
    c (.rollbackTo n) "Rollback to savepoint failed" fields
  simp only [Desk.after_sessions, Desk.after_after, Desk.after_connections, List.nil_append] at hrun
  refine ⟨g, _, ?_, .after d _ log rfl⟩
  simp [w.run_enterFault ref _ hf, hrun]

/-- What cannot be told is not told, and nothing is undone. -/
theorem run_undoSavepoint_of_not_sayable (c : Connection) (n : Nat) {f : Fault} (hf : ¬ f.Sayable) :
    ((w.session ref).undoSavepoint c n f : Program Calls (Desk υ) α).run w.serve d
      = (.error .noPlainText, d) := by
  refine Program.run_bind_of_error ?_ _
  rw [Journal.writeFault, Program.run_bind, Program.run_ofExcept, Fault.report_of_not_sayable hf]

/-- After a body has run its savepoint is released or undone, or it stays open. -/
theorem run_afterBody (body : Program Calls (Desk υ) α) {c : Connection} {n : Nat} {d₁ : Desk υ}
    (hmarks : Marks ref d c n none d₁) :
    ∃ r d', (do
        let a ← (inBody ref body).rescue ((w.session ref).undoSavepoint c n)
        (w.session ref).execute c (.releaseSavepoint n)
        return a : Program Calls (Desk υ) α).run w.serve d₁ = (r, d')
      ∧ Settles r ∧ Saves w ref body d r d' := by
  rcases hb : body.run w.serve (d₁.note (.session ref .bodyBegan)) with ⟨f | a, d₂⟩
  · have hbody := run_inBody hb
    by_cases hf : f.Sayable
    · obtain ⟨g, d', hundo, hends⟩ := w.run_undoSavepoint (α := α) ref
        (d₂.note (.session ref (.bodyEnded (some f)))) c n hf
      refine ⟨.error f, d', Program.run_bind_of_error ?_ _, settles_error.2 hf,
        .failed hmarks hb hf hends⟩
      exact (Program.run_rescue_of_error hbody _).trans hundo
    · have hundo := w.run_undoSavepoint_of_not_sayable (α := α) ref
        (d₂.note (.session ref (.bodyEnded (some f)))) c n hf
      refine ⟨.error .noPlainText, _, Program.run_bind_of_error ?_ _, settles_of_isError rfl,
        .stranded hmarks hb hf⟩
      exact (Program.run_rescue_of_error hbody _).trans hundo
  · have hbody := run_inBody hb
    obtain ⟨g, d', hrelease, hg, hends⟩ := w.takes_execute ref
      (d₂.note (.session ref (.bodyEnded none))) c (.releaseSavepoint n)
    refine ⟨_, d', (Program.run_bind_of_ok (Program.run_rescue_of_ok hbody _) _).trans ?_, hg.map _,
      .returned hmarks hb hends⟩
    cases g with
    | none => exact Program.run_bind_of_ok hrelease _
    | some g => exact Program.run_bind_of_error hrelease _

/-- A savepoint does what `Saves` says. -/
theorem run_savepoint (hs : (d.sessions ref).Sound) (body : Program Calls (Desk υ) α) :
    ∃ r d', ((w.session ref).savepoint (inBody ref body)).run w.serve d = (r, d')
      ∧ Settles r ∧ Saves w ref body d r d' := by
  obtain ⟨r, block, s, d₁, hrun, hr, hconn, htakes⟩ := w.run_connection ref d hs
  cases r with
  | error f =>
    refine ⟨.error f, d₁, ?_, hr.rethrown, .refused hconn htakes⟩
    simp [Session.savepoint, hrun, Except.map]
  | ok c =>
    obtain ⟨f, d₂, hmark, hf, htakes₂⟩ := w.takes_execute ref
      (d₁.after ref s.countSavepoint [] d₁.log d₁.connections) c (.savepoint (s.savepoints + 1))
    have hmarks : Marks ref d c (s.savepoints + 1) f d₂ := by
      refine .mk hconn htakes ?_
      simpa using Desk.Takes.trans (.after d₁ s.countSavepoint d₁.log rfl) htakes₂
    have hn : s.countSavepoint.savepoints = s.savepoints + 1 := rfl
    cases f with
    | some f =>
      refine ⟨.error f, d₂, ?_, hf.rethrown, .unmarked hmarks⟩
      simp [Session.savepoint, hrun, Except.map, htakes.session_eq, hn, -run_execute, hmark]
    | none =>
      obtain ⟨r, d', hafter, hr', hsaves⟩ := w.run_afterBody ref d body hmarks
      refine ⟨r, d', ?_, hr', hsaves⟩
      simpa [Session.savepoint, hrun, Except.map, htakes.session_eq, hn, -run_execute, hmark]
        using hafter

end Surroundings

end UnitOfWork.Trial
