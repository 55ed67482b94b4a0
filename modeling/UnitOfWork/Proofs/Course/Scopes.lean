import UnitOfWork.Proofs.Course.Sessions
import UnitOfWork.Session.Serialized

/-!
# Scopes that keep a course

A registry keeps a course if creating a session does, and if of each session that it creates a fact
holds under which the session keeps the course. Work that keeps the course under that fact may then
run in a scope or in a serialized transaction, through all of its attempts.
-/

namespace UnitOfWork

variable {S : Signature} {σ α β : Type} {C : Course S σ}

namespace Registry

/-- Registries that keep a course under a fact. Of each session that is created, `mine` holds. -/
structure Keeps (F : C.Fact) (mine : SessionRef → C.Fact) (r : Registry S σ) : Prop where
  create : ∀ s, F.holds s → ∃ ref s', r.create.run C.serve s = (.ok ref, s') ∧ C.leads s s'
    ∧ (mine ref).holds s'
  session : ∀ ref, (r.session ref).Keeps (mine ref)

namespace Keeps

variable {F : C.Fact} {mine : SessionRef → C.Fact} {r : Registry S σ} (h : r.Keeps F mine)
  {work : SessionRef → Scoped S σ α} {scope : Scope}

include h

/-- A session is created, and what follows keeps the course in it. -/
theorem creating {next : SessionRef → Program S σ β} (hnext : ∀ ref, (mine ref).Keeps (next ref)) :
    F.Keeps (r.create >>= next) := by
  intro s hs
  obtain ⟨ref, s', hrun, hleads, hmine⟩ := h.create s hs
  rw [Program.run_bind, hrun]
  exact C.trans hleads (hnext ref s' hmine)

/-- A scope around work that keeps the course. -/
theorem runScoped (commit : Bool)
    (hwork : ∀ ref, (mine ref).Keeps (work ref (⟨r.ref, ref⟩ :: scope))) :
    F.Keeps (r.runScoped commit work scope) := by
  refine h.creating fun ref => ?_
  have hs := h.session ref
  refine .ensure (.rescue ?_ fun f => ?_) (hs.close.bind fun _ => hs.journal _ _ _)
  · refine Course.Fact.Keeps.bind (hwork ref) fun a => .ite ?_ (.done _)
    exact hs.commit.bind fun _ => (hs.journal _ _ _).bind fun _ => .done _
  · refine (hs.journal.writeFault _ _ _ _).bind fun _ => ?_
    exact .bind (hs.rollback.rescue fun g => hs.journal.writeFault _ _ _ _) fun _ => .done _

/-- An attempt at work that keeps the course. -/
theorem attemptSerialized (attempt : Nat)
    (hwork : ∀ ref, (mine ref).Keeps (work ref (⟨r.ref, ref⟩ :: scope))) {result : α → β}
    {onConflict : Session S σ → Nat → Fault → Program S σ β}
    (hconflict : ∀ ref f, (mine ref).Keeps (onConflict (r.session ref) attempt f)) :
    F.Keeps (r.attemptSerialized work scope attempt result onConflict) := by
  refine h.creating fun ref => ?_
  have hs := h.session ref
  refine .ensure (.rescue ?_ fun f => ?_) hs.close
  · refine (hs.setIsolation _).bind fun _ => Course.Fact.Keeps.bind (hwork ref) fun a => ?_
    exact hs.commit.bind fun _ => .done _
  · refine .bind (hs.rollback.rescue fun g => hs.journal.writeFault _ _ _ _) fun _ => ?_
    exact .ite (hconflict ref f) (.done _)

/-- A serialized transaction of work that keeps the course. -/
theorem runSerialized {t : Retry S σ} (hdraw : F.Keeps t.draw) (hsleep : ∀ ms, F.Keeps (t.sleep ms))
    (hwork : ∀ ref, (mine ref).Keeps (work ref (⟨r.ref, ref⟩ :: scope))) :
    F.Keeps (r.runSerialized t work scope) := by
  rw [Registry.runSerialized]
  generalize Retry.furtherAttempts t.maxAttempts = further
  generalize 1 = attempt
  induction further generalizing attempt with
  | zero =>
    refine h.attemptSerialized attempt hwork fun ref f => ?_
    exact ((h.session ref).journal.writeFault _ _ _ _).bind fun _ => .done _
  | succ further ih =>
    refine .bind (h.attemptSerialized attempt hwork fun ref f => ?_) fun result => ?_
    · exact ((h.session ref).journal _ _ _).bind fun _ => .done _
    · cases result with
      | some a => exact .done _
      | none => exact hdraw.bind fun x => (hsleep _).bind fun _ => ih (attempt + 1)

end Keeps

end Registry

end UnitOfWork
