import UnitOfWork.Proofs.Trial.Reachable

/-!
# Steps of a session without effects

A step has effects if it commits a transaction or hands over messages. Only a commit that succeeds
does: every other step is quiet, whether it fails or not.
-/

namespace UnitOfWork.Trial

variable {s s' : SessionState} {block : List SessionEvent}

/-- The connection on which a transaction is committed in an event. -/
def SessionEvent.commit? : SessionEvent → Option Connection
  | executed c .commit none => some c
  | _ => none

/-- Nothing is committed or handed over. -/
def SessionEvent.Quiet (e : SessionEvent) : Prop :=
  e.commit? = none ∧ e.batch? = none

/-- Coming to hold a connection commits nothing and hands nothing over. -/
theorem Attaches.quiet {c : Connection} (h : Attaches s block c s') : ∀ e ∈ block, e.Quiet := by
  cases h with
  | kept h => simp
  | borrowed h => simp [SessionEvent.Quiet, SessionEvent.commit?, SessionEvent.batch?]

/-- Connecting commits nothing and hands nothing over. -/
theorem Connects.quiet {r : Except Fault Connection} (h : Connects s block r s') :
    ∀ e ∈ block, e.Quiet := by
  have hbegin : ∀ c level f, (SessionEvent.executed c (.begin level) f).Quiet :=
    fun _ _ _ => ⟨rfl, rfl⟩
  cases h with
  | closed h => simp
  | refused ho h => simp [SessionEvent.Quiet, SessionEvent.commit?, SessionEvent.batch?]
  | kept ho h ha => simp
  | stuck ho h hi => exact List.forall_mem_append.2 ⟨h.quiet, by simp [hbegin]⟩
  | began ho h hi => exact List.forall_mem_append.2 ⟨h.quiet, by simp [hbegin]⟩

/-- Only a commit that succeeds has effects. -/
theorem Does.quiet {call : SessionCall} {f : Option Fault} (h : Does s call block f s')
    (hcall : call = .commit → f ≠ none) : ∀ e ∈ block, e.Quiet := by
  cases h with
  | connected h => exact h.quiet
  | queried h => exact List.forall_mem_append.2 ⟨h.quiet, by
      simp [SessionEvent.Quiet, SessionEvent.commit?, SessionEvent.batch?]⟩
  | notQueried h => exact h.quiet
  | committed ho hc => exact absurd rfl (hcall rfl)
  | flushed ho hc => exact absurd rfl (hcall rfl)
  | _ => simp [SessionEvent.Quiet, SessionEvent.commit?, SessionEvent.batch?]

/-- A step that is no commit has no effects. -/
theorem SessionStep.quiet {a : Action} (h : SessionStep s a block s') (hcall : a ≠ .call .commit)
    (hdrive : a ≠ .drive .commit) : ∀ e ∈ block, e.Quiet := by
  cases h with
  | called hdoes =>
    have hblock := hdoes.quiet fun hc => absurd (congrArg Action.call hc) hcall
    refine List.forall_mem_append.2 ⟨List.forall_mem_append.2 ⟨?_, hblock⟩, ?_⟩ <;>
      simp [SessionEvent.Quiet, SessionEvent.commit?, SessionEvent.batch?]
  | driven hdoes => exact hdoes.quiet fun hc => absurd (congrArg Action.drive hc) hdrive
  | connected hconn => exact hconn.quiet
  | @executed c statement hplain f =>
    cases statement <;> first
      | exact hplain.elim
      | simp [SessionEvent.Quiet, SessionEvent.commit?, SessionEvent.batch?]
  | _ => simp [SessionEvent.Quiet, SessionEvent.commit?, SessionEvent.batch?]

/-- No batch is handed over in a quiet block. -/
theorem batches_of_quiet (h : ∀ e ∈ block, e.Quiet) : batches block = [] :=
  List.filterMap_eq_nil_iff.2 fun e he => (h e he).2

end UnitOfWork.Trial
