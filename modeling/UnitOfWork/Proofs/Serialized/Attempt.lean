import UnitOfWork.Proofs.Session.Bracketing

/-!
# Attempts at a serialized transaction

`Attempted` says what one attempt at a serialized transaction does, from the opening of its session
to the closing: work runs with the session bound (`Ran`), a commit follows work that returns
(`Worked`), a rollback follows whatever failed, and the session is closed in the end.
`run_attemptSerialized` reads the run of an attempt as one of these cases. Its outcome is that of
the work and then the commit; failures of the clean-up do not show in it.
-/

namespace UnitOfWork.Trial

variable {υ α β : Type}

/-! ## Work inside an attempt -/

/-- Notes that the work of an attempt has ended, with the messages that wait in its session. -/
def Desk.noteEnd (ref : SessionRef) (f : Option Fault) (d : Desk υ) : Desk υ :=
  d.note (.workEnded ref (d.sessions ref).outbox.entries f)

namespace Surroundings

variable (w : Surroundings)

/-- Work in the scope of an attempt's session, noted when it begins and when it ends. -/
def working (work : SessionRef → Scope → Work υ α) (ref : SessionRef) :
    Scoped Calls (Desk υ) α := fun scope => do
  .change (Desk.note (.workBegan ref ((w.registry : Registry Calls (Desk υ)).current? scope)))
  ((work ref scope).play w).andThen fun r =>
    .act (Desk.noteEnd ref (Fault.of? r)) fun _ => .done r

/-- What an attempt is about: work and then the commit, in a session that was just opened. -/
def attempt (work : SessionRef → Scope → Work υ α) (scope : Scope) (ref : SessionRef) :
    Program Calls (Desk υ) α := do
  (w.session ref).setIsolation .serializable
  let a ← w.registry.bind ref (w.working work ref) scope
  (w.session ref).commit
  return a

/-- The scope inside an attempt: its session is bound. -/
def bound (scope : Scope) (ref : SessionRef) : Scope :=
  ⟨w.registryRef, ref⟩ :: scope

/-- In the scope of an attempt its session is the current one. -/
theorem current?_bound (scope : Scope) (ref : SessionRef) :
    (w.registry : Registry Calls (Desk υ)).current? (w.bound scope ref) = some ref := by
  simp [Registry.current?, bound, registry]

/-- The work of an attempt runs with its session bound, and its beginning and its end are noted. -/
theorem run_working {work : SessionRef → Scope → Work υ α} {scope : Scope} {ref : SessionRef}
    {d d' : Desk υ} {r : Except Fault α}
    (h : ((work ref (w.bound scope ref)).play w).run w.serve (d.note (.workBegan ref (some ref)))
      = (r, d')) :
    ((w.registry.bind ref (w.working work ref) scope).run w.serve d)
      = (r, d'.noteEnd ref (Fault.of? r)) := by
  show (w.working work ref (w.bound scope ref)).run w.serve d = _
  simp [working, current?_bound, h]

end Surroundings

/-! ## Calls of a driver -/

/-- A driver calls an operation of a session, which ends with a fault or without. -/
def Desk.Drives (ref : SessionRef) (call : SessionCall) (f : Option Fault) (d d' : Desk υ) : Prop :=
  ∃ block s, Does (d.sessions ref) call block f s ∧ d.Takes ref block s d'

/-- What is logged does not count among what a session goes through. -/
theorem Desk.Takes.withLog {ref : SessionRef} {block : List SessionEvent} {s : SessionState}
    {d d' : Desk υ} (h : d.Takes ref block s d') (log : Log) :
    d.Takes ref block s { d' with log := log } :=
  ⟨h.sessions, h.opened, h.connections, h.fresh, h.ordered, h.history⟩

/-- What is logged does not count in a call by a driver. -/
theorem Desk.Drives.withLog {ref : SessionRef} {call : SessionCall} {f : Option Fault}
    {d d' : Desk υ} (h : d.Drives ref call f d') (log : Log) :
    d.Drives ref call f { d' with log := log } := by
  obtain ⟨block, s, hdoes, htakes⟩ := h
  exact ⟨block, s, hdoes, htakes.withLog log⟩

/-- A driver's call is a step. -/
theorem Desk.Drives.step {rule : Label → Prop} {ref : SessionRef} {call : SessionCall}
    {f : Option Fault} {d d' : Desk υ} (h : d.Drives ref call f d') (ho : ref < d.opened)
    (hrule : rule (.on ref (.drive call))) : DeskStep rule d d' := by
  obtain ⟨block, s, hdoes, htakes⟩ := h
  exact .session hrule ho (.driven hdoes) htakes

/-- A driver's closing of a session leaves it closed. -/
theorem Desk.Drives.closed {ref : SessionRef} {f : Option Fault} {d d' : Desk υ}
    (h : d.Drives ref .close f d') : (d'.sessions ref).closed = true := by
  obtain ⟨block, s, hdoes, htakes⟩ := h
  rw [htakes.session_eq]
  exact hdoes.close.2

namespace Surroundings

variable (w : Surroundings)

/-- A driver's call settles, and does what `Does` says. -/
theorem Performs.drives {ref : SessionRef} {d : Desk υ} {call : SessionCall}
    {p : Program Calls (Desk υ) α} (h : w.Performs ref d call p) :
    ∃ r d', p.run w.serve d = (r, d') ∧ Settles r ∧ d.Drives ref call (Fault.of? r) d' := by
  obtain ⟨r, block, s, d', hrun, hr, hdoes, htakes⟩ := h
  exact ⟨r, d', hrun, hr, block, s, hdoes, htakes⟩

/-- The isolation level of a new session can be set. -/
theorem run_setIsolation_of_new (ref : SessionRef) (d : Desk υ) (hnew : d.sessions ref = {})
    (level : Isolation) :
    ∃ d', ((w.session ref).setIsolation level).run w.serve d = (.ok (), d')
      ∧ d.Drives ref (.setIsolation level) none d' := by
  obtain ⟨r, d', hrun, -, block, s, hdoes, htakes⟩ := (w.performs_setIsolation ref d level).drives
  rw [hnew] at hdoes
  cases r with
  | ok u => exact ⟨d', hrun, block, s, hnew ▸ hdoes, htakes⟩
  | error f =>
    cases hdoes with
    | barred h hc => cases h
    | notIsolated ho ha => cases ha

/-- Closing a session never fails. -/
theorem run_close (ref : SessionRef) (d : Desk υ) :
    ∃ d', (w.session ref).close.run w.serve d = (.ok (), d') ∧ d.Drives ref .close none d' := by
  obtain ⟨r, d', hrun, -, block, s, hdoes, htakes⟩ := (w.performs_close ref d).drives
  cases r with
  | ok u => exact ⟨d', hrun, block, s, hdoes, htakes⟩
  | error f => exact absurd hdoes.close.1 (by simp)

/-- A rollback whose failure is only reported never fails. -/
theorem run_rollbackReporting (ref : SessionRef) (d : Desk υ) (message : Text)
    (fields : Json.Members) :
    ∃ g d', ((w.session ref).rollback.rescue fun g =>
        (w.session ref).journal.writeFault .error message fields g).run w.serve d = (.ok (), d')
      ∧ d.Drives ref .rollback g d' := by
  obtain ⟨r, d₁, hrun, hr, hdrives⟩ := (w.performs_rollback ref d).drives
  rw [Program.run_rescue, hrun]
  cases r with
  | ok u => exact ⟨none, d₁, rfl, hdrives⟩
  | error g => exact ⟨some g, _, w.run_writeFault (settles_error.1 hr) _ _ _ d₁, hdrives.withLog _⟩

end Surroundings

/-! ## One attempt -/

/-- What an attempt comes to: `k` says what becomes of a serialization failure. -/
def concluded (result : α → β) (k : Fault → Except Fault β) : Except Fault α → Except Fault β
  | .ok a => .ok (result a)
  | .error f => if f.isSerializationFailure then k f else .error f

/-- Work has run, with a result and on a desk that it left, in a new session that was set to begin
serializable transactions. -/
inductive Ran (w : Surroundings) (work : SessionRef → Scope → Work υ α) (scope : Scope)
    (d : Desk υ) (r : Except Fault α) (d' : Desk υ) : Prop where
  | intro {d₁ : Desk υ}
      (hset : d.openSession.2.Drives d.opened (.setIsolation .serializable) none d₁)
      (hrun : ((work d.opened (w.bound scope d.opened)).play w).run w.serve
        (d₁.note (.workBegan d.opened (some d.opened))) = (r, d')) : Ran w work scope d r d'

/-- What work and then the commit do in a new session: their outcome and the desk that they
leave. -/
inductive Worked (w : Surroundings) (work : SessionRef → Scope → Work υ α) (scope : Scope)
    (d : Desk υ) : Except Fault α → Desk υ → Prop where
  | committed {a : α} {d₁ d₂ : Desk υ} (hran : Ran w work scope d (.ok a) d₁)
      (hcommit : (d₁.noteEnd d.opened none).Drives d.opened .commit none d₂) :
      Worked w work scope d (.ok a) d₂
  | notCommitted {a : α} {f : Fault} {d₁ d₂ : Desk υ} (hran : Ran w work scope d (.ok a) d₁)
      (hcommit : (d₁.noteEnd d.opened none).Drives d.opened .commit (some f) d₂) :
      Worked w work scope d (.error f) d₂
  | failed {f : Fault} {d₁ : Desk υ} (hran : Ran w work scope d (.error f) d₁) :
      Worked w work scope d (.error f) (d₁.noteEnd d.opened (some f))

/-- What one attempt does: the outcome of work and then the commit, and the desk that is left once
the session is closed. -/
inductive Attempted (w : Surroundings) (work : SessionRef → Scope → Work υ α) (scope : Scope)
    (d : Desk υ) : Except Fault α → Desk υ → Prop where
  | returned {a : α} {d₁ d₂ : Desk υ} (hworked : Worked w work scope d (.ok a) d₁)
      (hclose : d₁.Drives d.opened .close none d₂) : Attempted w work scope d (.ok a) d₂
  | failed {f : Fault} {g : Option Fault} {d₁ d₂ d₃ : Desk υ}
      (hworked : Worked w work scope d (.error f) d₁) (hrollback : d₁.Drives d.opened .rollback g d₂)
      (hclose : d₂.Drives d.opened .close none d₃) : Attempted w work scope d (.error f) d₃

section

variable {w : Surroundings} {work : SessionRef → Scope → Work υ α} {scope : Scope}

/-- A failure is concluded by a rollback, the failure of which is logged and no more. -/
theorem run_concludeAttempt (ref : SessionRef) (number : Nat) {f : Fault} (result : α → β)
    {onConflict : Fault → Program Calls (Desk υ) β} {k : Fault → Except Fault β}
    (hk : ∀ d : Desk υ, ∃ log, (onConflict f).run w.serve d = (k f, { d with log := log }))
    (d : Desk υ) :
    ∃ g d', (Registry.concludeAttempt (w.session ref) number onConflict f).run w.serve d
        = (concluded result k (.error f), d')
      ∧ d.Drives ref .rollback g d' := by
  obtain ⟨g, d₁, hafter, hdrives⟩ := w.run_rollbackReporting ref d
    "Rollback of serialized transaction failed"
    (Registry.attemptMark (w.session ref : Session Calls (Desk υ)) number)
  rw [Registry.concludeAttempt, Program.run_bind, hafter]
  cases hc : f.isSerializationFailure with
  | true =>
    obtain ⟨log, hconflict⟩ := hk d₁
    refine ⟨g, { d₁ with log := log }, ?_, hdrives.withLog log⟩
    simp [hc, hconflict, concluded]
  | false =>
    refine ⟨g, d₁, ?_, hdrives⟩
    simp [hc, concluded]

/-- A driver's call keeps a desk well formed. -/
theorem Desk.FormedBy.drives {d d' : Desk υ} (h : d.FormedBy (Action.Within true)) {ref : SessionRef}
    {call : SessionCall} {f : Option Fault} (ho : ref < d.opened) (hdrives : d.Drives ref call f d') :
    d'.WellFormed true := by
  have hstep : DeskStep Label.Closes d d' := hdrives.step ho trivial
  exact h.step hstep fun _ _ => Label.Closes.within

/-- Work that obeys a rule has run by steps under that rule, and left no savepoint open. -/
theorem Ran.walk {rule : Label → Prop} {d d' : Desk υ} {r : Except Fault α}
    (h : Ran w work scope d r d') (hwork : ∀ ref scope, (work ref scope).Sayable)
    (hrule : (work d.opened (w.bound scope d.opened)).Obeys rule) (hd : d.WellFormed true) :
    ∃ d₁, d.openSession.2.Drives d.opened (.setIsolation .serializable) none d₁
      ∧ Walk (fun l => l.Regular ∧ rule l) (d₁.note (.workBegan d.opened (some d.opened))) d' := by
  obtain @⟨d₁, hset, hrun⟩ := h
  have hd₁ : (d₁.note (.workBegan d.opened (some d.opened))).WellFormed true :=
    (hd.openSession.drives (Nat.lt_succ_self _) hset).note fun _ => rfl
  exact ⟨d₁, hset, (Work.walk_of_run (hwork _ _) hrule hd₁.orderly hrun).2⟩

variable (w work scope)

/-- Work and then the commit, from a desk on which all sessions are reachable, are one of the cases
of `Worked`. -/
theorem run_attempt (hwork : ∀ ref scope, (work ref scope).Sayable) {d : Desk υ}
    (hd : d.WellFormed true) :
    ∃ outcome d', (w.attempt work scope d.opened).run w.serve d.openSession.2 = (outcome, d')
      ∧ Settles outcome ∧ Worked w work scope d outcome d' := by
  obtain ⟨d₁, hrun₁, hset⟩ := w.run_setIsolation_of_new d.opened d.openSession.2
    (hd.unopened d.opened (Nat.le_refl _)).1 .serializable
  have hd₁ : d₁.WellFormed true := hd.openSession.drives (Nat.lt_succ_self _) hset
  rcases hrun₂ : ((work d.opened (w.bound scope d.opened)).play w).run w.serve
    (d₁.note (.workBegan d.opened (some d.opened))) with ⟨r, d₂⟩
  obtain ⟨hr, -⟩ := Work.walk_regular (hwork d.opened (w.bound scope d.opened))
    (hd₁.note fun _ => rfl).orderly
    hrun₂
  rw [Surroundings.attempt, Program.run_bind, hrun₁]
  simp only [Program.run_bind, w.run_working hrun₂]
  cases r with
  | error f => exact ⟨_, _, rfl, hr.rethrown, .failed ⟨hset, hrun₂⟩⟩
  | ok a =>
    obtain ⟨r', d₃, hrun₃, hr', hcommit⟩ :=
      (w.performs_commit d.opened (d₂.noteEnd d.opened none)).drives
    simp only [Fault.of?_ok, hrun₃]
    cases r' with
    | ok u => exact ⟨_, _, rfl, settles_ok a, .committed ⟨hset, hrun₂⟩ hcommit⟩
    | error f =>
      exact ⟨_, _, rfl, hr'.rethrown, .notCommitted ⟨hset, hrun₂⟩ hcommit⟩

/-- The body of an attempt is work and then the commit, up to the result that is asked for. -/
theorem run_body (result : α → β) (ref : SessionRef) (d : Desk υ) :
    (do
      (w.session ref).setIsolation .serializable
      let a ← w.registry.bind ref (w.working work ref) scope
      (w.session ref).commit
      return result a : Program Calls (Desk υ) β).run w.serve d
      = match (w.attempt work scope ref).run w.serve d with
        | (.ok a, d') => (.ok (result a), d')
        | (.error f, d') => (.error f, d') := by
  simp only [Surroundings.attempt, Program.run_bind, Program.run_pure]
  rcases ((w.session ref).setIsolation .serializable).run w.serve d with ⟨_ | _, d₁⟩
  · rfl
  · simp only
    rcases (w.registry.bind ref (w.working work ref) scope).run w.serve d₁ with ⟨_ | _, d₂⟩
    · rfl
    · simp only
      rcases (w.session ref).commit.run w.serve d₂ with ⟨_ | _, d₃⟩ <;> rfl

/-- An attempt, from a desk on which all sessions are reachable, is one of the cases of `Attempted`,
with the outcome that work and then the commit have. -/
theorem run_attemptSerialized (hwork : ∀ ref scope, (work ref scope).Sayable) {d : Desk υ}
    (hd : d.WellFormed true) (number : Nat) (result : α → β)
    {onConflict : Session Calls (Desk υ) → Nat → Fault → Program Calls (Desk υ) β}
    {k : Fault → Except Fault β}
    (hk : ∀ (f : Fault) (ref : SessionRef) (d : Desk υ), f.Sayable →
      ∃ log, (onConflict (w.session ref) number f).run w.serve d = (k f, { d with log := log })) :
    ∃ outcome d', outcome = ((w.attempt work scope d.opened).run w.serve d.openSession.2).1
      ∧ Attempted w work scope d outcome d'
      ∧ (w.registry.attemptSerialized (w.working work) scope number result onConflict).run w.serve d
        = (concluded result k outcome, d') := by
  obtain ⟨outcome, d₁, hrun, hr, hworked⟩ := run_attempt w work scope hwork hd
  have hbody := run_body w work scope result d.opened d.openSession.2
  rw [hrun] at hbody
  have hrun' : (w.registry.attemptSerialized (w.working work) scope number result onConflict).run
      w.serve d = (((do
        (w.session d.opened).setIsolation .serializable
        let a ← w.registry.bind d.opened (w.working work d.opened) scope
        (w.session d.opened).commit
        return result a : Program Calls (Desk υ) β).rescue
          (Registry.concludeAttempt (w.session d.opened) number
            (onConflict (w.session d.opened) number))).ensure
        (w.session d.opened).close).run w.serve d.openSession.2 := rfl
  rw [hrun', Program.run_ensure, Program.run_rescue, hbody, hrun]
  cases outcome with
  | ok a =>
    obtain ⟨d₂, hclose, hdrives⟩ := w.run_close d.opened d₁
    exact ⟨.ok a, d₂, rfl, .returned hworked hdrives, by simp only [hclose]; rfl⟩
  | error f =>
    obtain ⟨g, d₂, hconclude, hrollback⟩ := run_concludeAttempt (w := w) d.opened number result
      (fun e => hk f d.opened e (settles_error.1 hr)) d₁
    obtain ⟨d₃, hclose, hdrives⟩ := w.run_close d.opened d₂
    exact ⟨.error f, d₃, rfl, .failed hworked hrollback hdrives, by simp only [hconclude, hclose]⟩

end

end UnitOfWork.Trial
