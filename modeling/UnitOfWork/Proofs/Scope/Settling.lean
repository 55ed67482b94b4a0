import UnitOfWork.Proofs.Serialized.Effects
import UnitOfWork.Proofs.Session.HandingOver

/-!
# How a scope settles

A scope runs work in a session of its own, commits if that was asked for, rolls back after a failure
and closes the session. `Finishes` lists what can follow the work, and `run_scope` reads the run of
a scope as one of these cases. `runScoped_settles` says that the outcome is that of the work and
then the commit, whatever fails in the clean-up, and that messages are handed over by commits that
succeed and by nothing else.
-/

namespace UnitOfWork.Trial

variable {υ α : Type} {s s' : SessionState} {H block : List SessionEvent}

/-! ## Handing over within commits -/

/-- Messages are handed over only as the last thing within a call of `commit` that succeeds. -/
def InCommits (H : List SessionEvent) : Prop :=
  ∀ P messages S, H = P ++ .handedOver messages :: S →
    ∃ P₀ B S', P = P₀ ++ .called .commit :: B ∧ (∀ call, .called call ∉ B)
      ∧ S = .settled .commit none :: S'

/-- Where nothing is handed over, whatever is so is within a commit. -/
theorem inCommits_of_batches (h : batches H = []) : InCommits H := by
  rintro P messages S rfl
  exact absurd h batches_ne_nil

/-- Two histories that hand over within commits do so one after the other. -/
theorem InCommits.append {X : List SessionEvent} (h : InCommits H) (hX : InCommits X) :
    InCommits (H ++ X) := by
  intro P messages S heq
  rcases append_eq_append_cons heq with ⟨S₀, hH, rfl⟩ | ⟨Y, rfl, hXY⟩
  · obtain ⟨P₀, B, S', rfl, hB, rfl⟩ := h P messages S₀ hH
    exact ⟨P₀, B, S' ++ X, rfl, hB, rfl⟩
  · obtain ⟨P₀, B, S', rfl, hB, rfl⟩ := hX Y messages S hXY
    exact ⟨H ++ P₀, B, S', (List.append_assoc ..).symm, hB, rfl⟩

/-- A step that is no driver's hands over only within a commit. -/
theorem SessionStep.inCommits {a : Action} (h : SessionStep s a block s') (ha : ∀ c, a ≠ .drive c) :
    InCommits block := by
  cases h with
  | @called call inner f _ hdoes =>
    have hcalls := hdoes.not_called
    rcases hdoes.hands with hquiet | ⟨rfl, rfl, b, rfl, hb, -⟩
    · refine inCommits_of_batches ?_
      rw [batches_append, batches_append, hquiet]
      rfl
    · intro P messages S heq
      have hplace : [.called .commit] ++ b ++ handing s.outbox.entries ++ [.settled .commit none]
          = P ++ .handedOver messages :: S := by rw [← heq]; simp
      have hb' : batches ([.called .commit] ++ b) = [] := by rw [batches_append, hb]; rfl
      obtain ⟨rfl, -, rfl⟩ := eq_of_append_handing hb' rfl hplace
      exact ⟨[], b, [], rfl, fun call hc => hcalls call (List.mem_append_left _ hc), rfl⟩
  | driven hdoes => exact absurd rfl (ha _)
  | connected hconn => exact inCommits_of_batches (batches_of_quiet hconn.quiet)
  | _ => exact inCommits_of_batches rfl

/-- What is handed over in a part of a history is handed over within commits, and nothing else is
published. -/
structure HandsInCommits (history : List Event) : Prop where
  within : ∀ ref, InCommits (sessionEvents ref history)
  published : publishedOf history ⊆ handed history

/-- Two parts of a history that hand over within commits do so together. -/
theorem HandsInCommits.append {h h' : List Event} (hh : HandsInCommits h) (hh' : HandsInCommits h') :
    HandsInCommits (h ++ h') := by
  refine ⟨fun ref => ?_, ?_⟩
  · rw [sessionEvents_append]
    exact (hh.within ref).append (hh'.within ref)
  · rw [publishedOf_append, handed_append]
    exact List.append_subset.2 ⟨fun m hm => List.mem_append_left _ (hh.published hm),
      fun m hm => List.mem_append_right _ (hh'.published hm)⟩

/-- Where no commit succeeds, nothing is handed over and nothing is published. -/
theorem HandsInCommits.silent {history : List Event} (h : HandsInCommits history)
    (hnone : ∀ ref, .settled .commit none ∉ sessionEvents ref history) :
    handed history = [] ∧ publishedOf history = [] := by
  have hbatch : history.filterMap Event.batch? = [] := by
    refine List.filterMap_eq_nil_iff.2 fun e he => ?_
    cases e with
    | session ref e =>
      cases e with
      | handedOver messages =>
        have hmem : .handedOver messages ∈ sessionEvents ref history :=
          List.mem_filterMap.2 ⟨_, he, Event.of?_session ref _⟩
        obtain ⟨P, S, heq⟩ := List.append_of_mem hmem
        obtain ⟨P₀, B, S', -, -, rfl⟩ := h.within ref P messages S heq
        exact absurd (by simp [heq]) (hnone ref)
      | _ => rfl
    | _ => rfl
  have hhanded : handed history = [] := by rw [handed, hbatch, List.flatten_nil]
  exact ⟨hhanded, List.subset_nil.1 (hhanded ▸ h.published)⟩

/-- An event beside the sessions that publishes nothing. -/
theorem HandsInCommits.note {e : Event} (he : ∀ ref, e.of? ref = none) (hm : e.message? = none) :
    HandsInCommits [e] := by
  refine ⟨fun ref => ?_, by simp [publishedOf, hm]⟩
  have hnil : sessionEvents ref [e] = [] := by simp [sessionEvents, he]
  exact inCommits_of_batches (hnil ▸ rfl)

/-- Nothing is handed over where nothing happens. -/
theorem HandsInCommits.nil : HandsInCommits [] :=
  ⟨fun _ => inCommits_of_batches rfl, List.Subset.refl _⟩

/-- A step without a driver hands over only within commits. -/
theorem DeskStep.handsInCommits {d d' : Desk υ} (h : DeskStep Label.Regular d d') :
    ∃ more, d'.history = d.history ++ more ∧ HandsInCommits more := by
  cases h with
  | @session ref a block s _ hrule ho hstep htakes =>
    obtain ⟨more, hmore, -, -, hhanded, hpublished⟩ := htakes.effects
    refine ⟨more, hmore, fun r => ?_, hhanded ▸ hpublished⟩
    by_cases hr : r = ref
    · subst hr
      have hevents := htakes.eventsOf_eq
      rw [Desk.eventsOf, hmore, sessionEvents_append] at hevents
      rw [List.append_cancel_left hevents]
      exact hstep.inCommits fun c hc => by subst hc; exact hrule
    · have hevents := htakes.eventsOf_of_ne hr
      rw [Desk.eventsOf, hmore, sessionEvents_append, Desk.eventsOf, List.append_right_eq_self]
        at hevents
      rw [hevents]
      exact inCommits_of_batches rfl
  | opens hrule => exact ⟨_, rfl, .note (fun _ => rfl) rfl⟩
  | kept own log => exact ⟨[], (List.append_nil _).symm, .nil⟩
  | consulted question => exact ⟨_, rfl, .note (fun _ => rfl) rfl⟩

/-- Work hands over only within commits. -/
theorem Walk.handsInCommits {d d' : Desk υ} (h : Walk Label.Regular d d') :
    ∃ more, d'.history = d.history ++ more ∧ HandsInCommits more := by
  induction h with
  | refl => exact ⟨[], (List.append_nil _).symm, .nil⟩
  | tail _ hstep ih =>
    obtain ⟨more, hmore, hhands⟩ := ih
    obtain ⟨more', hmore', hhands'⟩ := hstep.handsInCommits
    exact ⟨more ++ more', by rw [hmore', hmore, List.append_assoc], hhands.append hhands'⟩

/-! ## What follows the work -/

/-- What can follow the work of a scope up to its closing: the outcome of the scope and the desk
that is left. -/
inductive Finishes (commit : Bool) (ref : SessionRef) (d : Desk υ) :
    Except Fault α → Except Fault α → Desk υ → Prop where
  | kept {a : α} (h : commit = false) : Finishes commit ref d (.ok a) (.ok a) d
  | committed {a : α} {d₁ : Desk υ} (h : commit = true) (hcommit : d.Drives ref .commit none d₁) :
      Finishes commit ref d (.ok a) (.ok a) d₁
  | notCommitted {a : α} {f : Fault} {g : Option Fault} {d₁ d₂ : Desk υ} (h : commit = true)
      (hcommit : d.Drives ref .commit (some f) d₁) (hrollback : d₁.Drives ref .rollback g d₂) :
      Finishes commit ref d (.ok a) (.error f) d₂
  | failed {f : Fault} {g : Option Fault} {d₁ : Desk υ} (hrollback : d.Drives ref .rollback g d₁) :
      Finishes commit ref d (.error f) (.error f) d₁

/-- The outcome of a scope: that of its work, and then that of the commit if one was asked for. -/
def scopeOutcome (commit : Bool) (work : Except Fault α) (committing : Except Fault Unit) :
    Except Fault α :=
  work >>= fun a => if commit then committing.map fun _ => a else .ok a

section

variable (w : Surroundings) (commit : Bool) (ref : SessionRef)

/-- A failure inside a scope is followed by a rollback, the failure of which is logged and no
more. -/
theorem run_abandon {f : Fault} (hf : f.Sayable) (d : Desk υ) :
    ∃ g d', (Registry.abandon (w.session ref) f : Program Calls (Desk υ) α).run w.serve d
        = (.error f, d')
      ∧ d.Drives ref .rollback g d' := by
  unfold Registry.abandon
  rw [Program.run_bind, w.run_enterFault ref d hf]
  generalize w.enteredFault _ _ _ _ f d.log = log
  obtain ⟨g, d', hrun, block, s, hdoes, htakes⟩ := w.run_rollbackReporting ref
    (d.after ref (d.sessions ref) [] log d.connections) "Rollback of scoped transaction failed"
    (w.session (υ := υ) ref).mark
  refine ⟨g, d', by simp [hrun], block, s, ?_, ?_⟩
  · rwa [Desk.after_sessions] at hdoes
  · exact Desk.Takes.trans (.after d _ log rfl) htakes

/-- A session is closed and an entry is written about it, and neither fails. -/
theorem run_closing (d : Desk υ) (level : Level) (message : Text) (fields : Json.Members) :
    ∃ d', (do
        (w.session ref).close
        (w.session ref).journal.write level message fields : Program Calls (Desk υ) Unit).run w.serve d
        = (.ok (), d')
      ∧ d.Drives ref .close none d' := by
  obtain ⟨d₁, hclose, hdrives⟩ := w.run_close ref d
  refine ⟨_, ?_, hdrives.withLog (w.entered d₁.history level message fields d₁.log)⟩
  rw [Program.run_bind, hclose]
  exact w.run_write level message fields d₁

/-- What a scope does after its work up to its closing: a commit if one was asked for, and what
follows a failure. -/
theorem run_finishing {r : Except Fault α} (hr : Settles r) {p : Program Calls (Desk υ) α}
    {d d₁ : Desk υ} (hp : p.run w.serve d = (r, d₁)) (level : Level) (message : Text)
    (fields : Json.Members) :
    ∃ outcome d₂, ((do
        let a ← p
        if commit then
          (w.session ref).commit
          (w.session ref).journal.write level message fields
        return a : Program Calls (Desk υ) α).rescue (Registry.abandon (w.session ref))).run w.serve d
        = (outcome, d₂)
      ∧ outcome = scopeOutcome commit r ((w.session ref).commit.run w.serve d₁).1
      ∧ Finishes commit ref d₁ r outcome d₂ := by
  rw [Program.run_rescue, Program.run_bind, hp]
  cases r with
  | error f =>
    obtain ⟨g, d₂, hrun, hdrives⟩ := run_abandon (α := α) w ref (settles_error.1 hr) d₁
    exact ⟨.error f, d₂, hrun, rfl, .failed hdrives⟩
  | ok a =>
    cases hcommit : commit with
    | false => exact ⟨.ok a, d₁, rfl, rfl, .kept rfl⟩
    | true =>
      obtain ⟨rc, d₂, hrun, hrc, hdrives⟩ := (w.performs_commit ref d₁).drives
      cases rc with
      | ok u =>
        have hlogged := hdrives.withLog (w.entered d₂.history level message fields d₂.log)
        refine ⟨.ok a, _, ?_, ?_, .committed rfl hlogged⟩
        · simp [hrun, Desk.after]
        · rw [hrun]
          rfl
      | error f =>
        obtain ⟨g, d₃, habandon, hrollback⟩ := run_abandon (α := α) w ref
          (settles_error.1 hrc) d₂
        refine ⟨.error f, d₃, ?_, ?_, .notCommitted rfl hdrives hrollback⟩
        · simp [hrun, habandon]
        · rw [hrun]
          rfl

/-- A scope runs its work in a session that is opened for it, and goes on as `Finishes` says. -/
theorem run_scope {work : SessionRef → Scope → Work υ α} {scope : Scope} {d d₁ : Desk υ}
    {r : Except Fault α} (hr : Settles r)
    (hrun : ((work d.opened (w.bound scope d.opened)).play w).run w.serve d.openSession.2 = (r, d₁)) :
    ∃ outcome d₂ d', (w.registry.runScoped commit (fun ref scope => (work ref scope).play w)
        scope).run w.serve d = (outcome, d')
      ∧ outcome = scopeOutcome commit r ((w.session d.opened).commit.run w.serve d₁).1
      ∧ Finishes commit d.opened d₁ r outcome d₂ ∧ d₂.Drives d.opened .close none d' := by
  obtain ⟨outcome, d₂, hfinish, houtcome, hfinishes⟩ := run_finishing w commit d.opened hr hrun
    .debug "DB session auto-committed as requested" (w.session (υ := υ) d.opened).mark
  obtain ⟨d', hclose, hdrives⟩ := run_closing w d.opened d₂ .debug
    "Session complete, db session closed" (w.session (υ := υ) d.opened).mark
  refine ⟨outcome, d₂, d', ?_, houtcome, hfinishes, hdrives⟩
  have hscope : (w.registry.runScoped commit (fun ref scope => (work ref scope).play w) scope).run
      w.serve d = (((do
        let a ← (work d.opened (w.bound scope d.opened)).play w
        if commit then
          (w.session d.opened).commit
          (w.session d.opened).journal.write .debug "DB session auto-committed as requested"
            (w.session (υ := υ) d.opened).mark
        return a : Program Calls (Desk υ) α).rescue (Registry.abandon (w.session d.opened))).ensure
        (do
          (w.session d.opened).close
          (w.session d.opened).journal.write .debug "Session complete, db session closed"
            (w.session (υ := υ) d.opened).mark)).run w.serve d.openSession.2 := rfl
  rw [hscope, Program.run_ensure, hfinish, hclose]

end

/-! ## The whole scope -/

/-- What a scope does after its work is steps of its own session. -/
theorem Finishes.walk {commit : Bool} {ref : SessionRef} {d d' : Desk υ} {r outcome : Except Fault α}
    (h : Finishes commit ref d r outcome d') (ho : ref < d.opened) : Walk Label.Closes d d' := by
  cases h with
  | kept h => exact .refl
  | committed h hcommit => exact .single (hcommit.step ho trivial)
  | notCommitted h hcommit hrollback =>
    have hwalk : Walk Label.Closes d _ := .single (hcommit.step ho trivial)
    exact hwalk.tail (hrollback.step (Nat.lt_of_lt_of_le ho hwalk.opened_le) trivial)
  | failed hrollback => exact .single (hrollback.step ho trivial)

/-- What is handed over after the work of a scope: what waited, if a commit was asked for and the
scope returns, and nothing otherwise; and nothing else is published. -/
structure HandsAtEnd (commit : Bool) (outcome : Except Fault α) (waiting : List Message)
    (history : List Event) : Prop where
  committed : commit = true → ∀ a, outcome = .ok a → handed history = waiting
  uncommitted : (commit = true → ∃ f, outcome = .error f) → handed history = []
  published : publishedOf history ⊆ handed history

section

variable {commit : Bool} {outcome : Except Fault α} {waiting : List Message} {more more' : List Event}

/-- Nothing is handed over where nothing is due. -/
theorem HandsAtEnd.of_idle (hdue : commit = true → ∃ f, outcome = .error f)
    (hidle : ∀ e ∈ more, e.Idle) : HandsAtEnd commit outcome waiting more := by
  obtain ⟨-, hhanded, hpublished⟩ := no_effects fun e he => (hidle e he).1
  refine ⟨fun hc a ha => ?_, fun _ => hhanded, hpublished ▸ List.nil_subset _⟩
  obtain ⟨f, hf⟩ := hdue hc
  rw [ha] at hf
  cases hf

/-- Idle events after the end of a scope hand nothing over. -/
theorem HandsAtEnd.append_idle (h : HandsAtEnd commit outcome waiting more)
    (hidle : ∀ e ∈ more', e.Idle) : HandsAtEnd commit outcome waiting (more ++ more') := by
  obtain ⟨-, hhanded, hpublished⟩ := no_effects fun e he => (hidle e he).1
  have hsame : handed (more ++ more') = handed more := by simp [hhanded]
  refine ⟨hsame ▸ h.committed, hsame ▸ h.uncommitted, ?_⟩
  rw [hsame, publishedOf_append, hpublished, List.append_nil]
  exact h.published

/-- A scope hands over at its end what waits, if it commits and that succeeds, and nothing else. -/
theorem Finishes.handsAtEnd {ref : SessionRef} {d d' : Desk υ} {r : Except Fault α}
    (h : Finishes commit ref d r outcome d') :
    ∃ more, d'.history = d.history ++ more
      ∧ HandsAtEnd commit outcome (d.sessions ref).outbox.entries more := by
  cases h with
  | kept h =>
    refine ⟨[], (List.append_nil _).symm, .of_idle (fun hc => ?_) (by simp)⟩
    rw [h] at hc
    cases hc
  | committed h hcommit =>
    obtain ⟨block, s, hdoes, htakes⟩ := hcommit
    obtain ⟨more, hmore, -, -, hhanded, hpublished⟩ := htakes.effects
    refine ⟨more, hmore, fun _ _ _ => hhanded.trans hdoes.of_committed.2, fun hdue => ?_,
      hhanded ▸ hpublished⟩
    obtain ⟨f, hf⟩ := hdue h
    cases hf
  | @notCommitted a f g d₁ _ h hcommit hrollback =>
    obtain ⟨more, hmore, hidle⟩ :=
      (hcommit.adds_idle fun _ => Option.some_ne_none f).trans (hrollback.adds_idle nofun)
    exact ⟨more, hmore, .of_idle (fun _ => ⟨f, rfl⟩) hidle⟩
  | @failed f g _ hrollback =>
    obtain ⟨more, hmore, hidle⟩ := hrollback.adds_idle nofun
    exact ⟨more, hmore, .of_idle (fun _ => ⟨f, rfl⟩) hidle⟩

end

/-- How a scope settles over a session, whose work has the outcome `r` and leaves the desk `d`: with
an outcome and a desk `d'`, and with what is added to the history during the work and after it. -/
structure ScopeSettled (w : Surroundings) (commit : Bool) (ref : SessionRef) (r : Except Fault α)
    (d : Desk υ) (outcome : Except Fault α) (d' : Desk υ) (during after : List Event) : Prop where
  /-- The outcome is the fault of the work; or that of the commit, if one was asked for; or what the
  work returned. -/
  outcome_eq : outcome = scopeOutcome commit r ((w.session ref).commit.run w.serve d).1
  closed : (d'.sessions ref).closed = true
  returned_once : ∀ c ∈ taken (d'.eventsOf ref), returned c (d'.eventsOf ref) = 1
  during_work : HandsInCommits during
  after_work : HandsAtEnd commit outcome (d.sessions ref).outbox.entries after
  /-- If the work fails and no call of `commit` in it succeeded, nothing is handed over or published
  at all. -/
  silent : (∃ f, r = .error f) → (∀ ref, .settled .commit none ∉ sessionEvents ref during) →
    handed (during ++ after) = [] ∧ publishedOf (during ++ after) = []

/-- However work ends in a scope, with or without a commit at its end and whatever fails, the scope
settles as `ScopeSettled` says, as long as log entries can say what the work fails with. -/
theorem runScoped_settles (w : Surroundings) {work : SessionRef → Scope → Work υ α}
    (hwork : ∀ ref scope, (work ref scope).Sayable) (commit : Bool) (scope : Scope) {d : Desk υ}
    (hd : d.WellFormed true) :
    ∃ r d₁ outcome d' during after,
      ((work d.opened (w.bound scope d.opened)).play w).run w.serve d.openSession.2 = (r, d₁)
      ∧ (w.registry.runScoped commit (fun ref scope => (work ref scope).play w) scope).run w.serve d
        = (outcome, d')
      ∧ d₁.history = d.openSession.2.history ++ during ∧ d'.history = d₁.history ++ after
      ∧ ScopeSettled w commit d.opened r d₁ outcome d' during after := by
  have hopen := hd.openSession
  rcases hrun : ((work d.opened (w.bound scope d.opened)).play w).run w.serve d.openSession.2
    with ⟨r, d₁⟩
  obtain ⟨hr, hwalk⟩ := Work.walk_regular (hwork _ _) hopen.orderly hrun
  have ho : d.opened < d₁.opened := Nat.lt_of_lt_of_le (Nat.lt_succ_self _) hwalk.opened_le
  obtain ⟨outcome, d₂, d', hscope, houtcome, hfinishes, hclose⟩ := run_scope w commit hr hrun
  have hafter := hfinishes.walk ho
  have hd' : d'.WellFormed true :=
    ((hopen.regular hwalk).walk hafter fun _ _ => Label.Closes.within).drives
      (Nat.lt_of_lt_of_le ho hafter.opened_le) hclose
  obtain ⟨during, hduring, hwithin⟩ := hwalk.handsInCommits
  obtain ⟨more, hmore, hends⟩ := hfinishes.handsAtEnd
  obtain ⟨more', hmore', hidle⟩ := hclose.adds_idle nofun
  refine ⟨r, d₁, outcome, d', during, more ++ more', rfl, hscope, hduring,
    by rw [hmore', hmore, List.append_assoc], houtcome, hclose.closed, fun c hc => ?_, hwithin,
    hends.append_idle hidle, ?_⟩
  · exact (hd'.reachable d.opened).returned_of_closed hclose.closed hc
  · rintro ⟨f, rfl⟩ hnone
    obtain ⟨hduring₀, hpublished₀⟩ := hwithin.silent hnone
    have hafter₀ := (hends.append_idle hidle).uncommitted fun _ => ⟨f, houtcome⟩
    have hpublished := (hends.append_idle hidle).published
    rw [hafter₀] at hpublished
    rw [handed_append, publishedOf_append, hduring₀, hpublished₀, hafter₀,
      List.subset_nil.1 hpublished]
    exact ⟨rfl, rfl⟩

/-- Surroundings in which no transaction can be rolled back and no connection given back. -/
def unclean : Surroundings :=
  .failing ⟨.connectionFailed, "gone"⟩ fun _ request =>
    match request with
    | .execute _ _ .rollback | .release _ _ => true
    | _ => false

/-- Work that queues a message in a transaction and then fails. -/
def outOfStock (ref : SessionRef) (_ : Scope) : Work Unit Unit :=
  .call ref .connection fun _ =>
  .call ref (.queueMessage "orders" (some (.str "paid"))) fun _ =>
  .done (.error (.named "RangeError" "out of stock"))

/-- The fault of the work is the outcome though the clean-up fails too; the connection is given back
once and nothing is handed over. -/
theorem settles_outOfStock :
    let e : Except Fault Unit := .error (.named "RangeError" "out of stock")
    ∃ d₁ d' during after,
      (unclean.registry.runScoped false (fun ref scope => (outOfStock ref scope).play unclean) []).run
        unclean.serve { own := () } = (e, d')
      ∧ ScopeSettled unclean false 0 e d₁ e d' during after
      ∧ returned ⟨1⟩ (d'.eventsOf 0) = 1 ∧ handed d'.history = [] := by
  intro e
  have hwork : ∀ ref scope, (outOfStock ref scope).Sayable :=
    fun _ _ _ _ _ _ => settles_of_isError rfl
  obtain ⟨r, d₁, outcome, d', during, after, hrun, hscope, hduring, hafter, hsettled⟩ :=
    runScoped_settles unclean hwork false [] (.start true ())
  have hr : r = e := (congrArg Prod.fst hrun).symm.trans rfl
  have houtcome : outcome = e := (congrArg Prod.fst hscope).symm.trans rfl
  subst hr houtcome
  have hd' : _ = d' := congrArg Prod.snd hscope
  have hends : ⟨1⟩ ∈ taken (d'.eventsOf 0) ∧ handed d'.history = [] := by
    rw [← hd']
    decide +kernel
  exact ⟨d₁, d', during, after, hscope, hsettled, hsettled.returned_once _ hends.1, hends.2⟩

/-- A value that log entries cannot tell is replaced by the fault of telling it. -/
theorem thrown_without_text :
    let e : Fault := .value (some (.obj [("toString", .ofNat 1)]))
    ((Surroundings.calm.registry.runScoped false
        (fun _ _ => (.done (.error e) : Work Unit Unit).play .calm) []).run Surroundings.calm.serve
        { own := () }).1 = .error .noPlainText
      ∧ e ≠ .noPlainText :=
  ⟨rfl, nofun⟩

end UnitOfWork.Trial
