import UnitOfWork.Proofs.Linked.Programs

/-!
# Linked programs, step by step

A program that other programs interrupt is compared with one that runs alone. Where the first makes
one step, the second can go on so far that the two are linked again (`Linked.act_step`,
`Linked.ask_step`), and where the first has ended, so does the second (`Linked.done_step`). How far
it went does not show in where its run ends. A program that is linked with any other is confined:
whatever it is answered with, each of its steps changes the state only as its link allows
(`Linked.confined`).
-/

namespace UnitOfWork

variable {S : Signature} {σ σ' α α' : Type}

namespace Linked

variable {L : Link S σ σ'} {V : α → α' → Prop} {p' : Program S σ' α'} {s : σ} {s' : σ'}
  {serve' : Server S σ'}
  (hserve : ∀ request may s s', L.aside request = some may → L.state s s' →
    may (serve' request s').1 ∧ L.state s (serve' request s').2)

include hserve

/-- Where the first has ended, the second ends alike. -/
theorem done_step {r : Except Fault α} (h : Linked L V (.done r) p') (hs : L.state s s') :
    L.Outcome V r (p'.run serve' s').1 ∧ L.state s (p'.run serve' s').2 := by
  generalize hp : (Program.done r : Program S σ α) = p at h
  induction h generalizing s' with
  | done h =>
    cases hp
    exact ⟨h, hs⟩
  | actSecond hm _ ih => exact ih s' (hm s s' hs).1 hp
  | askSecond ha _ ih =>
    obtain ⟨hmay, hs₁⟩ := hserve _ _ s s' ha hs
    exact ih _ hmay hs₁ hp
  | _ => cases hp

/-- After a change of the state by the first, the second can go on to where they are linked
again. -/
theorem act_step {update : σ → σ} {next : σ → Program S σ α} (h : Linked L V (.act update next) p')
    (hs : L.state s s') :
    ∃ q' t', Linked L V (next s) q' ∧ L.state (update s) t' ∧ p'.run serve' s' = q'.run serve' t' := by
  generalize hp : Program.act update next = p at h
  induction h generalizing s' with
  | act hm hnext _ =>
    cases hp
    exact ⟨_, _, hnext s s' hs, (hm s s' hs).1, rfl⟩
  | actFirst hm hnext _ =>
    cases hp
    exact ⟨_, s', hnext s, (hm s s' hs).1, rfl⟩
  | actSecond hm _ ih => exact ih s' (hm s s' hs).1 hp
  | askSecond ha _ ih =>
    obtain ⟨hmay, hs₁⟩ := hserve _ _ s s' ha hs
    exact ih _ hmay hs₁ hp
  | _ => cases hp

/-- Before a request of the first, the second can go on to a request that belongs to it, unless the
first makes the request by itself. -/
theorem ask_step {request : S.Request} {next : Except Fault (S.Answer request) → Program S σ α}
    (h : Linked L V (.ask request next) p') (hs : L.state s s') :
    (∃ request' next' t', L.pairs request request' ∧ L.state s t'
        ∧ (∀ answer answer', L.answers request request' answer answer' →
          Linked L V (next answer) (next' answer'))
        ∧ p'.run serve' s' = (Program.ask request' next').run serve' t')
      ∨ ∃ may q' t', L.aside request = some may ∧ L.state s t'
        ∧ (∀ answer, may answer → Linked L V (next answer) q') ∧ p'.run serve' s' = q'.run serve' t' := by
  generalize hp : Program.ask request next = p at h
  induction h generalizing s' with
  | ask hpairs hnext _ =>
    cases hp
    exact .inl ⟨_, _, s', hpairs, hs, hnext, rfl⟩
  | askFirst ha hnext _ =>
    cases hp
    exact .inr ⟨_, _, s', ha, hs, hnext, rfl⟩
  | actSecond hm _ ih => exact ih s' (hm s s' hs).1 hp
  | askSecond ha _ ih =>
    obtain ⟨hmay, hs₁⟩ := hserve _ _ s s' ha hs
    exact ih _ hmay hs₁ hp
  | _ => cases hp

end Linked

/-! ## Confined programs -/

/-- Whatever a program is answered with, as long as its answers are due, each of its steps changes
the state as is allowed. -/
def Program.Confined (allowed : σ → σ → Prop)
    (due : (request : S.Request) → Except Fault (S.Answer request) → Prop) : Program S σ α → Prop
  | done _ => True
  | act update next => ∀ s, allowed s (update s) ∧ (next s).Confined allowed due
  | ask request next => ∀ answer, due request answer → (next answer).Confined allowed due

/-- Answers that a system may get when it is compared with another one. -/
def Link.Due (L : Link S σ σ') (request : S.Request) (answer : Except Fault (S.Answer request)) : Prop :=
  (∀ request', L.pairs request request' → ∃ answer', L.answers request request' answer answer')
    ∧ ∀ may, L.aside request = some may → may answer

/-- A program that is linked with another one is confined. -/
theorem Linked.confined {L : Link S σ σ'} {V : α → α' → Prop} {p : Program S σ α} {p' : Program S σ' α'}
    (h : Linked L V p p') (hstate : ∀ s, ∃ s', L.state s s') (somewhere : σ')
    (haside : ∀ request may, L.aside request = some may → ∃ answer, may answer) :
    p.Confined L.first L.Due := by
  induction h with
  | done => trivial
  | act hm _ ih =>
    intro s
    obtain ⟨s', hs⟩ := hstate s
    exact ⟨(hm s s' hs).2.1, ih s s' hs⟩
  | ask hpairs _ ih =>
    intro answer hdue
    obtain ⟨answer', hanswers⟩ := hdue.1 _ hpairs
    exact ih answer answer' hanswers
  | actFirst hm _ ih =>
    intro s
    obtain ⟨s', hs⟩ := hstate s
    exact ⟨(hm s s' hs).2.1, ih s⟩
  | actSecond _ _ ih => exact ih somewhere
  | askFirst ha _ ih => exact fun answer hdue => ih answer (hdue.2 _ ha)
  | askSecond ha _ ih =>
    obtain ⟨answer', hmay⟩ := haside _ _ ha
    exact ih answer' hmay

/-- What a confined program comes to is allowed, if its server answers with what is due and changes
the state as is allowed. -/
theorem Program.Confined.run {allowed : σ → σ → Prop}
    {due : (request : S.Request) → Except Fault (S.Answer request) → Prop} {p : Program S σ α}
    (h : p.Confined allowed due) (hrefl : ∀ s, allowed s s)
    (htrans : ∀ s s₁ s₂, allowed s s₁ → allowed s₁ s₂ → allowed s s₂) {serve : Server S σ}
    (hserve : ∀ request s, due request (serve request s).1 ∧ allowed s (serve request s).2) (s : σ) :
    allowed s (p.run serve s).2 := by
  induction p generalizing s with
  | done r => exact hrefl s
  | act update next ih => exact htrans _ _ _ (h s).1 (ih s (h s).2 (update s))
  | ask request next ih =>
    exact htrans _ _ _ (hserve request s).2 (ih _ (h _ (hserve request s).1) _)

end UnitOfWork
