import UnitOfWork.Proofs.Run

/-!
# Linked programs

Two programs are linked if they go through their work hand in hand: from states that are alike they
reach states that are alike, they make requests that belong together, and whatever these are
answered with, as long as the answers belong together, what is left of them is linked again. What
does not show in the states that are compared, an entry in the log for one, either of them may do by
itself. Linked programs end with outcomes that are alike (`Linked.run`), and putting linked programs
together gives linked programs, so two systems are compared by comparing their smallest operations.
-/

namespace UnitOfWork

variable {S : Signature} {σ σ' α α' β β' : Type}

/-- In what respects two systems are compared. -/
structure Link (S : Signature) (σ σ' : Type) where
  /-- States that are alike. -/
  state : σ → σ' → Prop
  /-- What a change of the first state may come to. -/
  first : σ → σ → Prop
  /-- What a change of the second state may come to. -/
  second : σ' → σ' → Prop
  /-- Requests that belong together. -/
  pairs : (request request' : S.Request) → Prop
  /-- Answers to such requests that belong together. -/
  answers : (request request' : S.Request) →
    Except Fault (S.Answer request) → Except Fault (S.Answer request') → Prop
  /-- Answers to a request that one system makes by itself, if it may make such a request at all. -/
  aside : (request : S.Request) → Option (Except Fault (S.Answer request) → Prop)
  /-- Faults that are alike. -/
  fault : Fault → Fault → Prop
  first_refl : ∀ s, first s s
  second_refl : ∀ s, second s s
  /-- Errors that the systems raise themselves are the same in both. -/
  fault_refl : ∀ f, f.isError = true → fault f f

namespace Link

variable (L : Link S σ σ')

/-- Outcomes that are alike. -/
inductive Outcome (V : α → β → Prop) : Except Fault α → Except Fault β → Prop where
  | ok {a : α} {b : β} (h : V a b) : Outcome V (.ok a) (.ok b)
  | error {f f' : Fault} (h : L.fault f f') : Outcome V (.error f) (.error f')

/-- Changes that keep states alike. -/
def Moves (update : σ → σ) (update' : σ' → σ') : Prop :=
  ∀ s s', L.state s s' → L.state (update s) (update' s') ∧ L.first s (update s)
    ∧ L.second s' (update' s')

variable {L}

/-- Outcomes that are alike are so with respect to less. -/
theorem Outcome.mono {V W : α → β → Prop} {r : Except Fault α} {r' : Except Fault β}
    (h : L.Outcome V r r') (hVW : ∀ a b, V a b → W a b) : L.Outcome W r r' := by
  cases h with
  | ok h => exact .ok (hVW _ _ h)
  | error h => exact .error h

end Link

/-- Programs that go through their work hand in hand. -/
inductive Linked (L : Link S σ σ') (V : α → β → Prop) : Program S σ α → Program S σ' β → Prop where
  | done {r : Except Fault α} {r' : Except Fault β} (h : L.Outcome V r r') :
      Linked L V (.done r) (.done r')
  | act {update : σ → σ} {update' : σ' → σ'} {next : σ → Program S σ α} {next' : σ' → Program S σ' β}
      (hmoves : L.Moves update update')
      (hnext : ∀ s s', L.state s s' → Linked L V (next s) (next' s')) :
      Linked L V (.act update next) (.act update' next')
  | ask {request request' : S.Request} {next : Except Fault (S.Answer request) → Program S σ α}
      {next' : Except Fault (S.Answer request') → Program S σ' β} (hpairs : L.pairs request request')
      (hnext : ∀ answer answer', L.answers request request' answer answer' →
        Linked L V (next answer) (next' answer')) :
      Linked L V (.ask request next) (.ask request' next')
  | actFirst {update : σ → σ} {next : σ → Program S σ α} {p' : Program S σ' β}
      (hmoves : L.Moves update id) (hnext : ∀ s, Linked L V (next s) p') :
      Linked L V (.act update next) p'
  | actSecond {p : Program S σ α} {update' : σ' → σ'} {next' : σ' → Program S σ' β}
      (hmoves : L.Moves id update') (hnext : ∀ s', Linked L V p (next' s')) :
      Linked L V p (.act update' next')
  | askFirst {request : S.Request} {next : Except Fault (S.Answer request) → Program S σ α}
      {p' : Program S σ' β} {may : Except Fault (S.Answer request) → Prop}
      (haside : L.aside request = some may)
      (hnext : ∀ answer, may answer → Linked L V (next answer) p') :
      Linked L V (.ask request next) p'
  | askSecond {p : Program S σ α} {request' : S.Request}
      {next' : Except Fault (S.Answer request') → Program S σ' β}
      {may : Except Fault (S.Answer request') → Prop} (haside : L.aside request' = some may)
      (hnext : ∀ answer', may answer' → Linked L V p (next' answer')) :
      Linked L V p (.ask request' next')

namespace Linked

variable {L : Link S σ σ'} {V : α → α' → Prop} {W : β → β' → Prop} {p : Program S σ α}
  {p' : Program S σ' α'}

/-! ## Programs put together -/

/-- What follows linked programs is linked with what precedes it. -/
theorem andThen (h : Linked L V p p') {next : Except Fault α → Program S σ β}
    {next' : Except Fault α' → Program S σ' β'}
    (hnext : ∀ r r', L.Outcome V r r' → Linked L W (next r) (next' r')) :
    Linked L W (p.andThen next) (p'.andThen next') := by
  induction h with
  | done h => exact hnext _ _ h
  | act hm _ ih => exact .act hm ih
  | ask hp _ ih => exact .ask hp ih
  | actFirst hm _ ih => exact .actFirst hm ih
  | actSecond hm _ ih => exact .actSecond hm ih
  | askFirst ha _ ih => exact .askFirst ha ih
  | askSecond ha _ ih => exact .askSecond ha ih

/-- Failing with faults that are alike is linked. -/
theorem fail {f f' : Fault} (h : L.fault f f') :
    Linked L V (.fail f : Program S σ α) (.fail f') :=
  .done (.error h)

/-- Returning values that belong together is linked. -/
theorem pure {a : α} {a' : α'} (h : V a a') :
    Linked L V (Pure.pure a : Program S σ α) (Pure.pure a' : Program S σ' α') :=
  .done (.ok h)

/-- What follows linked programs that return is linked with them. -/
theorem bind (h : Linked L V p p') {next : α → Program S σ β} {next' : α' → Program S σ' β'}
    (hnext : ∀ a a', V a a' → Linked L W (next a) (next' a')) :
    Linked L W (p >>= next) (p' >>= next') := by
  refine h.andThen fun r r' hr => ?_
  cases hr with
  | ok hv => exact hnext _ _ hv
  | error hf => exact fail hf

/-- Linked programs are rescued hand in hand, if their handlers are linked. -/
theorem rescue (h : Linked L V p p') {handler : Fault → Program S σ α}
    {handler' : Fault → Program S σ' α'}
    (hhandler : ∀ f f', L.fault f f' → Linked L V (handler f) (handler' f')) :
    Linked L V (p.rescue handler) (p'.rescue handler') := by
  refine h.andThen fun r r' hr => ?_
  cases hr with
  | ok hv => exact pure hv
  | error hf => exact hhandler _ _ hf

/-- Clean-ups that are linked keep programs linked, however these end. -/
theorem ensure (h : Linked L V p p') {cleanup : Program S σ Unit} {cleanup' : Program S σ' Unit}
    (hcleanup : Linked L (fun _ _ => True) cleanup cleanup') :
    Linked L V (p.ensure cleanup) (p'.ensure cleanup') :=
  h.andThen fun _ _ hr => hcleanup.bind fun _ _ _ => .done hr

/-- Both go the same way. -/
theorem ite {c : Prop} [Decidable c] {q : Program S σ α} {q' : Program S σ' α'}
    (h : c → Linked L V p p') (h' : ¬ c → Linked L V q q') :
    Linked L V (if c then p else q) (if c then p' else q') := by
  by_cases hc : c
  · rw [if_pos hc, if_pos hc]
    exact h hc
  · rw [if_neg hc, if_neg hc]
    exact h' hc

/-- Programs that are linked are so with respect to less. -/
theorem mono {W : α → α' → Prop} (h : Linked L V p p') (hVW : ∀ a a', V a a' → W a a') :
    Linked L W p p' := by
  induction h with
  | done h => exact .done (h.mono hVW)
  | act hm _ ih => exact .act hm ih
  | ask hp _ ih => exact .ask hp ih
  | actFirst hm _ ih => exact .actFirst hm ih
  | actSecond hm _ ih => exact .actSecond hm ih
  | askFirst ha _ ih => exact .askFirst ha ih
  | askSecond ha _ ih => exact .askSecond ha ih

/-- Reading what belongs together is linked. -/
theorem read {f : σ → α} {f' : σ' → α'} (h : ∀ s s', L.state s s' → V (f s) (f' s')) :
    Linked L V (.read f : Program S σ α) (.read f') :=
  .act (fun s s' hs => ⟨hs, L.first_refl s, L.second_refl s'⟩) fun s s' hs => .done (.ok (h s s' hs))

/-- Changes that keep states alike are linked. -/
theorem change {f : σ → σ} {f' : σ' → σ'} (h : L.Moves f f') :
    Linked L (fun _ _ => True) (.change f : Program S σ Unit) (.change f') :=
  .act h fun _ _ _ => .done (.ok trivial)

/-- What each does by itself, one does after the other. -/
theorem beside {V : Unit → Unit → Prop} {p : Program S σ Unit} {p' : Program S σ' Unit}
    (hfirst : Linked L V p (Pure.pure ())) (hsecond : Linked L V (Pure.pure ()) p') :
    Linked L V p p' := by
  generalize hq : (Pure.pure () : Program S σ' Unit) = q at hfirst
  induction hfirst with
  | done h =>
    cases hq
    cases h with
    | ok h => exact hsecond
  | actFirst hm _ ih => exact .actFirst hm fun s => ih s hq
  | askFirst ha _ ih => exact .askFirst ha fun a hmay => ih a hmay hq
  | _ => cases hq

/-- What the first does by itself, without failing, comes before what is linked. -/
theorem andThenFirst {V : Unit → Unit → Prop} {p : Program S σ Unit} (h : Linked L V p (Pure.pure ()))
    {next : Except Fault Unit → Program S σ β} {q' : Program S σ' β'}
    (hnext : Linked L W (next (.ok ())) q') : Linked L W (p.andThen next) q' := by
  generalize hq : (Pure.pure () : Program S σ' Unit) = q at h
  induction h with
  | done h =>
    cases hq
    cases h with
    | ok h => exact hnext
  | actFirst hm _ ih => exact .actFirst hm fun s => ih s hq
  | askFirst ha _ ih => exact .askFirst ha fun a hmay => ih a hmay hq
  | _ => cases hq

/-- What the first does by itself comes before what is linked, in a sequence too. -/
theorem afterFirst {V : Unit → Unit → Prop} {p : Program S σ Unit} (h : Linked L V p (Pure.pure ()))
    {next : Unit → Program S σ β} {q' : Program S σ' β'} (hnext : Linked L W (next ()) q') :
    Linked L W (p >>= next) q' :=
  h.andThenFirst hnext

end Linked

/-! ## Runs -/

/-- Servers that answer requests alike and keep states alike. -/
structure Link.Serves (L : Link S σ σ') (serve : Server S σ) (serve' : Server S σ') : Prop where
  pairs : ∀ request request' s s', L.pairs request request' → L.state s s' →
    L.answers request request' (serve request s).1 (serve' request' s').1
      ∧ L.state (serve request s).2 (serve' request' s').2
  first : ∀ request may s s', L.aside request = some may → L.state s s' →
    may (serve request s).1 ∧ L.state (serve request s).2 s'
  second : ∀ request may s s', L.aside request = some may → L.state s s' →
    may (serve' request s').1 ∧ L.state s (serve' request s').2

/-- Linked programs that run from states that are alike have outcomes that are alike and leave
states that are alike. -/
theorem Linked.run {L : Link S σ σ'} {V : α → α' → Prop} {p : Program S σ α} {p' : Program S σ' α'}
    (h : Linked L V p p') {serve : Server S σ} {serve' : Server S σ'} (hserve : L.Serves serve serve')
    {s : σ} {s' : σ'} (hs : L.state s s') :
    L.Outcome V (p.run serve s).1 (p'.run serve' s').1
      ∧ L.state (p.run serve s).2 (p'.run serve' s').2 := by
  induction h generalizing s s' with
  | done h => exact ⟨h, hs⟩
  | act hm _ ih => exact ih s s' hs (hm s s' hs).1
  | ask hp _ ih =>
    obtain ⟨hanswers, hs₁⟩ := hserve.pairs _ _ s s' hp hs
    exact ih _ _ hanswers hs₁
  | actFirst hm _ ih => exact ih s (hm s s' hs).1
  | actSecond hm _ ih => exact ih s' (hm s s' hs).1
  | askFirst ha _ ih =>
    obtain ⟨hmay, hs₁⟩ := hserve.first _ _ s s' ha hs
    exact ih _ hmay hs₁
  | askSecond ha _ ih =>
    obtain ⟨hmay, hs₁⟩ := hserve.second _ _ s s' ha hs
    exact ih _ hmay hs₁

end UnitOfWork
