import UnitOfWork.Proofs.Linked.Sessions
import UnitOfWork.Session.Serialized

/-!
# Linked scopes

Two registries are linked if they create the same sessions, by their places, and these are linked.
Sessions of one side may be left out of the comparison: `mine` are the sessions that count, and what
a registry creates counts. Then a scope around linked work is linked (`Registry.Linked.runScoped`),
and so is a serialized transaction, through all of its attempts (`Registry.Linked.runSerialized`).
-/

namespace UnitOfWork

variable {S : Signature} {σ σ' α β : Type}

namespace Registry

/-- Registries that are linked. -/
structure Linked (L : SessionLink S σ σ') (mine : SessionRef → Prop) (r : Registry S σ)
    (r' : Registry S σ') : Prop where
  ref_eq : r.ref = r'.ref
  create : UnitOfWork.Linked L.toLink (fun ref ref' => ref = ref' ∧ mine ref) r.create r'.create
  session : ∀ ref, mine ref → Session.Linked L (r.session ref) (r'.session ref)

end Registry

/-- Ways to retry that are linked. -/
structure Retry.Linked (L : SessionLink S σ σ') (t : Retry S σ) (t' : Retry S σ') : Prop where
  maxAttempts_eq : t.maxAttempts = t'.maxAttempts
  wait : ∃ D : Number → Number → Prop, UnitOfWork.Linked L.toLink D t.draw t'.draw
    ∧ ∀ x x', D x x' → UnitOfWork.Linked L.toLink (fun _ _ => True)
      (t.sleep (Backoff.delayMs t.rate x)) (t'.sleep (Backoff.delayMs t'.rate x'))

/-- The sessions that are bound for a registry are among those that count. -/
def Scope.Within (mine : SessionRef → Prop) (registry : RegistryRef) (scope : Scope) : Prop :=
  ∀ b ∈ scope, b.registry = registry → mine b.session

/-- Binding one more session that counts keeps the bound ones among those that count. -/
theorem Scope.Within.cons {mine : SessionRef → Prop} {registry : RegistryRef} {scope : Scope}
    (h : scope.Within mine registry) {ref : SessionRef} (href : mine ref) :
    Scope.Within mine registry (⟨registry, ref⟩ :: scope) :=
  List.forall_mem_cons.2 ⟨fun _ => href, h⟩

namespace Registry.Linked

variable {L : SessionLink S σ σ'} {mine : SessionRef → Prop} {r : Registry S σ} {r' : Registry S σ'}

/-- Linked registries have the same session bound. -/
theorem current?_eq (h : Linked L mine r r') (scope : Scope) : r.current? scope = r'.current? scope := by
  rw [Registry.current?, Registry.current?, h.ref_eq]

/-- The session that is bound counts. -/
theorem mine_of_current? {scope : Scope} (hscope : scope.Within mine r.ref) {ref : SessionRef}
    (h : r.current? scope = some ref) : mine ref := by
  obtain ⟨b, hfind, rfl⟩ := Option.map_eq_some_iff.1 h
  exact hscope b (List.mem_of_find?_eq_some hfind) (by simpa using List.find?_some hfind)

section

variable (h : Linked L mine r r')

include h

/-- Linked registries tell the same session, and one that counts. -/
theorem current {scope : Scope} (hscope : scope.Within mine r.ref) :
    UnitOfWork.Linked L.toLink (fun ref ref' => ref = ref' ∧ mine ref) (r.current scope)
      (r'.current scope) := by
  rw [Registry.current, Registry.current, ← h.current?_eq]
  cases hcurrent : r.current? scope with
  | none => exact .fail (L.fault_refl _ rfl)
  | some ref => exact .pure ⟨rfl, mine_of_current? hscope hcurrent⟩

/-- Queueing through linked registries is linked. -/
theorem queueMessage {scope : Scope} (hscope : scope.Within mine r.ref) (channel : Text)
    (message : Option Json) :
    UnitOfWork.Linked L.toLink (fun _ _ => True) (r.queueMessage channel message scope)
      (r'.queueMessage channel message scope) := by
  refine (h.current hscope).bind fun ref ref' href => ?_
  obtain ⟨rfl, hmine⟩ := href
  exact (h.session ref hmine).queueMessage channel message

end

/-! ## Scopes -/

/-- Giving up a scope is linked, if its sessions are. -/
theorem abandon {V : α → α → Prop} {s : Session S σ} {s' : Session S σ'} (hs : Session.Linked L s s')
    {f f' : Fault} (hf : L.fault f f') :
    UnitOfWork.Linked L.toLink V (Registry.abandon s f) (Registry.abandon s' f') := by
  refine (hs.journal.writeFault hf ..).bind fun _ _ _ => ?_
  refine UnitOfWork.Linked.bind (V := fun _ _ => True) ?_ fun _ _ _ => .fail hf
  exact hs.rollback.rescue fun g g' hg => hs.journal.writeFault hg ..

variable {V : α → α → Prop} {work : SessionRef → Scoped S σ α} {work' : SessionRef → Scoped S σ' α}
  {scope : Scope}

/-- Work that is linked with a session bound is linked in the scope of that session. -/
theorem bind (h : Linked L mine r r') {ref : SessionRef} {p : Scoped S σ α} {p' : Scoped S σ' α}
    (hp : UnitOfWork.Linked L.toLink V (p (⟨r.ref, ref⟩ :: scope)) (p' (⟨r.ref, ref⟩ :: scope))) :
    UnitOfWork.Linked L.toLink V (r.bind ref p scope) (r'.bind ref p' scope) := by
  rw [Registry.bind, Registry.bind, ← h.ref_eq]
  exact hp

/-- A scope around linked work is linked. -/
theorem runScoped (h : Linked L mine r r') (commit : Bool)
    (hwork : ∀ ref, mine ref → UnitOfWork.Linked L.toLink V (work ref (⟨r.ref, ref⟩ :: scope))
      (work' ref (⟨r.ref, ref⟩ :: scope))) :
    UnitOfWork.Linked L.toLink V (r.runScoped commit work scope) (r'.runScoped commit work' scope) := by
  refine h.create.bind fun ref ref' href => ?_
  obtain ⟨rfl, hmine⟩ := href
  have hs := h.session ref hmine
  refine UnitOfWork.Linked.ensure (UnitOfWork.Linked.rescue ?_ fun f f' hf => abandon hs hf) ?_
  · refine (h.bind (hwork ref hmine)).bind fun a a' ha => .ite (fun _ => ?_) fun _ => .pure ha
    exact hs.commit.bind fun _ _ _ => (hs.journal.write ..).bind fun _ _ _ => .pure ha
  · exact hs.close.bind fun _ _ _ => hs.journal.write ..

/-! ## Serialized transactions -/

/-- Concluding an attempt that failed is linked, if its sessions are and what a conflict leads
to. -/
theorem concludeAttempt {W : β → β → Prop} {s : Session S σ} {s' : Session S σ'}
    (hs : Session.Linked L s s') (attempt : Nat) {onConflict : Fault → Program S σ β}
    {onConflict' : Fault → Program S σ' β}
    (hconflict : ∀ f f', L.fault f f' →
      UnitOfWork.Linked L.toLink W (onConflict f) (onConflict' f')) {f f' : Fault}
    (hf : L.fault f f') :
    UnitOfWork.Linked L.toLink W (Registry.concludeAttempt s attempt onConflict f)
      (Registry.concludeAttempt s' attempt onConflict' f') := by
  refine UnitOfWork.Linked.bind (V := fun _ _ => True) ?_ fun _ _ _ => ?_
  · exact hs.rollback.rescue fun g g' hg => hs.journal.writeFault hg ..
  · rw [L.conflict_eq f f' hf]
    exact .ite (fun _ => hconflict f f' hf) fun _ => .fail hf

/-- What an attempt does is linked. -/
theorem attemptSerialized {W : β → β → Prop} (h : Linked L mine r r') (attempt : Nat)
    (hwork : ∀ ref, mine ref → UnitOfWork.Linked L.toLink V (work ref (⟨r.ref, ref⟩ :: scope))
      (work' ref (⟨r.ref, ref⟩ :: scope)))
    {result : α → β} (hresult : ∀ a a', V a a' → W (result a) (result a'))
    {onConflict : Session S σ → Nat → Fault → Program S σ β}
    {onConflict' : Session S σ' → Nat → Fault → Program S σ' β}
    (hconflict : ∀ s s', Session.Linked L s s' → ∀ f f', L.fault f f' →
      UnitOfWork.Linked L.toLink W (onConflict s attempt f) (onConflict' s' attempt f')) :
    UnitOfWork.Linked L.toLink W (r.attemptSerialized work scope attempt result onConflict)
      (r'.attemptSerialized work' scope attempt result onConflict') := by
  refine h.create.bind fun ref ref' href => ?_
  obtain ⟨rfl, hmine⟩ := href
  have hs := h.session ref hmine
  refine UnitOfWork.Linked.ensure (UnitOfWork.Linked.rescue ?_ fun f f' hf =>
    concludeAttempt hs attempt (fun f f' hf => hconflict _ _ hs f f' hf) hf) hs.close
  refine (hs.setIsolation _).bind fun _ _ _ => (h.bind (hwork ref hmine)).bind fun a a' ha => ?_
  exact hs.commit.bind fun _ _ _ => .pure (hresult a a' ha)

/-- Attempts are linked, however many there are. -/
theorem attemptsFrom (h : Linked L mine r r') {t : Retry S σ} {t' : Retry S σ'} (ht : t.Linked L t')
    (hwork : ∀ ref, mine ref → UnitOfWork.Linked L.toLink V (work ref (⟨r.ref, ref⟩ :: scope))
      (work' ref (⟨r.ref, ref⟩ :: scope))) (further attempt : Nat) :
    UnitOfWork.Linked L.toLink V (r.attemptsFrom t work scope further attempt)
      (r'.attemptsFrom t' work' scope further attempt) := by
  induction further generalizing attempt with
  | zero =>
    refine h.attemptSerialized attempt hwork (fun _ _ ha => ha) fun s s' hs f f' hf => ?_
    exact (hs.journal.writeFault hf ..).bind fun _ _ _ => .fail (L.retriesExhausted _ f f' hf)
  | succ further ih =>
    have hattempt : UnitOfWork.Linked L.toLink (Option.Rel V)
        (r.attemptSerialized work scope attempt some Registry.tryAgain)
        (r'.attemptSerialized work' scope attempt some Registry.tryAgain) := by
      refine h.attemptSerialized attempt hwork (fun _ _ ha => .some ha) fun s s' hs f f' _ => ?_
      exact (hs.journal.write ..).bind fun _ _ _ => .pure .none
    refine hattempt.bind fun o o' ho => ?_
    cases ho with
    | some ha => exact .pure ha
    | none =>
      obtain ⟨D, hdraw, hsleep⟩ := ht.wait
      exact hdraw.bind fun x x' hx => (hsleep x x' hx).bind fun _ _ _ => ih (attempt + 1)

/-- A serialized transaction of linked work is linked. -/
theorem runSerialized (h : Linked L mine r r') {t : Retry S σ} {t' : Retry S σ'} (ht : t.Linked L t')
    (hwork : ∀ ref, mine ref → UnitOfWork.Linked L.toLink V (work ref (⟨r.ref, ref⟩ :: scope))
      (work' ref (⟨r.ref, ref⟩ :: scope))) :
    UnitOfWork.Linked L.toLink V (r.runSerialized t work scope) (r'.runSerialized t' work' scope) := by
  rw [Registry.runSerialized, Registry.runSerialized, ht.maxAttempts_eq]
  exact h.attemptsFrom ht hwork _ 1

end Registry.Linked

end UnitOfWork
