import UnitOfWork.Proofs.Errand.Basic
import UnitOfWork.Proofs.Linked.Scopes

/-!
# Linked errands

Two errands are alike if they do the same as long as they get back what is alike. On grounds that
are linked their programs are linked (`Errand.Alike.play`): the scopes that they run, with
everything inside, go through their work hand in hand.
-/

namespace UnitOfWork

open Trial (SessionCall)

variable {S : Signature} {σ σ' υ α : Type} {L : SessionLink S σ σ'}

/-- Every call of linked sessions is linked. -/
theorem Session.Linked.perform {s : Session S σ} {s' : Session S σ'} (h : Session.Linked L s s')
    (call : SessionCall) : UnitOfWork.Linked L.toLink Eq (call.perform s) (call.perform s') := by
  cases call with
  | setIsolation level => exact (h.setIsolation level).bind fun _ _ _ => .pure rfl
  | connection => exact h.connection
  | query text => exact (h.query text).bind fun _ _ _ => .pure rfl
  | queueMessage channel message => exact (h.queueMessage channel message).bind fun _ _ _ => .pure rfl
  | commit => exact h.commit.bind fun _ _ _ => .pure rfl
  | rollback => exact h.rollback.bind fun _ _ _ => .pure rfl
  | close => exact h.close.bind fun _ _ _ => .pure rfl

/-- Notes that are alike. -/
inductive Note.Alike (L : SessionLink S σ σ') : Note α → Note α → Prop where
  | began (ref : SessionRef) : Alike L (.began ref) (.began ref)
  | ended (ref : SessionRef) : Alike L (.ended ref) (.ended ref)
  | settled {r r' : Except Fault α} (h : L.Outcome Eq r r') : Alike L (.settled r) (.settled r')
  | current {r r' : Except Fault SessionRef} (h : L.Outcome Eq r r') :
      Alike L (.current r) (.current r')
  | queued (channel : Text) (message : Option Json) {r r' : Except Fault Unit}
      (h : L.Outcome (fun _ _ => True) r r') :
      Alike L (.queued channel message r) (.queued channel message r')

/-- Errands that do the same as long as they get back what is alike. Identifiers that they read are
related by `named`. -/
inductive Errand.Alike (L : SessionLink S σ σ') (named : Text → Text → Prop) :
    Errand υ α → Errand υ α → Prop where
  | done {r r' : Except Fault α} (h : L.Outcome Eq r r') : Alike L named (.done r) (.done r')
  | act (update : υ → υ) {next next' : υ → Errand υ α} (h : ∀ own, Alike L named (next own) (next' own)) :
      Alike L named (.act update next) (.act update next')
  | consult (question : Json) {next next' : Except Fault Json → Errand υ α}
      (h : ∀ r r', L.Outcome Eq r r' → Alike L named (next r) (next' r')) :
      Alike L named (.consult question next) (.consult question next')
  | current {next next' : Except Fault SessionRef → Errand υ α}
      (h : ∀ r r', L.Outcome Eq r r' → Alike L named (next r) (next' r')) :
      Alike L named (.current next) (.current next')
  | queue (channel : Text) (message : Option Json) {next next' : Except Fault Unit → Errand υ α}
      (h : ∀ r r', L.Outcome (fun _ _ => True) r r' → Alike L named (next r) (next' r')) :
      Alike L named (.queue channel message next) (.queue channel message next')
  | openSession {next next' : SessionRef → Errand υ α} (h : ∀ ref, Alike L named (next ref) (next' ref)) :
      Alike L named (.openSession next) (.openSession next')
  | identify (ref : SessionRef) {next next' : Text → Errand υ α}
      (h : ∀ id id', named id id' → Alike L named (next id) (next' id')) :
      Alike L named (.identify ref next) (.identify ref next')
  | look (ref : SessionRef) {next next' : SessionState → Errand υ α}
      (h : ∀ x x', L.Kin x x' → Alike L named (next x) (next' x')) :
      Alike L named (.look ref next) (.look ref next')
  | use (ref : SessionRef) (c : Connection) (text : Text) {next next' : Except Fault Unit → Errand υ α}
      (h : ∀ r r', L.Outcome (fun _ _ => True) r r' → Alike L named (next r) (next' r')) :
      Alike L named (.use ref c text next) (.use ref c text next')
  | call (ref : SessionRef) (call : SessionCall)
      {next next' : Except Fault (Option Connection) → Errand υ α}
      (h : ∀ r r', L.Outcome Eq r r' → Alike L named (next r) (next' r')) :
      Alike L named (.call ref call next) (.call ref call next')
  | savepoint (ref : SessionRef) {body body' : Errand υ α} {next next' : Except Fault α → Errand υ α}
      (hbody : Alike L named body body')
      (h : ∀ r r', L.Outcome Eq r r' → Alike L named (next r) (next' r')) :
      Alike L named (.savepoint ref body next) (.savepoint ref body' next')
  | bind (ref : SessionRef) {body body' : Errand υ α} {next next' : Except Fault α → Errand υ α}
      (hbody : Alike L named body body')
      (h : ∀ r r', L.Outcome Eq r r' → Alike L named (next r) (next' r')) :
      Alike L named (.bind ref body next) (.bind ref body' next')
  | inScope (commit : Bool) {work work' : SessionRef → Errand υ α}
      {next next' : Except Fault α → Errand υ α} (hwork : ∀ ref, Alike L named (work ref) (work' ref))
      (h : ∀ r r', L.Outcome Eq r r' → Alike L named (next r) (next' r')) :
      Alike L named (.inScope commit work next) (.inScope commit work' next')
  | serialized (limit rate : Number) {work work' : SessionRef → Errand υ α}
      {next next' : Except Fault α → Errand υ α} (hwork : ∀ ref, Alike L named (work ref) (work' ref))
      (h : ∀ r r', L.Outcome Eq r r' → Alike L named (next r) (next' r')) :
      Alike L named (.serialized limit rate work next) (.serialized limit rate work' next')

namespace Ground

/-- Grounds that are linked. -/
structure Linked (L : SessionLink S σ σ') (named : Text → Text → Prop) (mine : SessionRef → Prop)
    (g : Ground S σ υ α) (g' : Ground S σ' υ α) : Prop where
  registry : Registry.Linked L mine g.registry g'.registry
  named : ∀ ref, mine ref → named (g.registry.session ref).id (g'.registry.session ref).id
  own : ∀ s s', L.state s s' → g.own.get s = g'.own.get s'
  update : ∀ f, L.Moves (g.own.update f) (g'.own.update f)
  holds_eq : ∀ ref s s', L.state s s' → g.holds ref s = g'.holds ref s'
  mine_of_holds : ∀ ref s s', L.state s s' → g.holds ref s = true → mine ref
  consult : ∀ question, UnitOfWork.Linked L.toLink Eq (g.consult question) (g'.consult question)
  retry : ∀ limit rate, (g.retry limit rate).Linked L (g'.retry limit rate)
  note : ∀ n n', n.Alike L n' → L.Moves (g.note n) (g'.note n')

namespace Linked

variable {named : Text → Text → Prop} {mine : SessionRef → Prop} {g : Ground S σ υ α}
  {g' : Ground S σ' υ α} (h : Linked L named mine g g')

include h

/-- What is done with a session that counts is linked, and fails alike where the session is not
held. -/
theorem reaching {β : Type} {V : β → β → Prop} {ref : SessionRef} {p : Program S σ β}
    {p' : Program S σ' β} (hp : mine ref → UnitOfWork.Linked L.toLink V p p') :
    UnitOfWork.Linked L.toLink V (g.reaching ref p) (g'.reaching ref p') := by
  refine .act (fun s s' hs => ⟨hs, L.first_refl s, L.second_refl s'⟩) fun s s' hs => ?_
  rw [← h.holds_eq ref s s' hs]
  exact .ite (fun hholds => hp (h.mine_of_holds ref s s' hs hholds)) fun _ => .fail (L.fault_refl _ rfl)

/-- Notes that are alike keep programs linked. -/
theorem noting {β : Type} {V : β → β → Prop} {n n' : Note α} (hn : n.Alike L n') {p : Program S σ β}
    {p' : Program S σ' β} (hp : UnitOfWork.Linked L.toLink V p p') :
    UnitOfWork.Linked L.toLink V (g.noting n p) (g'.noting n' p') :=
  .act (h.note n n' hn) fun _ _ _ => hp

/-- What runs within a binding stays linked, with its beginning and its end noted. -/
theorem within (ref : SessionRef) {scope : Scope} {body : Scoped S σ α} {body' : Scoped S σ' α}
    (hbody : UnitOfWork.Linked L.toLink Eq (body scope) (body' scope)) :
    UnitOfWork.Linked L.toLink Eq (g.within ref body scope) (g'.within ref body' scope) :=
  h.noting (.began ref) (hbody.andThen fun _ _ hr => h.noting (.ended ref) (.done hr))

end Linked

end Ground

/-- Errands that are alike are linked on linked grounds. -/
theorem Errand.Alike.play {named : Text → Text → Prop} {mine : SessionRef → Prop} {g : Ground S σ υ α}
    {g' : Ground S σ' υ α} (hg : Ground.Linked L named mine g g') {e e' : Errand υ α}
    (h : e.Alike L named e') {scope : Scope} (hscope : scope.Within mine g.registry.ref) :
    Linked L.toLink Eq (e.play g scope) (e'.play g' scope) := by
  induction h generalizing scope with
  | done h => exact .done h
  | act update _ ih =>
    refine .act (hg.update update) fun s s' hs => ?_
    rw [← hg.own s s' hs]
    exact ih _ hscope
  | consult question _ ih => exact (hg.consult question).andThen fun r r' hr => ih r r' hr hscope
  | current _ ih =>
    refine (hg.registry.current hscope).andThen fun r r' hr => ?_
    have hr' := hr.mono fun _ _ h => h.1
    exact hg.noting (.current hr') (ih r r' hr' hscope)
  | queue channel message _ ih =>
    refine (hg.registry.queueMessage hscope channel message).andThen fun r r' hr => ?_
    exact hg.noting (.queued channel message hr) (ih r r' hr hscope)
  | openSession _ ih =>
    refine hg.registry.create.bind fun ref ref' href => ?_
    obtain ⟨rfl, -⟩ := href
    exact ih ref hscope
  | identify ref _ ih =>
    exact (hg.reaching fun hmine => .pure (hg.named ref hmine)).bind fun id id' hid =>
      ih id id' hid hscope
  | look ref _ ih =>
    exact (hg.reaching fun hmine => (hg.registry.session ref hmine).loads).bind fun x x' hx =>
      ih x x' hx hscope
  | use ref c text _ ih =>
    exact (hg.reaching fun hmine => (hg.registry.session ref hmine).execute c _ _ (.same _)).andThen
      fun r r' hr => ih r r' hr hscope
  | call ref call _ ih =>
    exact (hg.reaching fun hmine => (hg.registry.session ref hmine).perform call).andThen
      fun r r' hr => ih r r' hr hscope
  | savepoint ref _ _ ihbody ih =>
    exact (hg.reaching fun hmine => (hg.registry.session ref hmine).savepoint (ihbody hscope)).andThen
      fun r r' hr => ih r r' hr hscope
  | bind ref _ _ ihbody ih =>
    refine (hg.reaching fun hmine => hg.registry.bind ?_).andThen fun r r' hr => ih r r' hr hscope
    exact hg.within ref (ihbody (hscope.cons hmine))
  | inScope commit _ _ ihwork ih =>
    refine (hg.registry.runScoped commit fun ref hmine => ?_).andThen fun r r' hr =>
      hg.noting (.settled hr) (ih r r' hr hscope)
    exact hg.within ref (ihwork ref (hscope.cons hmine))
  | serialized limit rate _ _ ihwork ih =>
    refine (hg.registry.runSerialized (hg.retry limit rate) fun ref hmine => ?_).andThen fun r r' hr =>
      hg.noting (.settled hr) (ih r r' hr hscope)
    exact hg.within ref (ihwork ref (hscope.cons hmine))

end UnitOfWork
