import Mathlib.Data.List.Forall2
import UnitOfWork.Proofs.Linked.Errands
import UnitOfWork.Proofs.Linked.Publishing

/-!
# Desks that differ in identifiers and isolation levels

Two runs may draw different identifiers for their sessions and begin their transactions at different
isolation levels. Desks, requests, events and faults are alike if they differ in nothing else. Where
two surroundings answer alike requests in the same way after alike histories, they serve alike desks
alike (`Surroundings.Alike.serves`), and sessions, registries and grounds are linked.
-/

namespace UnitOfWork

/-! ## What is alike -/

/-- Faults that differ at most in the identifier of a closed session. -/
inductive Fault.Alike (label label' : SessionRef → Text) : Fault → Fault → Prop where
  | refl (f : Fault) : Alike label label' f f
  | closed (ref : SessionRef) :
      Alike label label' (.sessionState ("Session " ++ label ref ++ " is closed"))
        (.sessionState ("Session " ++ label' ref ++ " is closed"))
  | caused (info : ErrorInfo) {f f' : Fault} (h : Alike label label' f f') :
      Alike label label' (.caused info f) (.caused info f')

namespace Fault.Alike

variable {label label' : SessionRef → Text} {f f' : Fault}

/-- Faults that are alike are conflicts to the same depth. -/
theorem serializationFailureWithin_eq (h : Fault.Alike label label' f f') (depth : Nat) :
    serializationFailureWithin depth f = serializationFailureWithin depth f' := by
  induction depth generalizing f f' with
  | zero => rfl
  | succ depth ih =>
    cases h with
    | refl f => rfl
    | closed ref => rfl
    | caused info h => exact congrArg (_ || ·) (ih h)

/-- Of faults that are alike both can be told or neither. -/
theorem sayable_iff (h : Fault.Alike label label' f f') : f.Sayable ↔ f'.Sayable := by
  cases h with
  | refl f => exact Iff.rfl
  | closed ref => exact iff_of_true (sayable_of_isError rfl) (sayable_of_isError rfl)
  | caused info h => exact iff_of_true (sayable_of_isError rfl) (sayable_of_isError rfl)

end Fault.Alike

namespace Trial

/-- Requests that are the same, but for the isolation level that a transaction begins at. -/
inductive Request.Alike : Request → Request → Prop where
  | refl (request : Request) : Alike request request
  | begin (ref : SessionRef) (c : Connection) (level level' : Isolation) :
      Alike (.execute ref c (.begin level)) (.execute ref c (.begin level'))

/-- Events that are the same, but for the isolation level that a transaction begins at. -/
inductive Event.Alike : Event → Event → Prop where
  | refl (e : Event) : Alike e e
  | begin (ref : SessionRef) (c : Connection) (level level' : Isolation) (fault : Option Fault) :
      Alike (.session ref (.executed c (.begin level) fault))
        (.session ref (.executed c (.begin level') fault))

variable {υ α : Type}

/-- Desks that are the same, but for the isolation levels of sessions and of what has begun, and for
the log and the dead letters. -/
structure Desk.Alike (d d' : Desk υ) : Prop where
  own : d.own = d'.own
  opened : d.opened = d'.opened
  connections : d.connections = d'.connections
  sessions : ∀ ref, ∃ level, d'.sessions ref = { d.sessions ref with isolation := level }
  history : List.Forall₂ Event.Alike d.history d'.history

/-- Surroundings that do the same as long as what happened in them differs at most in isolation
levels. -/
structure Surroundings.Alike (w w' : Surroundings) : Prop where
  fault?_eq : ∀ history history' request request', List.Forall₂ Event.Alike history history' →
    request.Alike request' → w.fault? history request = w'.fault? history' request'
  draw_eq : ∀ history history', List.Forall₂ Event.Alike history history' →
    w.draw history = w'.draw history'
  advice_eq : ∀ history history' question, List.Forall₂ Event.Alike history history' →
    w.advice history question = w'.advice history' question
  publishAttempts_eq : w.publishAttempts = w'.publishAttempts
  registryRef_eq : w.registryRef = w'.registryRef

/-- A history is like itself. -/
theorem forall₂_alike_refl (history : List Event) : List.Forall₂ Event.Alike history history :=
  List.forall₂_same.2 fun e _ => .refl e

namespace Desk.Alike

variable {d d' : Desk υ}

/-- A desk is like itself. -/
theorem refl (d : Desk υ) : d.Alike d :=
  ⟨rfl, rfl, rfl, fun _ => ⟨_, rfl⟩, forall₂_alike_refl _⟩

/-- Desks that are alike stay so by events that are alike. -/
theorem note (h : d.Alike d') {e e' : Event} (he : e.Alike e') : (d.note e).Alike (d'.note e') :=
  ⟨h.own, h.opened, h.connections, h.sessions, List.rel_append h.history (.cons he .nil)⟩

/-- Two sessions are set to states that differ at most in the isolation level. -/
theorem set (h : d.Alike d') (ref : SessionRef) (x : SessionState) (level : Isolation) :
    ((Desk.sessionCell ref).set x d).Alike
      ((Desk.sessionCell ref).set { x with isolation := level } d') := by
  refine ⟨h.own, h.opened, h.connections, fun r => ?_, h.history⟩
  by_cases hr : r = ref
  · subst hr
    exact ⟨level, by simp [Desk.sessionCell]⟩
  · obtain ⟨l, hl⟩ := h.sessions r
    exact ⟨l, by simp [Desk.sessionCell, Function.update_of_ne hr, hl]⟩

/-- Only the isolation level of a session is set. -/
theorem setIsolation (d : Desk υ) (ref : SessionRef) (level : Isolation) :
    d.Alike ((Desk.sessionCell ref).update (fun x => { x with isolation := level }) d) := by
  have hset := (Desk.Alike.refl d).set ref (d.sessions ref) level
  rwa [show (Desk.sessionCell ref).set (d.sessions ref) d = d by simp [Desk.sessionCell]] at hset

/-- Desks that are alike open the same session. -/
theorem openSession (h : d.Alike d') :
    d.openSession.1 = d'.openSession.1 ∧ d.openSession.2.Alike d'.openSession.2 := by
  have hnumber : ({ d with opened := d.opened + 1 } : Desk υ).Alike { d' with opened := d'.opened + 1 } :=
    ⟨h.own, congrArg (· + 1) h.opened, h.connections, h.sessions, h.history⟩
  have hnoted := hnumber.note (.refl (.opened d.opened))
  refine ⟨h.opened, ?_⟩
  simp only [Desk.openSession, ← h.opened] at hnoted ⊢
  exact hnoted

end Desk.Alike

/-! ## The link -/

/-- What is compared of two runs: everything but identifiers, isolation levels, the log and the dead
letters. -/
def Surroundings.link (w w' : Surroundings) : SessionLink Calls (Desk υ) (Desk υ) where
  state := Desk.Alike
  first _ _ := True
  second _ _ := True
  pairs := Request.Alike
  answers _ _ r r' := HEq r r' ∧ Settles r
  aside _ := none
  fault f f' := Fault.Alike w.label w'.label f f' ∧ f.Sayable
  first_refl _ := trivial
  second_refl _ := trivial
  fault_refl f hf := ⟨.refl f, Fault.sayable_of_isError hf⟩
  level _ _ := True
  level_refl _ := trivial
  sayable_iff _ _ h := h.1.sayable_iff
  conflict_eq _ _ h := h.1.serializationFailureWithin_eq _
  retriesExhausted _ _ _ h := ⟨h.1.caused _, Fault.sayable_of_isError rfl⟩
  toError f f' h := by
    obtain ⟨halike, hsayable⟩ := h
    cases halike with
    | refl f =>
      obtain ⟨e, he, hsayable'⟩ := hsayable.toError
      rw [he]
      exact .ok ⟨.refl e, hsayable'⟩
    | closed ref => exact .ok ⟨.closed ref, hsayable⟩
    | caused info h => exact .ok ⟨h.caused info, hsayable⟩

namespace Surroundings

variable {w w' : Surroundings}

/-- Results that are the same and can be told are alike. -/
theorem outcome_of_settles {β : Type} {V : β → β → Prop} (hV : ∀ a, V a a) {r r' : Except Fault β}
    (h : HEq r r' ∧ Settles r) : (link (υ := υ) w w').Outcome V r r' := by
  obtain ⟨hr, hsettles⟩ := h
  cases hr
  cases r with
  | ok a => exact .ok (hV a)
  | error f => exact .error ⟨.refl f, hsettles f rfl⟩

/-- A request and what follows its answer. -/
theorem asking_linked {request request' : Request} (h : request.Alike request')
    {V : request.Answer → request'.Answer → Prop}
    (hV : ∀ r r', HEq r r' → Settles r → (link (υ := υ) w w').Outcome V r r') :
    Linked (link (υ := υ) w w').toLink V (asking request) (asking request') :=
  .ask h fun r r' hr => .done (hV r r' hr.1 hr.2)

/-- A request that both make is linked. -/
theorem same_asking_linked (request : Request) :
    Linked (link (υ := υ) w w').toLink Eq (asking request) (asking request) :=
  asking_linked (.refl request) fun _ _ hr hsettles => outcome_of_settles (fun _ => rfl) ⟨hr, hsettles⟩

/-! ## Serving alike -/

namespace Alike

variable (h : w.Alike w') {d d' : Desk υ} (hd : d.Alike d')

include h hd

/-- A call that answers with nothing fails alike and is noted alike. -/
theorem serve_noted {request request' : Request} (hrequest : request.Alike request')
    {e e' : Option Fault → Event} (he : ∀ f, (e f).Alike (e' f)) :
    (HEq (Fault.toResult (w.fault? d.history request)) (Fault.toResult (w'.fault? d'.history request'))
        ∧ Settles (Fault.toResult (w.fault? d.history request)))
      ∧ (d.note (e (w.fault? d.history request))).Alike
          (d'.note (e' (w'.fault? d'.history request'))) := by
  rw [← h.fault?_eq _ _ _ _ hd.history hrequest]
  refine ⟨⟨HEq.rfl, ?_⟩, hd.note (he _)⟩
  cases hf : w.fault? d.history request with
  | none => exact settles_ok ()
  | some f => exact settles_error.2 (w.sayable _ _ _ hf)

/-- Desks that are alike are lent the same connection, or fail alike. -/
theorem serve_reserve (ref : SessionRef) :
    (HEq (w.serve (.reserve ref) d).1 (w'.serve (.reserve ref) d').1
        ∧ Settles (w.serve (.reserve ref) d).1)
      ∧ (w.serve (.reserve ref) d).2.Alike (w'.serve (.reserve ref) d').2 := by
  have heq := h.fault?_eq _ _ _ _ hd.history (.refl (.reserve ref))
  cases hf : w.fault? d.history (.reserve ref) with
  | some f =>
    simp only [serve, hf, ← heq]
    exact ⟨⟨HEq.rfl, settles_error.2 (w.sayable _ _ _ hf)⟩, hd.note (.refl _)⟩
  | none =>
    have hout : d.handOut.2.Alike d'.handOut.2 :=
      ⟨hd.own, hd.opened, congrArg (· + 1) hd.connections, hd.sessions, hd.history⟩
    have hconnection : d.handOut.1 = d'.handOut.1 := by rw [Desk.handOut, Desk.handOut, hd.connections]
    simp only [serve, hf, ← heq, hconnection]
    exact ⟨⟨HEq.rfl, settles_ok _⟩, hout.note (.refl _)⟩

/-- Desks that are alike are given the same advice. -/
theorem serve_consult (question : Json) :
    (HEq (w.serve (.consult question) d).1 (w'.serve (.consult question) d').1
        ∧ Settles (w.serve (.consult question) d).1)
      ∧ (w.serve (.consult question) d).2.Alike (w'.serve (.consult question) d').2 := by
  have heq := h.fault?_eq _ _ _ _ hd.history (.refl (.consult question))
  cases hf : w.fault? d.history (.consult question) with
  | some f =>
    simp only [serve, hf, ← heq]
    exact ⟨⟨HEq.rfl, settles_error.2 (w.sayable _ _ _ hf)⟩, hd.note (.refl _)⟩
  | none =>
    simp only [serve, hf, ← heq, h.advice_eq _ _ question hd.history]
    exact ⟨⟨HEq.rfl, settles_ok _⟩, hd.note (.refl _)⟩

omit hd in
/-- Alike surroundings serve alike desks alike. -/
theorem serves : (link (υ := υ) w w').Serves w.serve w'.serve where
  pairs request request' d d' hrequest hd := by
    cases hrequest with
    | begin ref c level level' =>
      exact h.serve_noted hd (.begin ref c level level') (.begin ref c level level')
    | refl request =>
      cases request with
      | reserve ref => exact h.serve_reserve hd ref
      | consult question => exact h.serve_consult hd question
      | execute ref c statement =>
        exact h.serve_noted hd (.refl (.execute ref c statement)) fun f =>
          .refl (.session ref (.executed c statement f))
      | release ref c =>
        exact h.serve_noted hd (.refl (.release ref c)) fun f => .refl (.session ref (.released c f))
      | publish message =>
        exact h.serve_noted hd (.refl (.publish message)) fun f => .refl (.published message f)
      | pause ms => exact ⟨⟨HEq.rfl, settles_ok ()⟩, hd.note (.refl _)⟩
      | sleep ms => exact ⟨⟨HEq.rfl, settles_ok ()⟩, hd.note (.refl _)⟩
      | draw =>
        refine ⟨⟨?_, settles_ok _⟩, hd.note (.refl _)⟩
        simp only [serve, h.draw_eq _ _ hd.history]
        exact HEq.rfl
  first _ _ _ _ haside := nomatch haside
  second _ _ _ _ haside := nomatch haside

end Alike

/-! ## Sessions, registries and grounds -/

/-- The log is not compared. -/
theorem journal_linked : (link (υ := υ) w w').Journals w.journal w'.journal := by
  have hwritten : ∀ (w : Surroundings) (level : Level) (message : Text) (fields : Json.Members) (d : Desk υ),
      w.journal.written level message fields d
        = .ok { d with log := w.entered d.history level message fields d.log } := by
    simp [Journal.written, journal, Desk.logCell, write_eq_ok, Except.map]
  refine ⟨fun level message fields => .actFirst (fun d d' hd => ⟨?_, trivial, trivial⟩) fun d => ?_,
    fun level message fields => .actSecond (fun d d' hd => ⟨?_, trivial, trivial⟩) fun d' => ?_⟩
  all_goals simp only [hwritten, Except.map]
  · exact ⟨hd.own, hd.opened, hd.connections, hd.sessions, hd.history⟩
  · exact .done (.ok trivial)
  · exact ⟨hd.own, hd.opened, hd.connections, hd.sessions, hd.history⟩
  · exact .done (.ok trivial)

namespace Alike

variable (h : w.Alike w')

include h

/-- The publishers of two desks are linked. -/
theorem publisher_linked : w.publisher.Linked (link (υ := υ) w w') w'.publisher where
  journal := journal_linked
  maxAttempts_eq := h.publishAttempts_eq
  publish message := (same_asking_linked (.publish message)).mono fun _ _ _ => trivial
  sleep ms := (same_asking_linked (.pause ms)).mono fun _ _ _ => trivial
  letters _ _ _ _ hd :=
    ⟨⟨hd.own, hd.opened, hd.connections, hd.sessions, hd.history⟩, trivial, trivial⟩

/-- The sessions of two desks are linked. -/
theorem session_linked (ref : SessionRef) :
    Session.Linked (link (υ := υ) w w') (w.session ref) (w'.session ref) where
  closed := ⟨.closed ref, Fault.sayable_of_isError rfl⟩
  load d d' hd := by
    obtain ⟨level, hlevel⟩ := hd.sessions ref
    exact ⟨level, trivial, hlevel⟩
  modify f f' hf d d' hd := by
    obtain ⟨level, hlevel⟩ := hd.sessions ref
    obtain ⟨level', -, hafter⟩ := hf (d.sessions ref) (d'.sessions ref) ⟨level, trivial, hlevel⟩
    refine ⟨?_, trivial, trivial⟩
    show ((Desk.sessionCell ref).set (f (d.sessions ref)) d).Alike
      ((Desk.sessionCell ref).set (f' (d'.sessions ref)) d')
    rw [hafter]
    exact hd.set ref _ level'
  journal := journal_linked
  reserve := same_asking_linked (.reserve ref)
  execute c statement statement' hsays := by
    cases hsays with
    | same statement => exact (same_asking_linked (.execute ref c statement)).mono fun _ _ _ => trivial
    | begin _ =>
      exact asking_linked (.begin ref c _ _) fun r r' hr hsettles =>
        outcome_of_settles (fun _ => trivial) ⟨hr, hsettles⟩
  release c := (same_asking_linked (.release ref c)).mono fun _ _ _ => trivial
  handOver messages := by
    have hnote : (link (υ := υ) w w').Moves (Desk.note (.session ref (.handedOver messages)))
        (Desk.note (.session ref (.handedOver messages))) :=
      fun d d' hd => ⟨hd.note (.refl _), trivial, trivial⟩
    exact (Linked.change hnote).bind fun _ _ _ => h.publisher_linked.flush _ _ messages

/-- The registries of two desks are linked. -/
theorem registry_linked :
    Registry.Linked (link (υ := υ) w w') (fun _ => True) w.registry w'.registry where
  ref_eq := h.registryRef_eq
  create := .act (fun _ _ hd => ⟨hd.openSession.2, trivial, trivial⟩) fun _ _ hd =>
    .done (.ok ⟨hd.openSession.1, trivial⟩)
  session ref _ := h.session_linked ref

end Alike

/-- What an errand works on. -/
def ground (w : Surroundings) : Ground Calls (Desk υ) υ α where
  registry := w.registry
  own := ⟨Desk.own, fun own d => { d with own }⟩
  holds ref d := decide (ref < d.opened)
  consult question := asking (.consult question)
  draw := asking .draw
  sleep ms := asking (.sleep ms)
  note _ := id

/-- Surroundings that are alike give grounds that are linked. -/
theorem Alike.ground_linked (h : w.Alike w') :
    Ground.Linked (link (υ := υ) w w') (fun _ _ => True) (fun _ => True)
      (w.ground : Ground Calls (Desk υ) υ α) w'.ground where
  registry := h.registry_linked
  named _ _ := trivial
  own _ _ hd := hd.own
  update f _ _ hd :=
    ⟨⟨congrArg f hd.own, hd.opened, hd.connections, hd.sessions, hd.history⟩, trivial, trivial⟩
  holds_eq ref d d' hd := by simp only [ground, hd.opened]
  mine_of_holds _ _ _ _ _ := trivial
  consult question := same_asking_linked (.consult question)
  retry limit rate := by
    refine ⟨rfl, Eq, same_asking_linked .draw, fun x x' hx => ?_⟩
    subst hx
    exact (same_asking_linked (.sleep _)).mono fun _ _ _ => trivial
  note _ _ _ _ _ hd := ⟨hd, trivial, trivial⟩

end Surroundings

end Trial

end UnitOfWork
