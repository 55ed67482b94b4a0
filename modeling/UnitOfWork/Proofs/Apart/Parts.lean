import UnitOfWork.Proofs.Apart.Site
import UnitOfWork.Proofs.Linked.Errands
import UnitOfWork.Proofs.Linked.Publishing
import UnitOfWork.Proofs.Linked.Steps

/-!
# Parts of a site

An errand has a part of the site: what it keeps for itself, the sessions that it opened, and its
history. `Site.Agree` compares two sites at the part of one errand, and `Site.Changes` is what a
step of an errand may come to: the parts of the others stay as they are, and its own history grows.
The link of an errand is made of the two, and on it an errand is linked with itself
(`Setting.program_linked`), whatever the waits and the draws come to. What the bus answers can be
compared with the rest, as far as the link hears it. Where it does not, the bus may do as it likes,
but it fails with what log entries can tell.
-/

namespace UnitOfWork.Apart

variable {υ α : Type}

/-! ## Histories -/

/-- An event that is not a note. -/
def Event.Quiet (e : Event α) : Prop :=
  ∀ n, e ≠ noted n

/-- The state that an event leaves a session in. -/
def Event.leaves (ref : SessionRef) (x : SessionState) : Event α → SessionState
  | changed r _ after => if r = ref then after else x
  | _ => x

/-- The state that a history leaves a session in. -/
def stateAfter (ref : SessionRef) (history : List (Event α)) : SessionState :=
  history.foldl (Event.leaves ref) {}

/-- The state after one more event is what that leaves. -/
@[simp] theorem stateAfter_concat (ref : SessionRef) (history : List (Event α)) (e : Event α) :
    stateAfter ref (history ++ [e]) = e.leaves ref (stateAfter ref history) := by
  simp [stateAfter]

namespace Site

/-- The sessions are as the histories tell. -/
def Recorded (s : Site υ α) : Prop :=
  ∀ ref, s.sessions ref = stateAfter ref (s.histories (owner ref))

/-- Two sites are the same at the part of an errand. -/
structure Agree (i : Nat) (s s' : Site υ α) : Prop where
  own : s.own i = s'.own i
  opened : s.opened i = s'.opened i
  sessions : ∀ ref, owner ref = i → s.sessions ref = s'.sessions ref
  histories : s.histories i = s'.histories i

/-- What steps of an errand may come to, with events of a kind. -/
structure Changes (i : Nat) (kind : Event α → Prop) (s s' : Site υ α) : Prop where
  others : ∀ j, j ≠ i → s.Agree j s'
  grows : ∃ events, (∀ e ∈ events, kind e) ∧ s'.histories i = s.histories i ++ events
  recorded : s.Recorded → s'.Recorded

variable {i : Nat} {kind : Event α → Prop} {s s' s₁ s₂ : Site υ α}

/-- A site agrees with itself. -/
theorem Agree.refl (i : Nat) (s : Site υ α) : s.Agree i s :=
  ⟨rfl, rfl, fun _ _ => rfl, rfl⟩

/-- Sites agree with each other. -/
theorem Agree.symm (h : s.Agree i s') : s'.Agree i s :=
  ⟨h.own.symm, h.opened.symm, fun ref href => (h.sessions ref href).symm, h.histories.symm⟩

/-- Sites that agree with a third agree. -/
theorem Agree.trans (h : s.Agree i s₁) (h' : s₁.Agree i s₂) : s.Agree i s₂ :=
  ⟨h.own.trans h'.own, h.opened.trans h'.opened,
    fun ref href => (h.sessions ref href).trans (h'.sessions ref href), h.histories.trans h'.histories⟩

/-- A step may come to nothing. -/
theorem Changes.refl (i : Nat) (kind : Event α → Prop) (s : Site υ α) : s.Changes i kind s :=
  ⟨fun j _ => .refl j s, ⟨[], nofun, (List.append_nil _).symm⟩, id⟩

/-- What two steps come to one after the other is a change too. -/
theorem Changes.trans (h : s.Changes i kind s₁) (h' : s₁.Changes i kind s₂) : s.Changes i kind s₂ := by
  obtain ⟨events, hkind, hgrows⟩ := h.grows
  obtain ⟨events', hkind', hgrows'⟩ := h'.grows
  refine ⟨fun j hj => (h.others j hj).trans (h'.others j hj), ⟨events ++ events', ?_, ?_⟩,
    fun hs => h'.recorded (h.recorded hs)⟩
  · exact List.forall_mem_append.2 ⟨hkind, hkind'⟩
  · rw [hgrows', hgrows, List.append_assoc]

/-! ## Steps -/

/-- Sites that agree do so after the same note. -/
theorem Agree.note (h : s.Agree i s') (e : Event α) : (s.note i e).Agree i (s'.note i e) := by
  refine ⟨h.own, h.opened, h.sessions, ?_⟩
  simp [Site.note, h.histories]

/-- A note about one errand leaves the part of another. -/
theorem agree_note {j : Nat} (hj : j ≠ i) (e : Event α) (s : Site υ α) : s.Agree j (s.note i e) :=
  ⟨rfl, rfl, fun _ _ => rfl, (Function.update_of_ne hj _ _).symm⟩

/-- A note is the last event of the errand that it is about. -/
theorem note_histories (i : Nat) (e : Event α) (s : Site υ α) :
    (s.note i e).histories i = s.histories i ++ [e] :=
  Function.update_self ..

/-- An event that changes no session keeps the histories true. -/
theorem Recorded.note {e : Event α} (he : ∀ ref x, e.leaves ref x = x) (h : s.Recorded) :
    (s.note i e).Recorded := by
  intro ref
  by_cases href : owner ref = i
  · subst href
    rw [note_histories, stateAfter_concat, he]
    exact h ref
  · rw [show (s.note i e).histories (owner ref) = s.histories (owner ref) from
      Function.update_of_ne href _ _]
    exact h ref

/-- A note is a change, of the kind that it is. -/
theorem changes_note {e : Event α} (hkind : kind e) (he : ∀ ref x, e.leaves ref x = x) (s : Site υ α) :
    s.Changes i kind (s.note i e) where
  others _ hj := agree_note hj e s
  grows := ⟨[e], by simpa using hkind, note_histories i e s⟩
  recorded h := h.note he

/-- Sites that agree open the same session. -/
theorem Agree.openFor (h : s.Agree i s') : (s.openFor i).Agree i (s'.openFor i) := by
  have hnumber : ({ s with opened := Function.update s.opened i (s'.opened i + 1) } : Site υ α).Agree i
      { s' with opened := Function.update s'.opened i (s'.opened i + 1) } :=
    ⟨h.own, by simp, h.sessions, h.histories⟩
  rw [Site.openFor, Site.openFor, h.opened]
  exact hnumber.note _

/-- Opening a session is a change. -/
theorem changes_openFor (hkind : ∀ e : Event α, e.Quiet → kind e) (s : Site υ α) :
    s.Changes i kind (s.openFor i) := by
  have hnumber : s.Changes i kind { s with opened := Function.update s.opened i (s.opened i + 1) } :=
    ⟨fun j hj => ⟨rfl, (Function.update_of_ne hj _ _).symm, fun _ _ => rfl, rfl⟩,
      ⟨[], nofun, (List.append_nil _).symm⟩, id⟩
  exact hnumber.trans (changes_note (hkind _ (by simp [Event.Quiet])) (fun _ _ => rfl) _)

/-- A session of an errand is set. -/
theorem Agree.set {ref : SessionRef} (href : owner ref = i) (h : s.Agree i s') (x : SessionState) :
    ((sessionCell ref).set x s).Agree i ((sessionCell ref).set x s') := by
  have hset : ({ s with sessions := Function.update s.sessions ref x } : Site υ α).Agree i
      { s' with sessions := Function.update s'.sessions ref x } := by
    refine ⟨h.own, h.opened, fun r hr => ?_, h.histories⟩
    by_cases hrr : r = ref
    · subst hrr
      simp
    · simp [Function.update_of_ne hrr, h.sessions r hr]
  simp only [sessionCell, href, h.sessions ref href]
  exact hset.note _

/-- Setting a session is recorded in the history. -/
theorem Recorded.set (h : s.Recorded) (ref : SessionRef) (x : SessionState) :
    ((sessionCell ref).set x s).Recorded := by
  intro r
  show Function.update s.sessions ref x r
    = stateAfter r (Function.update s.histories (owner ref) _ (owner r))
  by_cases hr : r = ref
  · subst hr
    simp [Event.leaves]
  · by_cases howner : owner r = owner ref
    · simp [howner, Function.update_of_ne hr, Event.leaves, Ne.symm hr, h r]
    · simp [Function.update_of_ne howner, Function.update_of_ne hr, h r]

/-- Setting a session of the errand is a change. -/
theorem changes_set (hkind : ∀ e : Event α, e.Quiet → kind e) {ref : SessionRef} (href : owner ref = i)
    (x : SessionState) (s : Site υ α) : s.Changes i kind ((sessionCell ref).set x s) := by
  subst href
  refine ⟨fun j hj => ⟨rfl, rfl, fun r hr => ?_, ?_⟩,
    ⟨[_], by simpa using hkind _ (by simp [Event.Quiet]), note_histories _ _ _⟩, fun h => h.set ref x⟩
  · have hne : r ≠ ref := fun heq => hj (by rw [← hr, heq])
    exact (Function.update_of_ne hne _ _).symm
  · exact (Function.update_of_ne hj _ _).symm

/-- Sites that agree do so after the errand has set what it keeps for itself. -/
theorem Agree.setOwn (h : s.Agree i s') (x : υ) :
    ((ownCell i).set x s).Agree i ((ownCell i).set x s') :=
  ⟨by simp [ownCell], h.opened, h.sessions, h.histories⟩

/-- Setting what the errand keeps for itself is a change. -/
theorem changes_setOwn (x : υ) (s : Site υ α) : s.Changes i kind ((ownCell i).set x s) :=
  ⟨fun _ hj => ⟨(Function.update_of_ne hj _ _).symm, rfl, fun _ _ => rfl, rfl⟩,
    ⟨[], nofun, (List.append_nil _).symm⟩, id⟩

end Site

/-! ## The link of an errand -/

/-- Requests that belong together: the same, but for how long a wait between attempts at a
transaction is. Those of the publisher count if the bus is heard. -/
inductive Paired (heard : Bool) : Request → Request → Prop where
  | openSession : Paired heard .openSession .openSession
  | reserve (ref : SessionRef) : Paired heard (.reserve ref) (.reserve ref)
  | execute (ref : SessionRef) (c : Connection) (statement : Statement) :
      Paired heard (.execute ref c statement) (.execute ref c statement)
  | release (ref : SessionRef) (c : Connection) : Paired heard (.release ref c) (.release ref c)
  | publish (h : heard = true) (message : Message) : Paired heard (.publish message) (.publish message)
  | pause (h : heard = true) (ms : Number) : Paired heard (.pause ms) (.pause ms)
  | draw : Paired heard .draw .draw
  | sleep (ms ms' : Number) : Paired heard (.sleep ms) (.sleep ms')
  | consult (question : Json) : Paired heard (.consult question) (.consult question)

/-- Answers that belong together: the same, but for what is drawn. -/
def Matching (i : Nat) (request request' : Request) (r : Except Fault request.Answer)
    (r' : Except Fault request'.Answer) : Prop :=
  match request with
  | .openSession => HEq r r' ∧ ∃ ref, r = .ok ref ∧ owner ref = i
  | .draw | .sleep _ => (∃ x, r = .ok x) ∧ ∃ x', r' = .ok x'
  | _ => HEq r r'

/-- Answers to what an errand asks without being compared: those of a bus that is not heard. -/
def beside : (heard : Bool) → (request : Request) → Option (Except Fault request.Answer → Prop)
  | false, .publish _ => some fun r => Trial.Settles r
  | false, .pause _ => some fun r => r = .ok ()
  | _, _ => none

/-- The link of an errand: its part is compared, and what the bus answers if it is heard. -/
def link (heard : Bool) (i : Nat) (kind : Event α → Prop) :
    SessionLink Calls (Site υ α) (Site υ α) where
  state := Site.Agree i
  first := Site.Changes i kind
  second := Site.Changes i kind
  pairs := Paired heard
  answers := Matching i
  aside := beside heard
  fault f f' := f = f'
  first_refl := .refl i kind
  second_refl := .refl i kind
  fault_refl _ _ := rfl
  level l l' := l = l'
  level_refl _ := rfl
  sayable_iff _ _ h := h ▸ Iff.rfl
  conflict_eq _ _ h := h ▸ rfl
  retriesExhausted _ _ _ h := h ▸ rfl
  toError f f' h := by
    subst h
    cases f.toError with
    | ok e => exact .ok rfl
    | error g => exact .error rfl

section

variable {heard : Bool} {i : Nat} {kind : Event α → Prop}

/-- On this link outcomes that are alike are the same. -/
theorem eq_of_outcome {β : Type} {r r' : Except Fault β}
    (h : (link (υ := υ) heard i kind).Outcome Eq r r') : r = r' := by
  cases h with
  | ok h => rw [h]
  | error h => rw [show _ = _ from h]

/-- The same outcomes are alike. -/
theorem outcome_of_eq {β : Type} {V : β → β → Prop} (hV : ∀ a, V a a) {r r' : Except Fault β}
    (h : r = r') : (link (υ := υ) heard i kind).Outcome V r r' := by
  subst h
  cases r with
  | ok a => exact .ok (hV a)
  | error f => exact .error rfl

/-- On this link states of sessions that are alike are the same. -/
theorem eq_of_kin {x x' : SessionState} (h : (link (υ := υ) (α := α) heard i kind).Kin x x') :
    x = x' := by
  obtain ⟨l, hl, rfl⟩ := h
  cases (show x.isolation = l from hl)
  rfl

/-- The same states of sessions are alike. -/
theorem kin_refl (x : SessionState) : (link (υ := υ) (α := α) heard i kind).Kin x x :=
  ⟨x.isolation, rfl, rfl⟩

end

section

variable {heard : Bool} {i : Nat} {kind : Event α → Prop}

/-- A step that changes both sites in the same way. -/
theorem moves_of {update : Site υ α → Site υ α}
    (hagree : ∀ s s' : Site υ α, s.Agree i s' → (update s).Agree i (update s'))
    (hchanges : ∀ s : Site υ α, s.Changes i kind (update s)) :
    (link (υ := υ) heard i kind).Moves update update :=
  fun s s' hs => ⟨hagree s s' hs, hchanges s, hchanges s'⟩

/-- A step that does not touch the part of any errand. -/
theorem moves_outside {update : Site υ α → Site υ α}
    (h : ∀ s, (update s).own = s.own ∧ (update s).opened = s.opened
      ∧ (update s).sessions = s.sessions ∧ (update s).histories = s.histories) :
    (link (υ := υ) heard i kind).Moves update id := by
  have hagree : ∀ (j : Nat) (s : Site υ α), s.Agree j (update s) := fun j s => by
    obtain ⟨hown, hopened, hsessions, hhistories⟩ := h s
    exact ⟨by rw [hown], by rw [hopened], fun _ _ => by rw [hsessions], by rw [hhistories]⟩
  refine fun s s' hs => ⟨(hagree i s).symm.trans hs,
    ⟨fun j _ => hagree j s, ⟨[], nofun, ?_⟩, fun hr ref => ?_⟩, .refl i kind s'⟩
  · rw [(h s).2.2.2, List.append_nil]
  · rw [(h s).2.2.1, (h s).2.2.2]
    exact hr ref

/-- It does not matter which of two changes comes first. -/
theorem moves_symm {update update' : Site υ α → Site υ α}
    (h : (link (υ := υ) heard i kind).Moves update update') :
    (link (υ := υ) heard i kind).Moves update' update := fun s s' hs =>
  ⟨(h s' s hs.symm).1.symm, (h s' s hs.symm).2.2, (h s' s hs.symm).2.1⟩

/-- It does not matter which of two linked programs comes first. -/
theorem linked_symm {β β' : Type} {V : β → β' → Prop} {p : Program Calls (Site υ α) β}
    {p' : Program Calls (Site υ α) β'} (h : Linked (link heard i kind).toLink V p p') :
    Linked (link heard i kind).toLink (fun b a => V a b) p' p := by
  induction h with
  | done h =>
    cases h with
    | ok h => exact .done (.ok h)
    | error h => exact .done (.error h.symm)
  | act hm _ ih => exact .act (moves_symm hm) fun s s' hs => ih s' s hs.symm
  | ask hp _ ih =>
    cases hp with
    | openSession =>
      refine .ask .openSession fun r r' hr => ih r' r ?_
      obtain ⟨heq, href⟩ := hr
      cases heq
      exact ⟨HEq.rfl, href⟩
    | reserve ref => exact .ask (.reserve ref) fun r r' hr => ih r' r hr.symm
    | execute ref c statement =>
      exact .ask (.execute ref c statement) fun r r' hr => ih r' r hr.symm
    | release ref c => exact .ask (.release ref c) fun r r' hr => ih r' r hr.symm
    | publish h message => exact .ask (.publish h message) fun r r' hr => ih r' r hr.symm
    | pause h ms => exact .ask (.pause h ms) fun r r' hr => ih r' r hr.symm
    | draw => exact .ask .draw fun r r' hr => ih r' r hr.symm
    | sleep ms ms' => exact .ask (.sleep ms' ms) fun r r' hr => ih r' r hr.symm
    | consult question => exact .ask (.consult question) fun r r' hr => ih r' r hr.symm
  | actFirst hm _ ih => exact .actSecond (moves_symm hm) ih
  | actSecond hm _ ih => exact .actFirst (moves_symm hm) ih
  | askFirst ha _ ih => exact .askSecond ha ih
  | askSecond ha _ ih => exact .askFirst ha ih

end

end UnitOfWork.Apart
