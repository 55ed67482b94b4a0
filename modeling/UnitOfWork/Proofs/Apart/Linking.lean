import UnitOfWork.Proofs.Apart.Parts

/-!
# Errands are linked with themselves

On the link of an errand the sessions that it opens are linked with themselves, and so are the
registry and the whole errand (`Setting.program_linked`): what it does depends on its own part of
the site and on what it is answered with, and on nothing else. Entries in the log, waits and draws
do not count, and what the bus answers counts only where it is heard.
-/

namespace UnitOfWork

open Apart in
/-- An errand is like itself. -/
theorem Errand.alike_refl {υ α : Type} {heard : Bool} {i : Nat} {kind : Apart.Event α → Prop}
    (e : Errand υ α) :
    e.Alike (link (υ := υ) heard i kind) Eq e := by
  induction e with
  | done outcome => exact .done (outcome_of_eq (fun _ => rfl) rfl)
  | act update next ih => exact .act update ih
  | consult question next ih => exact .consult question fun r r' hr => eq_of_outcome hr ▸ ih r
  | current next ih => exact .current fun r r' hr => eq_of_outcome hr ▸ ih r
  | queue channel message next ih =>
    exact .queue channel message fun r r' hr => eq_of_outcome (hr.mono fun _ _ _ => rfl) ▸ ih r
  | openSession next ih => exact .openSession ih
  | identify ref next ih => exact .identify ref fun id id' hid => hid ▸ ih id
  | look ref next ih => exact .look ref fun x x' hx => eq_of_kin hx ▸ ih x
  | use ref c text next ih =>
    exact .use ref c text fun r r' hr => eq_of_outcome (hr.mono fun _ _ _ => rfl) ▸ ih r
  | call ref c next ih => exact .call ref c fun r r' hr => eq_of_outcome hr ▸ ih r
  | savepoint ref body next ihbody ih =>
    exact .savepoint ref ihbody fun r r' hr => eq_of_outcome hr ▸ ih r
  | bind ref body next ihbody ih => exact .bind ref ihbody fun r r' hr => eq_of_outcome hr ▸ ih r
  | inScope commit work next ihwork ih =>
    exact .inScope commit ihwork fun r r' hr => eq_of_outcome hr ▸ ih r
  | serialized limit rate work next ihwork ih =>
    exact .serialized limit rate ihwork fun r r' hr => eq_of_outcome hr ▸ ih r

namespace Apart.Setting

variable {υ α : Type} (T : Setting υ α) {heard : Bool} {i : Nat} {kind : Event α → Prop}

/-- Writing an entry changes the log only. -/
theorem exists_written (level : Level) (message : Text) (fields : Json.Members) (s : Site υ α) :
    ∃ log, T.journal.written level message fields s = .ok { s with log } :=
  T.journal.exists_written (T.dated s) level message fields

/-- Entries are written without a trace in any part. -/
theorem journal_linked : (link (υ := υ) heard i kind).Journals T.journal T.journal := by
  have hfirst : (link (υ := υ) heard i kind).WritesFirst T.journal := fun level message fields => by
    refine .actFirst (moves_outside fun s => ?_) fun s => ?_
    all_goals obtain ⟨log, hlog⟩ := T.exists_written level message fields s
    all_goals simp only [hlog, and_self]
    exact .done (.ok trivial)
  exact ⟨hfirst, fun level message fields => linked_symm (hfirst level message fields)⟩

/-- Where the bus is not heard, a flush comes to an end without a trace in any part. -/
theorem flush_aside : T.publisher.Aside (link (υ := υ) false i kind) where
  journal := T.journal_linked.first
  publish message handler hhandler := by
    have haside : beside false (.publish message) = some fun r => Trial.Settles r := rfl
    refine Linked.askFirst (L := (link false i kind).toLink) haside fun r hr => ?_
    cases r with
    | ok a => exact .pure trivial
    | error f => exact hhandler f (hr f rfl)
  sleep ms := by
    have haside : beside false (.pause ms) = some fun r => r = .ok () := rfl
    refine Linked.askFirst (L := (link false i kind).toLink) haside fun r hr => ?_
    subst hr
    exact .pure trivial
  letters f := moves_outside fun s => ⟨rfl, rfl, rfl, rfl⟩

/-- Where the bus is heard, the publisher is linked with itself. -/
theorem publisher_linked :
    Publisher.Linked (link (υ := υ) true i kind) T.publisher T.publisher where
  journal := T.journal_linked
  maxAttempts_eq := rfl
  publish message := .ask (.publish rfl message) fun r r' hr =>
    .done (outcome_of_eq (fun _ => trivial) (eq_of_heq hr))
  sleep ms := .ask (.pause rfl ms) fun r r' hr =>
    .done (outcome_of_eq (fun _ => trivial) (eq_of_heq hr))
  letters f f' s s' hs := by
    have hletters (f : List DeadLetter → List DeadLetter) :
        (link (υ := υ) true i kind).Moves (T.publisher.deadLetters.update f) id :=
      moves_outside fun s => ⟨rfl, rfl, rfl, rfl⟩
    obtain ⟨hs₁, hfirst, -⟩ := hletters f s s' hs
    obtain ⟨hs₂, -, hsecond⟩ := moves_symm (hletters f') _ s' hs₁
    exact ⟨hs₂, hfirst, hsecond⟩

/-- Flushes of the same batch are linked, whether the bus is heard or not. -/
theorem flush_linked (origin : Json.Members) (messages : List Message) :
    Linked (link (υ := υ) heard i kind).toLink (fun _ _ => True) (T.publisher.flush origin messages)
      (T.publisher.flush origin messages) := by
  cases heard with
  | true => exact T.publisher_linked.flush origin origin messages
  | false =>
    have hflush := T.flush_aside.flush (L := link (υ := υ) false i kind) origin messages
    exact hflush.beside (linked_symm hflush)

section

variable (hkind : ∀ e : Event α, e.Quiet → kind e)

include hkind

/-- A session is linked with itself for the errand that opened it. -/
theorem session_linked {ref : SessionRef} (href : owner ref = i) :
    Session.Linked (link (υ := υ) heard i kind) (T.session ref) (T.session ref) where
  closed := rfl
  load s s' hs := by
    show (link heard i kind).Kin (s.sessions ref) (s'.sessions ref)
    rw [hs.sessions ref href]
    exact kin_refl _
  modify f f' hf s s' hs := by
    have heq : f (s.sessions ref) = f' (s'.sessions ref) := by
      rw [← hs.sessions ref href]
      exact eq_of_kin (hf _ _ (kin_refl _))
    refine ⟨?_, Site.changes_set hkind href _ s, Site.changes_set hkind href _ s'⟩
    show ((Site.sessionCell ref).set (f (s.sessions ref)) s).Agree i
      ((Site.sessionCell ref).set (f' (s'.sessions ref)) s')
    rw [← heq]
    exact hs.set href _
  journal := T.journal_linked
  reserve := .ask (.reserve ref) fun r r' hr =>
    .done (outcome_of_eq (fun _ => rfl) (eq_of_heq hr))
  execute c statement statement' hsays := by
    have heq : statement = statement' := by
      cases hsays with
      | same statement => rfl
      | begin h => exact congrArg _ h
    subst heq
    exact .ask (.execute ref c statement) fun r r' hr =>
      .done (outcome_of_eq (fun _ => trivial) (eq_of_heq hr))
  release c := .ask (.release ref c) fun r r' hr =>
    .done (outcome_of_eq (fun _ => trivial) (eq_of_heq hr))
  handOver messages := by
    have hnote : (link (υ := υ) heard i kind).Moves (Site.note (owner ref) (.handedOver ref messages))
        (Site.note (owner ref) (.handedOver ref messages)) :=
      href ▸ moves_of (fun s s' hs => hs.note _)
        (Site.changes_note (hkind _ (by simp [Event.Quiet])) fun _ _ => rfl)
    exact (Linked.change hnote).bind fun _ _ _ => T.flush_linked _ messages

/-- The registry is linked with itself, with the sessions that the errand opens. -/
theorem registry_linked :
    Registry.Linked (link (υ := υ) heard i kind) (owner · = i) T.registry T.registry where
  ref_eq := rfl
  create := .ask .openSession fun r r' hr => by
    obtain ⟨heq, ref, rfl, href⟩ := hr
    cases heq
    exact .done (.ok ⟨rfl, href⟩)
  session _ href := T.session_linked hkind href

end

/-- The ground of an errand is linked with itself. -/
theorem ground_linked :
    Ground.Linked (link (υ := υ) heard i fun _ => True) Eq (owner · = i) (T.ground i) (T.ground i) where
  registry := T.registry_linked fun _ _ => trivial
  named _ _ := rfl
  own _ _ hs := hs.own
  update f s s' hs := by
    refine ⟨?_, Site.changes_setOwn _ s, Site.changes_setOwn _ s'⟩
    show ((Site.ownCell i).set (f (s.own i)) s).Agree i ((Site.ownCell i).set (f (s'.own i)) s')
    rw [← hs.own]
    exact hs.setOwn _
  holds_eq ref s s' hs := by simp only [ground, Site.holds, hs.opened]
  mine_of_holds ref s s' _ h := by
    simp only [ground, Site.holds, Bool.and_eq_true, decide_eq_true_eq] at h
    exact h.1
  consult question := .ask (.consult question) fun r r' hr =>
    .done (outcome_of_eq (fun _ => rfl) (eq_of_heq hr))
  retry limit rate := by
    refine ⟨rfl, fun _ _ => True, ?_, fun x x' _ => ?_⟩
    · refine .ask .draw fun r r' hr => ?_
      obtain ⟨⟨x, rfl⟩, x', rfl⟩ := hr
      exact .done (.ok trivial)
    · refine .ask (.sleep _ _) fun r r' hr => ?_
      obtain ⟨⟨x, rfl⟩, x', rfl⟩ := hr
      exact .done (.ok trivial)
  note n n' hn := by
    have heq : n = n' := by
      cases hn with
      | began ref => rfl
      | ended ref => rfl
      | settled h => rw [eq_of_outcome h]
      | current h => rw [eq_of_outcome h]
      | queued channel message h => rw [eq_of_outcome (h.mono fun _ _ _ => rfl)]
    subst heq
    exact moves_of (fun s s' hs => hs.note _) (Site.changes_note trivial fun _ _ => rfl)

/-- An errand is linked with itself. -/
theorem program_linked (errand : Errand υ α) :
    Linked (link (υ := υ) heard i fun _ => True).toLink Eq (T.program i errand) (T.program i errand) :=
  errand.alike_refl.play T.ground_linked nofun

end Apart.Setting

end UnitOfWork
