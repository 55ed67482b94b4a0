import UnitOfWork.Proofs.Apart.Linking

/-!
# What errands do side by side, they do alone

`Accompanied` compares an errand among others with the same errand alone, which is as far or has
nothing left to do that shows. Every turn keeps it, a turn of another errand because that leaves the
part of the first as it is (`Tame`), as long as the calls of the errand have the same results in
both. So the history of an errand among others is one that it has alone (`Accompanied.moves`).
-/

namespace UnitOfWork.Apart

variable {υ α : Type}

/-- The call that an event tells the result of. -/
def Event.request? : Event α → Option Request
  | reserved ref _ => some (.reserve ref)
  | executed ref c statement _ => some (.execute ref c statement)
  | released ref c _ => some (.release ref c)
  | consulted question _ => some (.consult question)
  | _ => none

/-- As long as two histories are the same, a call that comes next in both has the same result. -/
def SameResults (history history' : List (Event α)) : Prop :=
  ∀ before e e' after after', history = before ++ e :: after → history' = before ++ e' :: after' →
    e.request? = e'.request? → e.request? ≠ none → e = e'

/-- A history has the same results as itself. -/
theorem SameResults.refl (history : List (Event α)) : SameResults history history := by
  intro before e e' after after' h h' _ _
  rw [h] at h'
  exact (List.cons.inj (List.append_cancel_left h')).1

/-- Where an errand makes no calls, there are no results that could differ. -/
theorem SameResults.of_silent {history : List (Event α)} (h : ∀ e ∈ history, e.request? = none)
    (history' : List (Event α)) : SameResults history history' := by
  intro before e e' after after' heq _ _ hcounts
  refine absurd (h e ?_) hcounts
  rw [heq]
  exact List.mem_append_right _ List.mem_cons_self

/-- The calls that come next in both histories, after the same beginning, have the same result. -/
theorem SameResults.eq_of_isPrefix {history history' before : List (Event α)} {e e' : Event α}
    (h : SameResults history history') (he : before ++ [e] <+: history)
    (he' : before ++ [e'] <+: history') (hcall : e.request? = e'.request?)
    (hcounts : e.request? ≠ none) : e = e' := by
  obtain ⟨after, hafter⟩ := he
  obtain ⟨after', hafter'⟩ := he'
  rw [List.append_assoc] at hafter hafter'
  exact h _ e e' after after' hafter.symm hafter'.symm hcall hcounts

/-- What an errand does is added at the end of its history. -/
theorem Site.Changes.isPrefix {i : Nat} {kind : Event α → Prop} {s s' : Site υ α}
    (h : s.Changes i kind s') : s.histories i <+: s'.histories i := by
  obtain ⟨events, -, hgrows⟩ := h.grows
  exact ⟨events, hgrows.symm⟩

/-! ## Answers -/

section

variable {i : Nat} (request : Request) (reply : Reply) (s : Site υ α)

/-- Answering a request changes the part of the errand that made it, and adds no note. -/
theorem respond_changes {kind : Event α → Prop} (hkind : ∀ e : Event α, e.Quiet → kind e) :
    s.Changes i kind (respond i request reply s).2 := by
  have hnote : ∀ e : Event α, e.Quiet → (∀ ref x, e.leaves ref x = x) → s.Changes i kind (s.note i e) :=
    fun e hquiet he => Site.changes_note (hkind e hquiet) he s
  cases request with
  | openSession => exact Site.changes_openFor hkind s
  | reserve ref => exact hnote _ nofun fun _ _ => rfl
  | execute ref c statement => exact hnote _ nofun fun _ _ => rfl
  | release ref c => exact hnote _ nofun fun _ _ => rfl
  | consult question => exact hnote _ nofun fun _ _ => rfl
  | publish message => exact .refl i kind s
  | pause ms => exact .refl i kind s
  | draw => exact .refl i kind s
  | sleep ms => exact .refl i kind s

/-- What is not compared leaves the site as it is. -/
theorem respond_beside {heard : Bool} (htold : heard = false → Trial.Settles reply.published)
    {may : Except Fault request.Answer → Prop} (h : beside heard request = some may) :
    may (respond i request reply s).1 ∧ (respond i request reply s).2 = s := by
  cases heard with
  | true => cases h
  | false =>
  cases request with
  | publish message =>
    cases h
    exact ⟨htold rfl, rfl⟩
  | pause ms =>
    cases h
    exact ⟨rfl, rfl⟩
  | _ => cases h

/-- An answer is due: whatever it is where the bus is heard, and if it can be told where the bus is
not. -/
theorem respond_due {heard : Bool} {kind : Event α → Prop}
    (htold : heard = false → Trial.Settles reply.published) :
    (link (υ := υ) heard i kind).Due request (respond i request reply s).1 := by
  refine ⟨fun request' hpaired => ?_, fun may hmay => (respond_beside request reply s htold hmay).1⟩
  cases hpaired with
  | openSession => exact ⟨_, HEq.rfl, _, rfl, owner_sessionName ..⟩
  | draw => exact ⟨.ok reply.drawn, ⟨_, rfl⟩, _, rfl⟩
  | sleep ms ms' => exact ⟨.ok (), ⟨_, rfl⟩, _, rfl⟩
  | _ => exact ⟨_, HEq.rfl⟩

/-- Where the bus is heard, every answer is due. -/
theorem respond_due_heard {kind : Event α → Prop} :
    (link (υ := υ) true i kind).Due request (respond i request reply s).1 :=
  respond_due request reply s fun h => absurd h.symm Bool.false_ne_true

variable {s}

/-- Requests that belong together are answered alike and leave the part of the errand alike, if
calls have the same results. -/
theorem respond_paired {s' : Site υ α} {request' : Request} (hpaired : Paired false request request')
    (hs : s.Agree i s') (reply' : Reply)
    (hsame : ∀ e e', (respond i request reply s).2.histories i = s.histories i ++ [e] →
      (respond i request' reply' s').2.histories i = s'.histories i ++ [e'] →
      e.request? = e'.request? → e.request? ≠ none → e = e') :
    Matching i request request' (respond i request reply s).1 (respond i request' reply' s').1
      ∧ (respond i request reply s).2.Agree i (respond i request' reply' s').2 := by
  have hnote := fun e : Event α => Site.note_histories i e s
  have hnote' := fun e : Event α => Site.note_histories i e s'
  cases hpaired with
  | openSession =>
    refine ⟨⟨?_, _, rfl, owner_sessionName ..⟩, hs.openFor⟩
    simp only [respond, hs.opened]
    exact HEq.rfl
  | reserve ref =>
    have heq := hsame _ _ (hnote _) (hnote' _) rfl nofun
    refine ⟨heq_of_eq (by injection heq), ?_⟩
    rw [respond, respond, heq]
    exact hs.note _
  | execute ref c statement =>
    have heq := hsame _ _ (hnote _) (hnote' _) rfl nofun
    refine ⟨heq_of_eq (by injection heq), ?_⟩
    rw [respond, respond, heq]
    exact hs.note _
  | release ref c =>
    have heq := hsame _ _ (hnote _) (hnote' _) rfl nofun
    refine ⟨heq_of_eq (by injection heq), ?_⟩
    rw [respond, respond, heq]
    exact hs.note _
  | consult question =>
    have heq := hsame _ _ (hnote _) (hnote' _) rfl nofun
    refine ⟨heq_of_eq (by injection heq), ?_⟩
    rw [respond, respond, heq]
    exact hs.note _
  | publish h message => cases h
  | pause h ms => cases h
  | draw => exact ⟨⟨⟨_, rfl⟩, _, rfl⟩, hs⟩
  | sleep ms ms' => exact ⟨⟨⟨_, rfl⟩, _, rfl⟩, hs⟩

end

/-! ## Turns -/

/-- A program changes the part of one errand only, with events of a kind. -/
abbrev KeepsTo {β : Type} (heard : Bool) (i : Nat) (kind : Event α → Prop)
    (p : Program Calls (Site υ α) β) : Prop :=
  p.Confined (Site.Changes i kind) (link (υ := υ) heard i kind).Due

/-- Each errand changes its own part only, whatever the bus answers. -/
def Tame (c : Errands υ α) : Prop :=
  ∀ i, KeepsTo true i (fun _ => True) (c.programs i)

/-- A program that is linked changes the part of its errand only. -/
theorem keepsTo_of_linked {heard : Bool} {i : Nat} {kind : Event α → Prop} {β β' : Type}
    {V : β → β' → Prop} {p : Program Calls (Site υ α) β} {p' : Program Calls (Site υ α) β'}
    (h : Linked (link heard i kind).toLink V p p') (s : Site υ α) : KeepsTo heard i kind p := by
  refine h.confined (fun s => ⟨s, .refl i s⟩) s fun request may hmay => ?_
  cases heard with
  | true => cases hmay
  | false =>
  cases request with
  | publish message =>
    cases hmay
    exact ⟨.ok (), Trial.settles_ok _⟩
  | pause ms =>
    cases hmay
    exact ⟨.ok (), rfl⟩
  | _ => cases hmay

/-- Errands that start side by side change their own parts only. -/
theorem Setting.tame_start (T : Setting υ α) (errands : Nat → Errand υ α) (own : Nat → υ) :
    Tame (T.start errands own) :=
  fun i => keepsTo_of_linked (T.program_linked (errands i)) { own }

/-- A turn changes the part of the errand that has it. -/
theorem Tame.move {c : Errands υ α} (h : Tame c) (t : Turn) :
    Tame (move c t) ∧ c.state.Changes t.who (fun _ => True) (move c t).state := by
  have hwho := h t.who
  have hrest : ∀ p, KeepsTo true t.who (fun _ => True) p → ∀ i,
      KeepsTo true i (fun _ => True) (Function.update c.programs t.who p i) := by
    intro p hp i
    by_cases hi : i = t.who
    · subst hi
      rwa [Function.update_self]
    · rw [Function.update_of_ne hi]
      exact h i
  cases hp : c.programs t.who with
  | done r =>
    simp only [Apart.move, hp]
    exact ⟨h, .refl _ _ _⟩
  | act update next =>
    rw [hp] at hwho
    rw [move_act c t.reply hp]
    exact ⟨hrest _ (hwho c.state).2, (hwho c.state).1⟩
  | ask request next =>
    rw [hp] at hwho
    rw [move_ask c t.reply hp]
    exact ⟨hrest _ (hwho _ (respond_due_heard request t.reply c.state)),
      respond_changes request t.reply c.state fun _ _ => trivial⟩

/-- Histories grow. -/
theorem Tame.moves {c : Errands υ α} (h : Tame c) (turns : List Turn) (i : Nat) :
    Tame (moves c turns) ∧ c.state.histories i <+: (moves c turns).state.histories i := by
  induction turns generalizing c with
  | nil => exact ⟨h, List.prefix_refl _⟩
  | cons t turns ih =>
    obtain ⟨hmove, hchanges⟩ := h.move t
    obtain ⟨hmoves, hgrows⟩ := ih hmove
    refine ⟨hmoves, List.IsPrefix.trans ?_ hgrows⟩
    by_cases hi : i = t.who
    · exact hi ▸ hchanges.isPrefix
    · exact (hchanges.others i hi).histories ▸ List.prefix_refl _

/-! ## An errand among others and alone -/

section

variable {i : Nat} {oracle : Site υ α → Request → Reply} {solo : Except Fault α × Site υ α}
  {c : Errands υ α} (htold : ∀ s request, Trial.Settles (oracle s request).published)

/-- What an errand has left to do alone, where it is as far as among others. -/
def Accompanied (i : Nat) (oracle : Site υ α → Request → Reply) (solo : Except Fault α × Site υ α)
    (c : Errands υ α) : Prop :=
  ∃ q s', Linked (link false i fun _ => True).toLink Eq (c.programs i) q ∧ c.state.Agree i s'
    ∧ q.run (alone i oracle) s' = solo

section

include htold

/-- Alone, an errand gets answers that can be told to what is not compared. -/
theorem alone_beside (request : Request) (may : Except Fault request.Answer → Prop) (s s' : Site υ α)
    (h : beside false request = some may) (hs : s.Agree i s') :
    may (alone i oracle request s').1 ∧ s.Agree i (alone i oracle request s').2 := by
  obtain ⟨hmay, hsite⟩ :=
    respond_beside (i := i) request (oracle s' request) s' (fun _ => htold s' request) h
  refine ⟨hmay, ?_⟩
  rw [alone, hsite]
  exact hs

/-- Alone, the history of an errand grows too. -/
theorem isPrefix_run {q : Program Calls (Site υ α) α} (h : KeepsTo false i (fun _ => True) q)
    (s : Site υ α) : s.histories i <+: (q.run (alone i oracle) s).2.histories i :=
  (h.run (.refl i _) (fun _ _ _ => .trans)
    (fun request s => ⟨respond_due request _ s fun _ => htold s request,
      respond_changes request _ s fun _ _ => trivial⟩)
    s).isPrefix

/-- So far an errand has done among others what it does alone. -/
theorem Accompanied.isPrefix (h : Accompanied i oracle solo c) :
    c.state.histories i <+: solo.2.histories i := by
  obtain ⟨q, s', hq, hs, rfl⟩ := h
  rw [hs.histories]
  exact isPrefix_run htold (keepsTo_of_linked (linked_symm hq) s') s'

/-- An errand that has ended among others ends alike alone, and does nothing else. -/
theorem Accompanied.ended (h : Accompanied i oracle solo c) {r : Except Fault α}
    (hr : c.programs i = .done r) : solo.1 = r ∧ solo.2.histories i = c.state.histories i := by
  obtain ⟨q, s', hq, hs, rfl⟩ := h
  rw [hr] at hq
  obtain ⟨houtcome, hagree⟩ := hq.done_step (alone_beside htold) hs
  exact ⟨(eq_of_outcome houtcome).symm, hagree.histories.symm⟩

/-- A turn of the errand itself. -/
theorem Accompanied.move_self (h : Accompanied i oracle solo c) (reply : Reply)
    (hreply : Trial.Settles reply.published) {history : List (Event α)}
    (hgrowing : (move c ⟨i, reply⟩).state.histories i <+: history)
    (hsame : SameResults history (solo.2.histories i)) :
    Accompanied i oracle solo (move c ⟨i, reply⟩) := by
  obtain ⟨q, s', hq, hs, hrun⟩ := h
  have hself : ∀ p s, (⟨s, Function.update c.programs i p⟩ : Errands υ α).programs i = p := fun p _ =>
    Function.update_self i p c.programs
  cases hp : c.programs i with
  | done r =>
    simp only [move, hp]
    exact ⟨q, s', hq, hs, hrun⟩
  | act update next =>
    rw [hp] at hq
    obtain ⟨q', t', hq', ht, hrun'⟩ := hq.act_step (alone_beside htold) hs
    rw [move_act c reply hp]
    refine ⟨q', t', ?_, ht, hrun'.symm.trans hrun⟩
    rw [hself]
    exact hq'
  | ask request next =>
    rw [hp] at hq
    rw [move_ask c reply hp] at hgrowing ⊢
    rcases hq.ask_step (alone_beside htold) hs with
      ⟨request', next', t', hpaired, ht, hnext, hrun'⟩ | ⟨may, q', t', hmay, ht, hnext, hrun'⟩
    · have hsolo : (next' (alone i oracle request' t').1).run (alone i oracle)
          (alone i oracle request' t').2 = solo := hrun'.symm.trans hrun
      have hconfined := keepsTo_of_linked (linked_symm (.ask hpaired hnext)) t'
      have hgrows : (alone i oracle request' t').2.histories i <+: solo.2.histories i := by
        rw [← hsolo]
        exact isPrefix_run htold (hconfined _ (respond_due request' _ t' fun _ => htold t' request')) _
      obtain ⟨hmatching, hagree⟩ := respond_paired request reply hpaired ht (oracle t' request')
        fun e e' he he' => hsame.eq_of_isPrefix (he ▸ hgrowing) <| by
          rw [alone, he', ← ht.histories] at hgrows
          exact hgrows
      refine ⟨_, _, ?_, hagree, hsolo⟩
      rw [hself]
      exact hnext _ _ hmatching
    · obtain ⟨hanswer, hsite⟩ :=
        respond_beside (i := i) request reply c.state (fun _ => hreply) hmay
      refine ⟨q', t', ?_, hsite.symm ▸ ht, hrun'.symm.trans hrun⟩
      rw [hself]
      exact hnext _ hanswer

end

/-- A turn of another errand. -/
theorem Accompanied.move_other (h : Accompanied i oracle solo c) (hc : Tame c) {t : Turn}
    (ht : i ≠ t.who) : Accompanied i oracle solo (move c t) := by
  obtain ⟨q, s', hq, hs, hrun⟩ := h
  obtain ⟨-, hchanges⟩ := hc.move t
  refine ⟨q, s', ?_, (hchanges.others i ht).symm.trans hs, hrun⟩
  rw [move_of_ne c ht]
  exact hq

include htold in
/-- Whatever turns are taken, what the errand does it does alone, if its calls have the same results
and what the bus tells it can be told. -/
theorem Accompanied.moves (h : Accompanied i oracle solo c) (hc : Tame c) (turns : List Turn)
    (hturns : ∀ t ∈ turns, t.who = i → Trial.Settles t.reply.published)
    (hsame : SameResults ((moves c turns).state.histories i) (solo.2.histories i)) :
    Accompanied i oracle solo (moves c turns) := by
  induction turns generalizing c with
  | nil => exact h
  | cons t turns ih =>
    obtain ⟨htame, -⟩ := hc.move t
    obtain ⟨hturn, hturns⟩ := List.forall_mem_cons.1 hturns
    refine ih ?_ htame hturns hsame
    by_cases ht : i = t.who
    · subst ht
      exact h.move_self htold t.reply (hturn rfl) (htame.moves turns t.who).2 hsame
    · exact h.move_other hc ht

end

/-- An errand that starts among others has everything left to do. -/
theorem Setting.accompanied_start (T : Setting υ α) (errands : Nat → Errand υ α) (own : Nat → υ) (i : Nat)
    (oracle : Site υ α → Request → Reply) :
    Accompanied i oracle (T.byItself i (errands i) own oracle) (T.start errands own) :=
  ⟨_, { own }, T.program_linked (errands i), .refl i _, rfl⟩

end UnitOfWork.Apart
