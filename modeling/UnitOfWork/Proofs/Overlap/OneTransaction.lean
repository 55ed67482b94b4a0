import UnitOfWork.Proofs.Overlap.Connecting

/-!
# One transaction for calls that overlap

Calls for the connection of a session share one connection and one transaction if the first of them
is over before another begins. If another begins before, both wait for a connection, and two are
taken, or both wait for a transaction, and two begin; closing the session then gives back only the
connection that came last. `one_transaction_iff` puts both directions together.
-/

namespace UnitOfWork.Trial

variable {υ ι : Type} {s s' : SessionState} {block : List SessionEvent}

/-! ## What two calls that wait come to -/

/-- A transaction is begun, or the attempt fails. -/
def SessionEvent.begins : SessionEvent → Bool
  | executed _ (.begin _) _ => true
  | _ => false

/-- How often a transaction was begun or could not be. -/
def begins (history : List SessionEvent) : Nat :=
  history.countP SessionEvent.begins

/-- The transactions begun in two blocks are those of the first and those of the second. -/
theorem begins_append (b b' : List SessionEvent) : begins (b ++ b') = begins b + begins b' :=
  List.countP_append

/-- A connection will be taken. -/
def Phase.takes : Phase → Nat
  | reserving => 1
  | _ => 0

/-- A transaction will begin. -/
def Phase.begins : Phase → Nat
  | beginning _ _ => 1
  | _ => 0

/-- A call that will take a connection takes it in its turn or still will. -/
theorem Proceeds.takes_le {φ φ' : Phase} (h : Proceeds s φ block s' φ') :
    φ.takes ≤ (taken block).length + φ'.takes := by
  cases h <;> simp [Phase.takes, SessionEvent.taken?]

/-- A call that will begin a transaction begins it in its turn or still will. -/
theorem Proceeds.begins_le {φ φ' : Phase} (h : Proceeds s φ block s' φ') :
    φ.begins ≤ Trial.begins block + φ'.begins := by
  cases h <;> simp [Phase.begins, Trial.begins, SessionEvent.begins]

section

variable [DecidableEq ι] {w : Surroundings} {ref : SessionRef} {φ : ι → Phase}
  {c : Crowd Calls (Desk υ) (Option Connection) ι} {i j : ι} {schedule : List ι}

/-- If a call begins while another one waits for its connection, two are taken. -/
theorem Connecting.two_taken (h : Connecting w ref φ c)
    (hw : ∀ history request, w.fault? history request = none) (hij : i ≠ j)
    (hi : φ i = .reserving) (hj : φ j = .fresh) (hbare : (c.state.sessions ref).connection = none)
    (hended : (c.play w.serve (j :: schedule)).Ended) :
    ∃ block, (c.play w.serve (j :: schedule)).state.eventsOf ref = c.state.eventsOf ref ++ block
      ∧ 2 ≤ (taken block).length := by
  obtain ⟨hnext, htakes⟩ := h.turn_bare hw hj hbare
  have hcount : ∀ b b', (taken (b ++ b')).length = (taken b).length + (taken b').length := by simp
  obtain ⟨block, hevents, hle⟩ :=
    hnext.done_of_due hcount Proceeds.takes_le (fun _ => rfl) hw hij hended
  rw [Function.update_of_ne hij, Function.update_self, hi] at hle
  rw [htakes.eventsOf_eq, List.append_nil] at hevents
  exact ⟨block, hevents, hle⟩

/-- If a call begins while another one waits for a transaction to begin, two begin. -/
theorem Connecting.two_begun (h : Connecting w ref φ c)
    (hw : ∀ history request, w.fault? history request = none) (hij : i ≠ j) {b : Connection}
    {level : Isolation} (hi : φ i = .beginning b level) (hj : φ j = .fresh)
    (hheld : (c.state.sessions ref).connection = some b)
    (hidle : (c.state.sessions ref).transaction ≠ .active)
    (hended : (c.play w.serve (j :: schedule)).Ended) :
    ∃ block, (c.play w.serve (j :: schedule)).state.eventsOf ref = c.state.eventsOf ref ++ block
      ∧ 2 ≤ begins block := by
  obtain ⟨level', hnext, htakes⟩ := h.turn_idle hw hj hheld hidle
  obtain ⟨block, hevents, hle⟩ :=
    hnext.done_of_due begins_append Proceeds.begins_le (fun _ => rfl) hw hij hended
  rw [Function.update_of_ne hij, Function.update_self, hi] at hle
  rw [htakes.eventsOf_eq, List.append_nil] at hevents
  exact ⟨block, hevents, hle⟩

/-! ## Calls that share a transaction -/

/-- What calls for the connection come to that share one transaction: one connection is taken, one
transaction begins, all calls get that connection, and closing the session afterwards leaves every
connection of the session given back. -/
structure OneTransaction (w : Surroundings) (ref : SessionRef) (d : Desk υ) (held : Connection)
    (block : List SessionEvent) (c : Crowd Calls (Desk υ) (Option Connection) ι) : Prop where
  events : c.state.eventsOf ref = d.eventsOf ref ++ block
  taken_eq : taken block = [held]
  begins_eq : begins block = 1
  outcome : ∀ i, c.programs i = .done (.ok (some held))
  released : ∀ c' ∈ taken (((w.session ref).close.run w.serve c.state).2.eventsOf ref),
    returned c' (((w.session ref).close.run w.serve c.state).2.eventsOf ref) = 1

variable {d : Desk υ} {held : Connection}

/-- If calls share a transaction, the first one is over before another begins. -/
theorem OneTransaction.first_alone (hw : ∀ history request, w.fault? history request = none)
    (hopen : (d.sessions ref).closed = false) (hbare : (d.sessions ref).connection = none)
    (hidle : (d.sessions ref).transaction ≠ .active)
    (h : OneTransaction w ref d held block ((callsFor w ref ι d).play w.serve schedule)) :
    ∃ i P S, schedule = P ++ S ∧ (∀ j ∈ P, j = i)
      ∧ ∃ outcome, ((callsFor w ref ι d).play w.serve P).programs i = .done outcome := by
  have hended : ((callsFor w ref ι d).play w.serve schedule).Ended := fun i => ⟨_, h.outcome i⟩
  have hturns : schedule ≠ [] := by
    rintro rfl
    have hnone := h.taken_eq
    rw [List.self_eq_append_right.1 h.events] at hnone
    cases hnone
  obtain ⟨i, schedule, rfl⟩ := List.exists_cons_of_ne_nil hturns
  obtain ⟨h₁, htakes₁⟩ := (connecting_callsFor hopen).turn_bare hw (i := i) rfl hbare
  have hs₁ := htakes₁.session_eq
  have hevents₁ := htakes₁.eventsOf_eq
  obtain ⟨j, schedule, rfl⟩ := h₁.exists_turn (i := i) (by simp) hended
  by_cases hji : j = i
  swap
  · -- another call begins while the first one waits for its connection
    obtain ⟨block', hevents, hle⟩ := h₁.two_taken hw (Ne.symm hji) (Function.update_self ..)
      (Function.update_of_ne hji _ _) (by rw [hs₁]; exact hbare) hended
    rw [hevents₁, List.append_nil] at hevents
    obtain rfl : block = block' := List.append_cancel_left (h.events.symm.trans hevents)
    rw [h.taken_eq] at hle
    simp at hle
  subst hji
  obtain ⟨b, level, h₂, htakes₂⟩ := h₁.turn_reserving hw (Function.update_self ..)
    (by rw [hs₁]; exact hidle)
  rw [Function.update_idem] at h₂
  obtain ⟨k, schedule, rfl⟩ := h₂.exists_turn (i := j) (by simp) hended
  by_cases hkj : k = j
  · subst hkj
    obtain ⟨held', h₃⟩ := h₂.turn_beginning hw (Function.update_self ..)
    refine ⟨k, [k, k, k], schedule, rfl, by simp, .ok held', ?_⟩
    refine (h₃.programs k).trans ?_
    rw [Function.update_self]
    rfl
  · -- another call begins while the first one waits for its transaction
    obtain ⟨block', hevents, hle⟩ := h₂.two_begun hw (Ne.symm hkj) (Function.update_self ..)
      (Function.update_of_ne hkj _ _) (by rw [htakes₂.session_eq]; rfl)
      (by rw [htakes₂.session_eq, hs₁]; exact hidle) hended
    rw [htakes₂.eventsOf_eq, hevents₁, List.append_nil, List.append_assoc] at hevents
    obtain rfl : block = _ := List.append_cancel_left (h.events.symm.trans hevents)
    have hone := h.begins_eq
    rw [begins_append] at hone
    omega

/-- Once a call is over that was alone, the others find its connection and its transaction. -/
structure Served (w : Surroundings) (ref : SessionRef) (H : List SessionEvent) (s : SessionState)
    (c : Crowd Calls (Desk υ) (Option Connection) ι) : Prop where
  wellFormed : c.state.WellFormed true
  opened : ref < c.state.opened
  events : c.state.eventsOf ref = H
  session : c.state.sessions ref = s
  active : s.transaction = .active
  calls : ∃ φ, Connecting w ref φ c ∧ ∀ i, φ i = .fresh ∨ φ i = .ended s.connection

/-- From then on nothing happens in the session. -/
theorem Served.turn {H : List SessionEvent}
    (hw : ∀ history request, w.fault? history request = none) (h : Served w ref H s c) (i : ι) :
    Served w ref H s (c.turn w.serve i) := by
  obtain ⟨φ, hcalls, hφ⟩ := h.calls
  obtain ⟨block, s', φ', hproceeds, htakes, hnext⟩ := hcalls.turn hw i
  rw [h.session] at hproceeds
  have hquiet : block = [] ∧ s' = s ∧ φ' = .ended s.connection := by
    rcases hφ i with hi | hi <;> rw [hi] at hproceeds
    · cases hproceeds with
      | asks hbare =>
        have hsound := (h.wellFormed.orderly ref).sound
        rw [h.session] at hsound
        obtain ⟨b, hb⟩ := hsound h.active
        rw [hbare] at hb
        cases hb
      | finds hb => exact ⟨rfl, rfl, if_pos h.active⟩
    · cases hproceeds
      exact ⟨rfl, rfl, rfl⟩
  obtain ⟨rfl, rfl, rfl⟩ := hquiet
  have hevents := htakes.eventsOf_eq
  rw [List.append_nil, h.events] at hevents
  refine ⟨h.wellFormed.takes h.opened htakes ?_, htakes.opened ▸ h.opened, hevents, htakes.session_eq,
    h.active, _, hnext, fun j => ?_⟩
  · rw [List.append_nil, ← h.session]
    exact h.wellFormed.reachable ref
  · by_cases hj : j = i
    · subst hj
      exact .inr (Function.update_self ..)
    · rw [Function.update_of_ne hj]
      exact hφ j

/-- A call that is over before another begins took one connection and began one transaction. -/
theorem served_of_alone (hw : ∀ history request, w.fault? history request = none)
    (hd : d.WellFormed true) (ho : ref < d.opened) (hopen : (d.sessions ref).closed = false)
    (hbare : (d.sessions ref).connection = none) {P : List ι} (hP : ∀ j ∈ P, j = i)
    {outcome : Except Fault (Option Connection)}
    (hdone : ((callsFor w ref ι d).play w.serve P).programs i = .done outcome) :
    ∃ held block s, Served w ref (d.eventsOf ref ++ block) s ((callsFor w ref ι d).play w.serve P)
      ∧ s.connection = some held ∧ taken block = [held] ∧ begins block = 1 := by
  have h₀ := connecting_callsFor (ι := ι) hopen (w := w)
  obtain ⟨φ, hcalls⟩ := h₀.play hw P
  obtain ⟨_, -, rfl⟩ := hcalls.ended hdone
  obtain ⟨hlone, hothers⟩ := Crowd.play_alone w.serve (c := callsFor w ref ι d) hP
  obtain ⟨r, block, s, d', hrun, -, hconn, htakes⟩ := w.run_connection ref d (hd.orderly ref).sound
  rw [hdone, Program.run_done] at hlone
  have hends : (_, _) = (r.map some, d') := hlone.trans hrun
  obtain ⟨hr, rfl⟩ := Prod.mk.inj hends
  cases r with
  | error f => cases hr
  | ok b =>
    cases hr
    have hstep : DeskStep Label.Regular d _ := .session (by trivial) ho (.connected hconn) htakes
    have hwell := hd.regular (.single hstep)
    cases hconn with
    | kept _ hheld _ => rw [hbare] at hheld; cases hheld
    | began _ hattach _ =>
      cases hattach with
      | kept hheld => rw [hbare] at hheld; cases hheld
      | borrowed _ =>
        refine ⟨b, _, _, ⟨hwell, htakes.opened ▸ ho, htakes.eventsOf_eq, htakes.session_eq, rfl,
          Function.update (fun _ => .fresh) i (.ended (some b)), ⟨hcalls.isOpen, fun j => ?_⟩,
          fun j => ?_⟩, rfl, rfl, rfl⟩
        · by_cases hj : j = i
          · subst hj
            rw [Function.update_self]
            exact hdone
          · rw [Function.update_of_ne hj]
            exact hothers j hj
        · by_cases hj : j = i
          · subst hj
            exact .inr (Function.update_self ..)
          · exact .inl (Function.update_of_ne hj _ _)

/-- Calls for the connection of an open session that has none, however they take turns and where
nothing fails, share one connection and one transaction exactly if the first of them is over before
another begins. -/
theorem one_transaction_iff (w : Surroundings) (hw : ∀ history request, w.fault? history request = none)
    {ref : SessionRef} {d : Desk υ} (hd : d.WellFormed true) (ho : ref < d.opened)
    (hopen : (d.sessions ref).closed = false) (hbare : (d.sessions ref).connection = none) (n : Nat)
    (schedule : List (Fin n)) (hended : ((callsFor w ref (Fin n) d).play w.serve schedule).Ended) :
    (∃ held block, OneTransaction w ref d held block
        ((callsFor w ref (Fin n) d).play w.serve schedule))
      ↔ ∃ i P S, schedule = P ++ S ∧ (∀ j ∈ P, j = i)
        ∧ ∃ outcome, ((callsFor w ref (Fin n) d).play w.serve P).programs i = .done outcome := by
  constructor
  · rintro ⟨held, block, h⟩
    exact h.first_alone hw hopen hbare ((hd.orderly ref).sound.idle_of_bare hbare)
  · rintro ⟨i, P, S, rfl, hP, outcome, hdone⟩
    obtain ⟨held, block, s, hserved, hheld, htaken, hbegins⟩ :=
      served_of_alone hw hd ho hopen hbare hP hdone
    rw [Crowd.play_append] at hended ⊢
    have hlast := Crowd.play_keeps w.serve (fun c i => Served.turn hw (c := c) (i := i)) hserved S
    generalize ((callsFor w ref (Fin n) d).play w.serve P).play w.serve S = c at hended hlast
    obtain ⟨φ, hcalls, hφ⟩ := hlast.calls
    obtain ⟨d', hclose, hdrives⟩ := w.run_close ref c.state
    have hd' := hlast.wellFormed.drives hlast.opened hdrives
    refine ⟨held, block, hlast.events, htaken, hbegins, fun k => ?_, fun c' hc' => ?_⟩
    · obtain ⟨_, hk⟩ := hended k
      obtain ⟨held', hphase, -⟩ := hcalls.ended hk
      rcases hφ k with hfresh | hphase'
      · rw [hfresh] at hphase
        cases hphase
      · refine (hcalls.programs k).trans ?_
        rw [hphase', hheld]
        rfl
    · rw [hclose] at hc' ⊢
      exact (hd'.reachable ref).returned_of_closed hdrives.closed hc'

end

/-- Two calls on a new session, in the turns of a schedule. -/
def twoCalls (schedule : List (Fin 2)) : Crowd Calls (Desk Unit) (Option Connection) (Fin 2) :=
  (callsFor .calm 0 (Fin 2) ({ own := () } : Desk Unit).openSession.2).play Surroundings.calm.serve
    schedule

/-- The second of two calls begins when the first one is over, and they share a transaction. -/
theorem shared_in_turn :
    ∃ held block, OneTransaction .calm 0 ({ own := () } : Desk Unit).openSession.2 held block
      (twoCalls [0, 0, 0, 1]) := by
  have hended : (twoCalls [0, 0, 0, 1]).Ended := Fin.forall_fin_two.2 ⟨⟨_, rfl⟩, ⟨_, rfl⟩⟩
  exact (one_transaction_iff .calm (fun _ _ => rfl) (Desk.WellFormed.start true ()).openSession
    Nat.zero_lt_one rfl rfl 2 [0, 0, 0, 1] hended).2 ⟨0, [0, 0, 0], [1], rfl, by simp, _, rfl⟩

/-- The second of two calls begins while the first one waits for its connection: each takes one, and
once the session is closed the first one is still not given back and its transaction not ended. -/
theorem leaked_by_overlap :
    let c := twoCalls [0, 1, 0, 0, 1]
    let d := ((Surroundings.calm.session 0).close.run Surroundings.calm.serve c.state).2
    c.programs 0 = .done (.ok (some ⟨1⟩)) ∧ c.programs 1 = .done (.ok (some ⟨2⟩))
      ∧ taken (d.eventsOf 0) = [⟨1⟩, ⟨2⟩] ∧ Begun ⟨1⟩ (d.eventsOf 0)
      ∧ returned ⟨1⟩ (d.eventsOf 0) = 0 :=
  ⟨rfl, rfl, rfl, ⟨0, rfl⟩, rfl⟩

end UnitOfWork.Trial
