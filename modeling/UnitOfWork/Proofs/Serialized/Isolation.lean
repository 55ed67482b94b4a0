import UnitOfWork.Proofs.Serialized.Effects

/-!
# The isolation level of an attempt

An attempt sets its session to begin serializable transactions before work gets it. No operation but
the setting of a level changes that as long as the session is open (`Does.serializable`), so
whatever work does that sets no level, and whatever fails, every transaction of an attempt is
serializable (`Attempted.adds_serializable`).
-/

namespace UnitOfWork.Trial

variable {υ α : Type} {ref : SessionRef} {s s' : SessionState} {block : List SessionEvent}

/-! ## Sessions that begin serializable transactions -/

/-- Transactions that a session begins are serializable; one that is closed begins none. -/
def Serializing (s : SessionState) : Prop :=
  s.closed = false → s.isolation = .serializable

/-- A closed session begins nothing that is not serializable. -/
theorem serializing_of_closed (h : s.closed = true) : Serializing s := by
  intro ho
  rw [h] at ho
  cases ho

/-- A transaction that begins is serializable. -/
def SessionEvent.Serializable : SessionEvent → Prop
  | executed _ (.begin level) _ => level = .serializable
  | _ => True

/-- A transaction that begins is serializable. -/
def Event.Serializable : Event → Prop
  | session _ e => e.Serializable
  | _ => True

/-- Coming to hold a connection leaves the isolation level alone. -/
theorem Attaches.serializable {c : Connection} (h : Attaches s block c s') :
    s'.closed = s.closed ∧ s'.isolation = s.isolation ∧ ∀ e ∈ block, e.Serializable := by
  cases h with
  | kept h => exact ⟨rfl, rfl, by simp⟩
  | borrowed h => exact ⟨rfl, rfl, by simp [SessionEvent.Serializable]⟩

/-- Where the level is serializable, connecting begins a serializable transaction. -/
theorem Connects.serializable {r : Except Fault Connection} (h : Connects s block r s')
    (hs : Serializing s) :
    Serializing s' ∧ ∀ e ∈ block, e.Serializable := by
  cases h with
  | closed h => exact ⟨hs, by simp⟩
  | refused ho h => exact ⟨hs, by simp [SessionEvent.Serializable]⟩
  | kept ho h ha => exact ⟨hs, by simp⟩
  | stuck ho h hi =>
    obtain ⟨hclosed, hisolation, hblock⟩ := h.serializable
    refine ⟨fun hc => hisolation.trans (hs (hclosed ▸ hc)), List.forall_mem_append.2 ⟨hblock, ?_⟩⟩
    simpa [SessionEvent.Serializable] using hs ho
  | began ho h hi =>
    obtain ⟨hclosed, hisolation, hblock⟩ := h.serializable
    refine ⟨fun hc => hisolation.trans (hs (hclosed ▸ hc)), List.forall_mem_append.2 ⟨hblock, ?_⟩⟩
    simpa [SessionEvent.Serializable] using hs ho

/-- A call that does not set the level keeps a session to serializable transactions. -/
theorem Does.serializable {call : SessionCall} {f : Option Fault} (h : Does s call block f s')
    (hcall : ∀ level, call ≠ .setIsolation level) (hs : Serializing s) :
    Serializing s' ∧ ∀ e ∈ block, e.Serializable := by
  have hhanding : ∀ messages, ∀ e ∈ handing messages, e.Serializable := by
    intro messages
    cases messages <;> simp [handing, SessionEvent.Serializable]
  cases h with
  | isolated ho hi => exact absurd rfl (hcall _)
  | notIsolated ho ha => exact absurd rfl (hcall _)
  | connected h => exact h.serializable hs
  | queried h =>
    obtain ⟨hs', hblock⟩ := h.serializable hs
    exact ⟨hs', List.forall_mem_append.2 ⟨hblock, by simp [SessionEvent.Serializable]⟩⟩
  | notQueried h => exact h.serializable hs
  | committed ho hc =>
    exact ⟨hs, List.forall_mem_append.2 ⟨by simp [SessionEvent.Serializable], hhanding _⟩⟩
  | flushed ho hc => exact ⟨hs, hhanding _⟩
  | closedBare ho hc => exact ⟨serializing_of_closed rfl, by simp⟩
  | closedIdle ho hc hi =>
    exact ⟨serializing_of_closed rfl, by simp [SessionEvent.Serializable]⟩
  | closedActive ho hc ha =>
    exact ⟨serializing_of_closed rfl, by simp [SessionEvent.Serializable]⟩
  | _ => exact ⟨hs, by simp [SessionEvent.Serializable]⟩

/-- A step that keeps the isolation level keeps a session serializing, and every transaction it
begins is serializable. -/
theorem SessionStep.serializable {a : Action} (h : SessionStep s a block s')
    (ha : Label.KeepsIsolation (.on ref a)) (hs : Serializing s) :
    Serializing s' ∧ ∀ e ∈ block, e.Serializable := by
  cases h with
  | called hdoes =>
    obtain ⟨hs', hblock⟩ := hdoes.serializable (by rintro level rfl; exact ha) hs
    refine ⟨hs', List.forall_mem_append.2 ⟨List.forall_mem_append.2 ⟨?_, hblock⟩, ?_⟩⟩ <;>
      simp [SessionEvent.Serializable]
  | driven hdoes => exact hdoes.serializable (by rintro level rfl; exact ha) hs
  | connected hconn => exact hconn.serializable hs
  | @executed c statement hplain f =>
    cases statement <;> first
      | exact hplain.elim
      | exact ⟨hs, by simp [SessionEvent.Serializable]⟩
  | _ => exact ⟨hs, by simp [SessionEvent.Serializable]⟩

/-- A session that begins serializable transactions goes on to do so, and whatever begins on the way
is serializable. -/
def Desk.StaysSerializable (ref : SessionRef) (d d' : Desk υ) : Prop :=
  Serializing (d.sessions ref) → Serializing (d'.sessions ref) ∧ d.Adds Event.Serializable d'

section

variable {ref : SessionRef} {d d₁ d₂ : Desk υ}

/-- What stays serializable in two parts stays so. -/
theorem Desk.StaysSerializable.trans (h : d.StaysSerializable ref d₁)
    (h' : d₁.StaysSerializable ref d₂) : d.StaysSerializable ref d₂ := by
  intro hs
  obtain ⟨hs₁, hadds⟩ := h hs
  obtain ⟨hs₂, hadds'⟩ := h' hs₁
  exact ⟨hs₂, hadds.trans hadds'⟩

/-- What is no transaction's beginning may be noted. -/
theorem Desk.StaysSerializable.note {e : Event} (he : e.Serializable) :
    d.StaysSerializable ref (d.note e) :=
  fun hs => ⟨hs, .note d he⟩

/-- What a session goes through is added to the history, and is of the kind that it is. -/
theorem Desk.Takes.adds_serializable {r : SessionRef} (h : d.Takes r block s d₁)
    (hblock : ∀ e ∈ block, e.Serializable) : d.Adds Event.Serializable d₁ := by
  refine h.adds hblock fun e hdel => ?_
  cases e <;> first | exact trivial | exact hdel.elim

/-- A driver's call that does not set the level keeps a session to serializable transactions. -/
theorem Desk.Drives.staysSerializable {call : SessionCall} {f : Option Fault}
    (h : d.Drives ref call f d₁) (hcall : ∀ level, call ≠ .setIsolation level) :
    d.StaysSerializable ref d₁ := by
  obtain ⟨block, s, hdoes, htakes⟩ := h
  intro hs
  obtain ⟨hs', hblock⟩ := hdoes.serializable hcall hs
  exact ⟨htakes.session_eq ▸ hs', htakes.adds_serializable hblock⟩

/-- Work that keeps to its session and sets no isolation level begins serializable transactions
only. -/
theorem Walk.staysSerializable
    (h : Walk (fun l => Label.Confined ref l ∧ Label.KeepsIsolation l) d d₁) :
    d.StaysSerializable ref d₁ := by
  induction h with
  | refl => exact fun hs => ⟨hs, .refl d⟩
  | tail _ hstep ih =>
    refine ih.trans ?_
    cases hstep with
    | session hrule ho hsession htakes =>
      obtain ⟨rfl, -, -⟩ := hrule.1.eq
      intro hs
      obtain ⟨hs', hblock⟩ := hsession.serializable hrule.2 hs
      exact ⟨htakes.session_eq ▸ hs', htakes.adds_serializable hblock⟩
    | opens hrule => exact hrule.1.elim
    | kept own log => exact fun hs => ⟨hs, .refl _⟩
    | consulted question => exact .note trivial

variable {w : Surroundings} {work : SessionRef → Scope → Work υ α} {scope : Scope}

/-- Until its work has ended an attempt begins serializable transactions only, if the work sets no
isolation level. -/
theorem Ran.serializable {r : Except Fault α} (h : Ran w work scope d r d₁)
    (hwork : ∀ ref scope, (work ref scope).Sayable)
    (hconfined : ∀ ref scope, (work ref scope).Obeys (Label.Confined ref))
    (hkeeps : ∀ ref scope, (work ref scope).Obeys Label.KeepsIsolation) (hd : d.WellFormed true)
    (f : Option Fault) :
    Serializing (d₁.sessions d.opened) ∧ d.Adds Event.Serializable (d₁.noteEnd d.opened f) := by
  obtain ⟨d₂, hset, hwalk⟩ := h.walk hwork ((hconfined _ _).and (hkeeps _ _)) hd
  have hopens : d.Adds Event.Serializable d.openSession.2 := .note _ trivial
  obtain ⟨block, s, hdoes, htakes⟩ := hset
  obtain ⟨hs, hblock⟩ : Serializing s ∧ block = [] := by
    cases hdoes with
    | isolated ho hi => exact ⟨fun _ => rfl, rfl⟩
  have hset' : d.openSession.2.Adds Event.Serializable d₂ :=
    htakes.adds_serializable (by simp [hblock])
  have hs₂ : Serializing (d₂.sessions d.opened) := htakes.session_eq ▸ hs
  have hrest : d₂.StaysSerializable d.opened d₁ :=
    .trans (.note (e := .workBegan d.opened (some d.opened)) trivial)
      (hwalk.mono fun _ => And.right).staysSerializable
  obtain ⟨hs₁, hadds⟩ := hrest hs₂
  have hended : d₁.Adds Event.Serializable (d₁.noteEnd d.opened f) := .note _ trivial
  exact ⟨hs₁, ((hopens.trans hset').trans hadds).trans hended⟩

/-- All transactions of an attempt are serializable, if its work sets no isolation level. -/
theorem Attempted.adds_serializable (hwork : ∀ ref scope, (work ref scope).Sayable)
    (hconfined : ∀ ref scope, (work ref scope).Obeys (Label.Confined ref))
    (hkeeps : ∀ ref scope, (work ref scope).Obeys Label.KeepsIsolation) (hd : d.WellFormed true)
    {outcome : Except Fault α} (h : Attempted w work scope d outcome d₁) :
    d.Adds Event.Serializable d₁ := by
  cases h with
  | returned hworked hclose =>
    cases hworked with
    | committed hran hcommit =>
      obtain ⟨hs, hadds⟩ := hran.serializable hwork hconfined hkeeps hd none
      have hend := (hcommit.staysSerializable nofun).trans (hclose.staysSerializable nofun)
      exact hadds.trans (hend hs).2
  | failed hworked hrollback hclose =>
    have hend := (hrollback.staysSerializable nofun).trans (hclose.staysSerializable nofun)
    cases hworked with
    | notCommitted hran hcommit =>
      obtain ⟨hs, hadds⟩ := hran.serializable hwork hconfined hkeeps hd none
      have hend' := (hcommit.staysSerializable nofun).trans hend
      exact hadds.trans (hend' hs).2
    | failed hran =>
      obtain ⟨hs, hadds⟩ := hran.serializable hwork hconfined hkeeps hd _
      exact hadds.trans (hend hs).2

end

end UnitOfWork.Trial
