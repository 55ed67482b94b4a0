import UnitOfWork.Proofs.Overlap.Crowd
import UnitOfWork.Proofs.Serialized.Attempt

/-!
# Calls for the connection that overlap

A call of `Session.connection` waits twice: for the connection and for the transaction to begin.
`Phase` says how far it is, and `Proceeds` what its next turn does. Calls look whether there is a
connection, and whether a transaction is active, before they wait, so two of them that both wait
take two connections or begin two transactions. `one_transaction_iff` says that overlapping calls
share one connection and one transaction exactly if the first one to begin is over before another
begins.
-/

namespace UnitOfWork.Trial

variable {υ ι : Type} {s s' : SessionState} {H block : List SessionEvent}

/-! ## The phases of a call -/

/-- How far a call for the connection is. -/
inductive Phase where
  | fresh
  | reserving
  | beginning (c : Connection) (level : Isolation)
  | ended (held : Option Connection)

namespace Surroundings

variable (w : Surroundings) (ref : SessionRef)

/-- What a call for the connection does once the session has a connection. -/
def settleOn (c : Connection) : Program Calls (Desk υ) (Option Connection) := do
  if (← (w.session ref).state.load).transaction ≠ .active then (w.session ref).begin c
  return (← (w.session ref).state.load).connection

/-- What a call for the connection does once it got one. -/
def onReserved (r : Except Fault Connection) : Program Calls (Desk υ) (Option Connection) :=
  (do
    let c ← Program.done r
    (w.session ref).state.modify (·.withConnection (some c))
    pure c) >>= w.settleOn ref

/-- What a call for the connection does once BEGIN was executed. -/
def onBegun (r : Except Fault Unit) : Program Calls (Desk υ) (Option Connection) :=
  (do
    let _ ← Program.done r
    (w.session ref).state.modify fun d => (d.withTransaction .active).dropMessages
    (w.session ref).journal.write .debug "Transaction began" ((w.session (υ := υ) ref).mark
      ++ Journal.field "isolationLevel" (← (w.session ref).state.load).isolation.name)) >>= fun _ => do
  return (← (w.session ref).state.load).connection

/-- What is left of a call for the connection. -/
def remaining : Phase → Program Calls (Desk υ) (Option Connection)
  | .fresh => (w.session ref).connection
  | .reserving => .ask (.reserve ref) (w.onReserved ref)
  | .beginning c level => .ask (.execute ref c (.begin level)) (w.onBegun ref)
  | .ended held => .done (.ok held)

end Surroundings

/-- How far a call is that just found or got a connection. -/
def settling (s : SessionState) (c : Connection) : Phase :=
  if s.transaction = .active then .ended s.connection else .beginning c s.isolation

/-- What one turn of a call for the connection does where nothing fails: its events, the state that
it leaves and how far it gets. -/
inductive Proceeds (s : SessionState) : Phase → List SessionEvent → SessionState → Phase → Prop where
  | asks (h : s.connection = none) : Proceeds s .fresh [] s .reserving
  | finds {c : Connection} (h : s.connection = some c) : Proceeds s .fresh [] s (settling s c)
  | takes (c : Connection) : Proceeds s .reserving [.reserved (.ok c)] (s.withConnection (some c))
      (settling (s.withConnection (some c)) c)
  | begins (c : Connection) (level : Isolation) :
      Proceeds s (.beginning c level) [.executed c (.begin level) none]
        (s.withTransaction .active).dropMessages (.ended s.connection)
  | rests (held : Option Connection) : Proceeds s (.ended held) [] s (.ended held)

/-- A turn never closes a session. -/
theorem Proceeds.closed_eq {φ φ' : Phase} (h : Proceeds s φ block s' φ') : s'.closed = s.closed := by
  cases h <;> rfl

/-! ## Turns go by phases -/

namespace Surroundings

variable (w : Surroundings) (ref : SessionRef) (d : Desk υ)

@[simp] theorem advance_reserve :
    ((w.session ref).reserve : Program Calls (Desk υ) Connection).advance d
      = (d, .asked (.reserve ref) .done) := rfl

@[simp] theorem advance_execute (c : Connection) (statement : Statement) :
    ((w.session ref).execute c statement : Program Calls (Desk υ) Unit).advance d
      = (d, .asked (.execute ref c statement) .done) := rfl

/-- An entry is written without a stop. -/
theorem advance_enter (level : Level) (message : Text) (fields : Json.Members) :
    ((w.session ref).journal.write level message fields : Program Calls (Desk υ) Unit).advance d
      = (d.after ref (d.sessions ref) [] (w.entered d.history level message fields d.log)
          d.connections, .ended (.ok ())) := by
  show (w.journal.write level message fields).advance d = _
  simp [Journal.write, Program.tryChange, Program.advance, Journal.written, journal, Desk.logCell,
    write_eq_ok, Except.map, Desk.after]

open Program in
/-- Settling on a connection stops where the transaction is to begin, and ends where it is
active. -/
theorem advance_settleOn (c : Connection) :
    halted ((w.settleOn ref c).advance d) = (w.remaining ref (settling (d.sessions ref) c), d) := by
  by_cases ha : (d.sessions ref).transaction = .active
  · simp [settleOn, advance_bind, ha, settling, remaining, halted]
  · simp [settleOn, advance_bind, ha, settling, remaining, halted, Session.begin]
    rfl

open Program in
/-- A call for the connection stops to wait for one where the session has none, and settles on it
otherwise.
-/
theorem advance_connection (ho : (d.sessions ref).closed = false) :
    halted ((w.session ref).connection.advance d) = match (d.sessions ref).connection with
      | none => (w.remaining ref .reserving, d)
      | some c => (w.remaining ref (settling (d.sessions ref) c), d) := by
  cases hc : (d.sessions ref).connection with
  | none =>
    simp only [Session.connection, Session.assertOpen, Session.attach, advance_bind, advance_load,
      advance_pure, session_state_get, ho, hc, Bool.false_eq_true, ↓reduceIte, advance_reserve]
    rfl
  | some c =>
    simp only [Session.connection, Session.assertOpen, Session.attach, advance_bind, advance_load,
      advance_pure, session_state_get, ho, hc, Bool.false_eq_true, ↓reduceIte]
    exact w.advance_settleOn ref d c

/-- A turn of a call for the connection does what `Proceeds` says. -/
theorem turn_remaining (hw : ∀ history request, w.fault? history request = none)
    (ho : (d.sessions ref).closed = false) (φ : Phase) :
    ∃ block s φ' d', (w.remaining ref φ).turn w.serve d = (w.remaining ref φ', d')
      ∧ Proceeds (d.sessions ref) φ block s φ' ∧ d.Takes ref block s d' := by
  cases φ with
  | fresh =>
    have hturn : (w.remaining ref .fresh).turn w.serve d
        = Program.halted ((w.session ref).connection.advance d) := rfl
    rw [hturn, w.advance_connection ref d ho]
    cases hc : (d.sessions ref).connection with
    | none => exact ⟨[], _, _, d, rfl, .asks hc, .refl d ref⟩
    | some c => exact ⟨[], _, _, d, rfl, .finds hc, .refl d ref⟩
  | reserving =>
    let c : Connection := ⟨d.connections + 1⟩
    let d₁ := d.after ref ((d.sessions ref).withConnection (some c)) [.reserved (.ok c)] d.log
      (d.connections + 1)
    have hserve : w.serve (.reserve ref) d = _ := w.run_reserve_of_none ref d (hw _ _)
    have hturn : (w.remaining ref .reserving).turn w.serve d
        = Program.halted ((w.settleOn ref c).advance d₁) := by
      show Program.halted ((w.onReserved ref _).advance (w.serve (.reserve ref) d).2) = _
      rw [hserve]
      simp [onReserved, Program.advance_bind, c, d₁]
    rw [hturn, w.advance_settleOn ref d₁ c, Desk.after_sessions]
    exact ⟨_, _, _, d₁, rfl, .takes c, .afterHandOut d _ _ rfl⟩
  | beginning c level =>
    have hserve : w.serve (.execute ref c (.begin level)) d = _ :=
      w.run_execute ref d c (.begin level)
    rw [hw] at hserve
    have hturn : ∃ log, (w.remaining ref (.beginning c level)).turn w.serve d
        = (w.remaining ref (.ended (d.sessions ref).connection),
          d.after ref ((d.sessions ref).withTransaction .active).dropMessages
            [.executed c (.begin level) none] log d.connections) := by
      show ∃ log, Program.halted ((w.onBegun ref _).advance (w.serve _ d).2) = _
      rw [hserve]
      simp only [onBegun, Program.advance_bind, Program.advance_done, Program.advance_modify,
        Program.advance_load, Program.advance_pure, Fault.toResult_none, advance_enter,
        session_state_update, session_state_get, Desk.after_after, Desk.after_sessions,
        List.append_nil]
      exact ⟨_, rfl⟩
    obtain ⟨log, hturn⟩ := hturn
    exact ⟨_, _, _, _, hturn, .begins c level, .after d _ log rfl⟩
  | ended held => exact ⟨[], _, _, d, rfl, .rests held, .refl d ref⟩

end Surroundings

/-! ## Crowds of calls -/

/-- Every program of a crowd is a call for the connection of an open session, each at some phase. -/
structure Connecting (w : Surroundings) (ref : SessionRef) (φ : ι → Phase)
    (c : Crowd Calls (Desk υ) (Option Connection) ι) : Prop where
  isOpen : (c.state.sessions ref).closed = false
  programs : ∀ i, c.programs i = w.remaining ref (φ i)

/-- Calls for the connection of a session, none of which has begun. -/
def callsFor (w : Surroundings) (ref : SessionRef) (ι : Type) (d : Desk υ) :
    Crowd Calls (Desk υ) (Option Connection) ι :=
  ⟨d, fun _ => (w.session ref).connection⟩

/-- Calls for the connection of an open session start from the first phase. -/
theorem connecting_callsFor {w : Surroundings} {ref : SessionRef} {d : Desk υ}
    (ho : (d.sessions ref).closed = false) :
    Connecting w ref (fun _ => .fresh) (callsFor w ref ι d) :=
  ⟨ho, fun _ => rfl⟩

section

variable {w : Surroundings} {ref : SessionRef} {φ : ι → Phase}
  {c : Crowd Calls (Desk υ) (Option Connection) ι}

/-- Only a call that is over has ended. -/
theorem ended_of_remaining {φ : Phase} {outcome : Except Fault (Option Connection)}
    (h : (w.remaining ref φ : Program Calls (Desk υ) _) = .done outcome) :
    ∃ held, φ = .ended held ∧ outcome = .ok held := by
  cases φ with
  | fresh => cases h
  | reserving => cases h
  | beginning b level => cases h
  | ended held =>
    cases h
    exact ⟨held, rfl, rfl⟩

/-- A call of a crowd that has ended is over. -/
theorem Connecting.ended (h : Connecting w ref φ c) {i : ι} {outcome : Except Fault (Option Connection)}
    (hdone : c.programs i = .done outcome) : ∃ held, φ i = .ended held ∧ outcome = .ok held :=
  ended_of_remaining ((h.programs i).symm.trans hdone)

variable [DecidableEq ι]

/-- Where a call is not over yet, there is a turn to come before all calls have ended. -/
theorem Connecting.exists_turn (h : Connecting w ref φ c) {i : ι} (hi : ∀ held, φ i ≠ .ended held)
    {schedule : List ι} (hended : (c.play w.serve schedule).Ended) :
    ∃ k rest, schedule = k :: rest := by
  cases schedule with
  | nil =>
    obtain ⟨outcome, hdone⟩ := hended i
    obtain ⟨held, hphase, -⟩ := h.ended hdone
    exact absurd hphase (hi held)
  | cons k rest => exact ⟨k, rest, rfl⟩

/-- One call of a crowd goes on. -/
theorem Connecting.turn (h : Connecting w ref φ c)
    (hw : ∀ history request, w.fault? history request = none) (i : ι) :
    ∃ block s φ', Proceeds (c.state.sessions ref) (φ i) block s φ'
      ∧ c.state.Takes ref block s (c.turn w.serve i).state
      ∧ Connecting w ref (Function.update φ i φ') (c.turn w.serve i) := by
  obtain ⟨block, s, φ', d', hturn, hproceeds, htakes⟩ :=
    w.turn_remaining ref c.state hw h.isOpen (φ i)
  rw [← h.programs i] at hturn
  have hstate : (c.turn w.serve i).state = d' := congrArg Prod.snd hturn
  refine ⟨block, s, φ', hproceeds, hstate ▸ htakes, ?_, fun j => ?_⟩
  · rw [hstate, htakes.session_eq, hproceeds.closed_eq]
    exact h.isOpen
  · have hprograms : (c.turn w.serve i).programs
        = Function.update c.programs i (w.remaining ref φ') :=
      congrArg (Function.update c.programs i) (congrArg Prod.fst hturn)
    rw [hprograms]
    by_cases hj : j = i
    · subst hj
      rw [Function.update_self, Function.update_self]
    · rw [Function.update_of_ne hj, Function.update_of_ne hj]
      exact h.programs j

/-- What is due is done: a weight of phases that a turn gives up only for an event that is counted
bounds, for two calls, how many such events there will be. -/
theorem Connecting.play_due {count : List SessionEvent → Nat} {weight : Phase → Nat}
    (hcount : ∀ b b', count (b ++ b') = count b + count b')
    (hdue : ∀ {s φ block s' φ'}, Proceeds s φ block s' φ' → weight φ ≤ count block + weight φ')
    (h : Connecting w ref φ c) (hw : ∀ history request, w.fault? history request = none)
    {i j : ι} (hij : i ≠ j) (schedule : List ι) :
    ∃ block φ', (c.play w.serve schedule).state.eventsOf ref = c.state.eventsOf ref ++ block
      ∧ Connecting w ref φ' (c.play w.serve schedule)
      ∧ weight (φ i) + weight (φ j) ≤ count block + (weight (φ' i) + weight (φ' j)) := by
  induction schedule generalizing φ c with
  | nil => exact ⟨[], φ, (List.append_nil _).symm, h, Nat.le_add_left _ _⟩
  | cons k schedule ih =>
    obtain ⟨block, s, φ', hproceeds, htakes, hnext⟩ := h.turn hw k
    obtain ⟨block', φ'', hevents, hlast, hle⟩ := ih hnext
    refine ⟨block ++ block', φ'', ?_, hlast, ?_⟩
    · rw [Crowd.play_cons, hevents, htakes.eventsOf_eq, List.append_assoc]
    · have hturn := hdue hproceeds
      rw [hcount]
      by_cases hki : i = k
      · subst hki
        rw [Function.update_self, Function.update_of_ne hij.symm] at hle
        omega
      · rw [Function.update_of_ne hki] at hle
        by_cases hkj : j = k
        · subst hkj
          rw [Function.update_self] at hle
          omega
        · rw [Function.update_of_ne hkj] at hle
          omega

/-- The turn of a call that finds no connection. -/
theorem Connecting.turn_bare (h : Connecting w ref φ c)
    (hw : ∀ history request, w.fault? history request = none) {i : ι} (hφ : φ i = .fresh)
    (hbare : (c.state.sessions ref).connection = none) :
    Connecting w ref (Function.update φ i .reserving) (c.turn w.serve i)
      ∧ c.state.Takes ref [] (c.state.sessions ref) (c.turn w.serve i).state := by
  obtain ⟨block, s, φ', hproceeds, htakes, hnext⟩ := h.turn hw i
  rw [hφ] at hproceeds
  cases hproceeds with
  | asks => exact ⟨hnext, htakes⟩
  | finds hc => rw [hbare] at hc; cases hc

/-- The turn of a call that finds a connection on which no transaction is active. -/
theorem Connecting.turn_idle (h : Connecting w ref φ c)
    (hw : ∀ history request, w.fault? history request = none) {i : ι} (hφ : φ i = .fresh)
    {held : Connection} (hheld : (c.state.sessions ref).connection = some held)
    (hidle : (c.state.sessions ref).transaction ≠ .active) :
    ∃ level, Connecting w ref (Function.update φ i (.beginning held level)) (c.turn w.serve i)
      ∧ c.state.Takes ref [] (c.state.sessions ref) (c.turn w.serve i).state := by
  obtain ⟨block, s, φ', hproceeds, htakes, hnext⟩ := h.turn hw i
  rw [hφ] at hproceeds
  cases hproceeds with
  | asks hbare => rw [hbare] at hheld; cases hheld
  | finds hc =>
    obtain rfl := Option.some.inj (hheld.symm.trans hc)
    rw [settling, if_neg hidle] at hnext
    exact ⟨_, hnext, htakes⟩

/-- The turn of a call that gets its connection while no transaction is active. -/
theorem Connecting.turn_reserving (h : Connecting w ref φ c)
    (hw : ∀ history request, w.fault? history request = none) {i : ι} (hφ : φ i = .reserving)
    (hidle : (c.state.sessions ref).transaction ≠ .active) :
    ∃ held level, Connecting w ref (Function.update φ i (.beginning held level)) (c.turn w.serve i)
      ∧ c.state.Takes ref [.reserved (.ok held)] ((c.state.sessions ref).withConnection (some held))
        (c.turn w.serve i).state := by
  obtain ⟨block, s, φ', hproceeds, htakes, hnext⟩ := h.turn hw i
  rw [hφ] at hproceeds
  cases hproceeds with
  | takes held =>
    have hidle' : ((c.state.sessions ref).withConnection (some held)).transaction ≠ .active := hidle
    rw [settling, if_neg hidle'] at hnext
    exact ⟨held, _, hnext, htakes⟩

/-- The turn of a call whose transaction begins. -/
theorem Connecting.turn_beginning (h : Connecting w ref φ c)
    (hw : ∀ history request, w.fault? history request = none) {i : ι} {b : Connection}
    {level : Isolation} (hφ : φ i = .beginning b level) :
    ∃ held, Connecting w ref (Function.update φ i (.ended held)) (c.turn w.serve i) := by
  obtain ⟨block, s, φ', hproceeds, -, hnext⟩ := h.turn hw i
  rw [hφ] at hproceeds
  cases hproceeds
  exact ⟨_, hnext⟩

/-- A crowd of calls stays one. -/
theorem Connecting.play (h : Connecting w ref φ c)
    (hw : ∀ history request, w.fault? history request = none) (schedule : List ι) :
    ∃ φ', Connecting w ref φ' (c.play w.serve schedule) := by
  have hturn : ∀ (c : Crowd Calls (Desk υ) (Option Connection) ι) (i : ι),
      (∃ φ, Connecting w ref φ c) → ∃ φ, Connecting w ref φ (c.turn w.serve i) := by
    rintro c i ⟨φ, h⟩
    obtain ⟨-, -, φ', -, -, hnext⟩ := h.turn hw i
    exact ⟨_, hnext⟩
  exact Crowd.play_keeps w.serve hturn ⟨φ, h⟩ schedule

/-- Once all calls of a crowd are over, what was due for two of them has been done. -/
theorem Connecting.done_of_due {count : List SessionEvent → Nat} {weight : Phase → Nat}
    (hcount : ∀ b b', count (b ++ b') = count b + count b')
    (hdue : ∀ {s φ block s' φ'}, Proceeds s φ block s' φ' → weight φ ≤ count block + weight φ')
    (hrest : ∀ held, weight (.ended held) = 0) (h : Connecting w ref φ c)
    (hw : ∀ history request, w.fault? history request = none) {i j : ι} (hij : i ≠ j)
    {schedule : List ι} (hended : (c.play w.serve schedule).Ended) :
    ∃ block, (c.play w.serve schedule).state.eventsOf ref = c.state.eventsOf ref ++ block
      ∧ weight (φ i) + weight (φ j) ≤ count block := by
  obtain ⟨block, φ', hevents, hlast, hle⟩ := h.play_due hcount hdue hw hij schedule
  refine ⟨block, hevents, ?_⟩
  obtain ⟨outcome, hi⟩ := hended i
  obtain ⟨outcome', hj⟩ := hended j
  obtain ⟨held, hφi, -⟩ := hlast.ended hi
  obtain ⟨held', hφj, -⟩ := hlast.ended hj
  rwa [hφi, hφj, hrest, hrest, Nat.add_zero] at hle

end

end UnitOfWork.Trial
