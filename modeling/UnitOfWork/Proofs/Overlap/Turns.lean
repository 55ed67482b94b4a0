import UnitOfWork.Proofs.Overlap.Stages

/-!
# Turns go by stages

`Surroundings.turn_atStage` says that a turn of a call, whatever stage it is at, does one of the
things that `Goes` lists. The programs of the four operations are opened here, stage by stage, and
nowhere else where calls overlap. A crowd of calls is then described by their stages (`Underway`),
and stays so turn by turn (`Underway.turn`).
-/

namespace UnitOfWork.Trial

variable {υ ι : Type}

/-! ## Stretches without a stop -/

/-- What is left of a program where it stops is a call at a stage; until then the session goes
through a block of events. -/
def Reaches (w : Surroundings) (ref : SessionRef) (d : Desk υ)
    (p : Program Calls (Desk υ) (Option Connection)) (block : List SessionEvent) (s : SessionState)
    (stage : Stage υ) : Prop :=
  ∃ d', Program.halted (p.advance d) = (w.atStage ref stage, d') ∧ d.Follows ref block s d'

namespace Surroundings

variable (w : Surroundings) (ref : SessionRef) (d : Desk υ)

@[simp] theorem advance_release (c : Connection) :
    ((w.session ref).release c : Program Calls (Desk υ) Unit).advance d
      = (d, .asked (.release ref c) .done) := rfl

/-- A report on a fault is written without a stop. -/
theorem advance_enterFault {f : Fault} (hf : f.Sayable) (level : Level) (message : Text)
    (fields : Json.Members) :
    ((w.session ref).journal.writeFault level message fields f :
        Program Calls (Desk υ) Unit).advance d
      = (d.after ref (d.sessions ref) [] (w.enteredFault d.history level message fields f d.log)
          d.connections, .ended (.ok ())) := by
  obtain ⟨report, hr⟩ := hf
  have hwrite := w.advance_enter ref d level message (fields ++ Journal.member "error" report.toJson)
  simp only [enteredFault, hr, Journal.writeFault]
  exact hwrite

/-- A statement that was executed, answered. -/
theorem exists_executed (c : Connection) (statement : Statement) :
    ∃ f d₁, w.serve (.execute ref c statement) d = (Fault.toResult f, d₁)
      ∧ (∀ g, f = some g → g.Sayable)
      ∧ d.Follows ref [.executed c statement f] (d.sessions ref) d₁ :=
  ⟨_, _, w.run_execute ref d c statement, fun _ hg => w.sayable _ _ _ hg,
    .of_takes (.after d _ d.log rfl)⟩

/-- A connection that was given back, answered. -/
theorem exists_released (c : Connection) :
    ∃ f d₁, w.serve (.release ref c) d = (Fault.toResult f, d₁)
      ∧ (∀ g, f = some g → g.Sayable) ∧ d.Follows ref [.released c f] (d.sessions ref) d₁ :=
  ⟨_, _, w.run_release ref d c, fun _ hg => w.sayable _ _ _ hg, .of_takes (.after d _ d.log rfl)⟩

/-- A fault that is only reported stops nothing. -/
theorem exists_reported {f : Option Fault} (hf : ∀ g, f = some g → g.Sayable) (message : Text) :
    ∃ d₁, ((Program.done (Fault.toResult f)).rescue fun f =>
        (w.session ref).journal.writeFault .error message (w.session (υ := υ) ref).mark f :
          Program Calls (Desk υ) Unit).advance d = (d₁, .ended (.ok ()))
      ∧ d.Follows ref [] (d.sessions ref) d₁ := by
  cases f with
  | none => exact ⟨d, rfl, .refl d ref⟩
  | some g => exact ⟨_, w.advance_enterFault ref d (hf g rfl) _ _ _, .of_takes (.after d _ _ rfl)⟩

/-- The session changes, and nothing else happens. -/
theorem follows_update (f : SessionState → SessionState) :
    d.Follows ref [] (f (d.sessions ref)) ((w.session (υ := υ) ref).state.update f d) := by
  rw [session_state_update]
  exact .of_takes (.after d _ d.log rfl)

@[simp] theorem advance_handOver (messages : List Message) :
    ((w.session ref).handOver messages : Program Calls (Desk υ) Unit).advance d
      = (w.publisher.flush (Journal.field "sessionId" (w.label ref)) messages).advance
          (d.note (.session ref (.handedOver messages))) := rfl

open Program in
/-- A commit that has nothing more to wait for takes its messages from the outbox. -/
theorem reaches_flushing :
    ∃ stage, stage.Handed ∧ Reaches w ref d (w.flushing ref >>= fun _ => pure none)
      (handing (d.sessions ref).outbox.entries)
      ((d.sessions ref).withTransaction .committed).dropMessages stage := by
  generalize hd₁ : d.after ref ((d.sessions ref).withTransaction .committed).dropMessages [] d.log
    d.connections = d₁
  have hs₁ : d₁.sessions ref = ((d.sessions ref).withTransaction .committed).dropMessages := by
    rw [← hd₁, Desk.after_sessions]
  have hfollows : d.Follows ref [] (d₁.sessions ref) d₁ := by
    rw [hs₁, ← hd₁]
    exact .of_takes (.after d _ d.log rfl)
  rw [← hs₁]
  cases hm : (d.sessions ref).outbox.entries.isEmpty with
  | true =>
    refine ⟨.ended (.ok none), trivial, d₁, ?_, by simpa [handing, hm] using hfollows⟩
    subst hd₁
    simp [flushing, advance_bind, SessionState.withTransaction, List.isEmpty_iff.1 hm, halted, atStage]
  | false =>
    generalize hms : (d.sessions ref).outbox.entries = messages at hm
    let rest : Program Calls (Desk υ) (Option Connection) :=
      w.publisher.flush (Journal.field "sessionId" (w.label ref)) messages >>= fun _ => pure none
    have hrest : Delivering rest := (Delivering.flush w _ messages).bind fun _ => .done _
    obtain ⟨hrest, hbeside⟩ := hrest.halted (d₁.note (.session ref (.handedOver messages)))
    have hadvance : (w.flushing ref >>= fun _ => pure none).advance d
        = rest.advance (d₁.note (.session ref (.handedOver messages))) := by
      subst hd₁
      simp only [flushing, rest, advance_bind, advance_modify, advance_load, session_state_update,
        session_state_get, Desk.after_sessions, Desk.after_after, Desk.after_log,
        Desk.after_connections, SessionState.withTransaction, hms, hm, Bool.not_false, ↓reduceIte,
        advance_handOver, List.append_nil]
    have hhalted := congrArg halted hadvance
    refine ⟨.delivering _ hrest, trivial, _, Prod.ext (congrArg (·.1) hhalted) rfl, ?_⟩
    rw [hadvance]
    have hnote := Desk.Follows.of_takes (Desk.Takes.note d₁ ref (e := .handedOver messages) rfl)
    have hlast := hbeside.follows ref
    rw [hnote.session_eq] at hlast
    simpa [handing, hm] using hfollows.trans (hnote.trans hlast)

end Surroundings

/-- A turn of a call at a stage is one of the cases of `Goes`. -/
def Turns (w : Surroundings) (ref : SessionRef) (d : Desk υ) (stage : Stage υ) : Prop :=
  ∃ block s stage' d', (w.atStage ref stage).turn w.serve d = (w.atStage ref stage', d')
    ∧ Goes (d.sessions ref) stage block s stage' ∧ d.Follows ref block s d'

namespace Surroundings

variable (w : Surroundings) (ref : SessionRef) (d : Desk υ)

/-- A call that begins goes on from the note of it. -/
theorem turns_fresh {call : SessionCall} {hcall : call.Contends} {b : List SessionEvent}
    {s : SessionState} {stage : Stage υ}
    (hreach : Reaches w ref (d.note (.session ref (.called call))) (call.perform (w.session ref)) b s
      stage)
    (hgoes : Goes (d.sessions ref) (.fresh call hcall) ([.called call] ++ b) s stage) :
    Turns w ref d (.fresh call hcall) := by
  obtain ⟨d', hrun, hfollows⟩ := hreach
  have hnote := Desk.Follows.of_takes (Desk.Takes.note d ref (e := .called call) rfl)
  exact ⟨_, _, _, d', hrun, hgoes, hnote.trans hfollows⟩

/-- What a call does that waited for an answer. -/
theorem turns_answered {stage stage' : Stage υ} {request : Request}
    {next : Except Fault request.Answer → Program Calls (Desk υ) (Option Connection)}
    {r : Except Fault request.Answer} {d₁ : Desk υ} {e : SessionEvent} {b : List SessionEvent}
    {s : SessionState} (hstage : w.atStage ref stage = .ask request next)
    (hserve : w.serve request d = (r, d₁)) (hd₁ : d.Follows ref [e] (d.sessions ref) d₁)
    (hreach : Reaches w ref d₁ (next r) b s stage')
    (hgoes : Goes (d.sessions ref) stage ([e] ++ b) s stage') : Turns w ref d stage := by
  obtain ⟨d', hrun, hfollows⟩ := hreach
  refine ⟨_, _, _, d', ?_, hgoes, hd₁.trans hfollows⟩
  rw [hstage, ← hrun]
  show Program.halted ((next (w.serve request d).1).advance (w.serve request d).2) = _
  rw [hserve]

/-- Whether a session is open shows without a stop. -/
theorem advance_assertOpen :
    ((w.session ref).assertOpen : Program Calls (Desk υ) Unit).advance d
      = (d, .ended (if (d.sessions ref).closed then .error (w.session (υ := υ) ref).closedFault
          else .ok ())) := by
  cases hs : (d.sessions ref).closed with
  | true => simp [Session.assertOpen, Program.advance_bind, hs]
  | false => simp [Session.assertOpen, Program.advance_bind, hs]

/-- A closed session bars every call but one to close it. -/
theorem advance_barred {call : SessionCall} (hcall : call.Contends) (hne : call ≠ .close)
    (hs : (d.sessions ref).closed = true) :
    (call.perform (w.session ref)).advance d
      = (d, .ended (.error (w.session (υ := υ) ref).closedFault)) := by
  cases call with
  | connection =>
    simp [SessionCall.perform, Session.connection, Program.advance_bind, advance_assertOpen, hs]
  | commit =>
    simp [SessionCall.perform, Session.commit, Program.advance_bind, advance_assertOpen, hs]
  | rollback =>
    simp [SessionCall.perform, Session.rollback, Program.advance_bind, advance_assertOpen, hs]
  | close => exact absurd rfl hne
  | setIsolation level => exact hcall.elim
  | query text => exact hcall.elim
  | queueMessage channel message => exact hcall.elim

/-- A call on a closed session, other than one to close it, is barred. -/
theorem turns_barred {call : SessionCall} (hcall : call.Contends) (hne : call ≠ .close)
    (hs : (d.sessions ref).closed = true) : Turns w ref d (.fresh call hcall) := by
  let d₁ := d.note (.session ref (.called call))
  have hadvance := w.advance_barred ref d₁ hcall hne hs
  have hreach : Reaches w ref d₁ (call.perform (w.session ref)) [] (d₁.sessions ref)
      (.ended (.error (w.session (υ := υ) ref).closedFault)) :=
    ⟨d₁, congrArg Program.halted hadvance, .refl d₁ ref⟩
  exact w.turns_fresh ref d hreach (.barred hne hs)

/-! ## Calls for the connection -/

/-- How a call for the connection begins on an open session. -/
theorem turns_connection (h : SessionCall.connection.Contends)
    (ho : (d.sessions ref).closed = false) : Turns w ref d (.fresh .connection h) := by
  let d₁ := d.note (.session ref (.called .connection))
  have hs₁ : d₁.sessions ref = d.sessions ref := rfl
  have hadvance := w.advance_connection ref d₁ ho
  rw [hs₁] at hadvance
  cases hc : (d.sessions ref).connection with
  | none =>
    rw [hc] at hadvance
    have hreach : Reaches w ref d₁ (w.session ref).connection [] (d.sessions ref)
        .reserving := ⟨d₁, hadvance, .stays hs₁⟩
    exact w.turns_fresh ref d hreach (.asks ho hc)
  | some c =>
    simp only [hc] at hadvance
    by_cases ha : (d.sessions ref).transaction = .active
    · rw [settling, if_pos ha, hc] at hadvance
      have hreach : Reaches w ref d₁ (w.session ref).connection [] (d.sessions ref)
          (.ended (.ok (some c))) := ⟨d₁, hadvance, .stays hs₁⟩
      exact w.turns_fresh ref d hreach (.finds ho hc ha)
    · rw [settling, if_neg ha] at hadvance
      have hreach : Reaches w ref d₁ (w.session ref).connection [] (d.sessions ref)
          (.beginning c (d.sessions ref).isolation) := ⟨d₁, hadvance, .stays hs₁⟩
      exact w.turns_fresh ref d hreach (.findsIdle ho hc ha)

/-- How a call for the connection goes on when one was lent or refused. -/
theorem turns_reserving : Turns w ref d .reserving := by
  cases hf : w.fault? d.history (.reserve ref) with
  | some f =>
    have hserve : w.serve (.reserve ref) d = _ := w.run_reserve_of_some ref d hf
    have hreach : Reaches w ref (d.after ref (d.sessions ref) [.reserved (.error f)] d.log
        d.connections) (w.onReserved ref (.error f)) [] (d.sessions ref) (.ended (.error f)) :=
      ⟨_, rfl, .stays (Desk.after_sessions ..)⟩
    exact w.turns_answered ref d rfl hserve (.of_takes (.after d _ d.log rfl)) hreach .refused
  | none =>
    let c : Connection := ⟨d.connections + 1⟩
    let s := (d.sessions ref).withConnection (some c)
    let d₁ := d.after ref s [.reserved (.ok c)] d.log (d.connections + 1)
    have hserve : w.serve (.reserve ref) d = _ := w.run_reserve_of_none ref d hf
    have hs₁ : d₁.sessions ref = s := Desk.after_sessions ..
    have hfollows : d.Follows ref [.reserved (.ok c)] s d₁ := .of_takes (.afterHandOut d s d.log rfl)
    have hturn : (w.atStage ref .reserving).turn w.serve d
        = Program.halted ((w.settleOn ref c).advance d₁) := by
      show Program.halted ((w.onReserved ref _).advance (w.serve (.reserve ref) d).2) = _
      rw [hserve]
      simp [onReserved, Program.advance_bind, c, d₁, s]
    have hadvance := w.advance_settleOn ref d₁ c
    rw [hs₁] at hadvance
    by_cases ha : (d.sessions ref).transaction = .active
    · rw [settling, if_pos (show s.transaction = .active from ha)] at hadvance
      exact ⟨_, s, .ended (.ok (some c)), d₁, hturn.trans hadvance, .takes ha, hfollows⟩
    · rw [settling, if_neg (show s.transaction ≠ .active from ha)] at hadvance
      exact ⟨_, s, .beginning c _, d₁, hturn.trans hadvance, .takesIdle ha, hfollows⟩

/-- How a call for the connection goes on when its transaction was begun or could not be. -/
theorem turns_beginning (c : Connection) (level : Isolation) :
    Turns w ref d (.beginning c level) := by
  obtain ⟨f, d₁, hserve, -, hfollows⟩ := w.exists_executed ref d c (.begin level)
  have hs₁ := hfollows.session_eq
  cases f with
  | some f =>
    have hreach : Reaches w ref d₁ (w.onBegun ref (.error f)) [] (d.sessions ref)
        (.ended (.error f)) := ⟨d₁, rfl, .stays hs₁⟩
    exact w.turns_answered ref d rfl hserve hfollows hreach .stuck
  | none =>
    have hreach : Reaches w ref d₁ (w.onBegun ref (Fault.toResult none)) []
        ((d.sessions ref).withTransaction .active).dropMessages
        (.ended (.ok (d.sessions ref).connection)) := by
      simp only [Reaches, onBegun, Program.advance_bind, Program.advance_done, Program.advance_modify,
        Program.advance_load, Program.advance_pure, Fault.toResult_none, advance_enter,
        session_state_update, session_state_get, Desk.after_after, Desk.after_sessions,
        List.append_nil, hs₁]
      exact ⟨_, rfl, .of_takes (.after d₁ _ _ rfl)⟩
    exact w.turns_answered ref d rfl hserve hfollows hreach .begins

/-! ## Commits -/

/-- How a commit begins on an open session. -/
theorem turns_commit (h : SessionCall.commit.Contends) (ho : (d.sessions ref).closed = false) :
    Turns w ref d (.fresh .commit h) := by
  let d₁ := d.note (.session ref (.called .commit))
  have hs₁ : d₁.sessions ref = d.sessions ref := rfl
  cases hc : (d.sessions ref).activeConnection? with
  | some c =>
    have hreach : Reaches w ref d₁ (SessionCall.commit.perform (w.session ref)) [] (d.sessions ref)
        (.committing c) := by
      refine ⟨d₁, ?_, .stays hs₁⟩
      simp only [SessionCall.perform, Session.commit, Session.commitOn, Program.rescue,
        Program.advance_bind, Program.advance_andThen, Program.advance_load, advance_assertOpen,
        advance_execute, session_state_get, hs₁, ho, hc, Bool.false_eq_true, ↓reduceIte]
      rfl
    exact w.turns_fresh ref d hreach (.commits ho hc)
  | none =>
    obtain ⟨stage, hstage, d', hrun, hfollows⟩ := w.reaches_flushing ref d₁
    have hreach : Reaches w ref d₁ (SessionCall.commit.perform (w.session ref))
        (handing (d.sessions ref).outbox.entries)
        ((d.sessions ref).withTransaction .committed).dropMessages stage := by
      refine ⟨d', ?_, hfollows⟩
      rw [← hrun]
      simp only [SessionCall.perform, Session.commit, flushing, Program.advance_bind,
        Program.advance_load, Program.advance_pure, advance_assertOpen, session_state_get, hs₁, ho, hc,
        Bool.false_eq_true, ↓reduceIte]
    exact w.turns_fresh ref d hreach (.flushes ho hc hstage)

/-- The connection that a session holds is given back; where there is none, nothing is. -/
theorem advance_releaseConnection :
    (w.session ref).releaseConnection.advance d = match (d.sessions ref).connection with
      | none => (d, .ended (.ok ()))
      | some b => (d.after ref ((d.sessions ref).withConnection none) [] d.log d.connections,
          .asked (.release ref b) (w.onReturned ref)) := by
  cases hb : (d.sessions ref).connection with
  | none => simp [Session.releaseConnection, Program.advance_bind, hb]
  | some b =>
    simp only [Session.releaseConnection, Program.advance_bind, Program.advance_load,
      session_state_get, hb, Program.advance_modify, session_state_update, Program.rescue,
      Program.advance_andThen, advance_release]
    rfl

/-- How a commit goes on when its statement was executed. -/
theorem turns_committing (c : Connection) : Turns w ref d (.committing c) := by
  obtain ⟨f, d₁, hserve, -, hfollows⟩ := w.exists_executed ref d c .commit
  have hs₁ := hfollows.session_eq
  cases f with
  | some f =>
    have hundone := w.follows_update ref d₁ fun s => (s.withTransaction .rolledBack).dropMessages
    rw [hs₁] at hundone
    have hreach : Reaches w ref d₁ (w.onCommitted ref (.error f)) []
        ((d.sessions ref).withTransaction .rolledBack).dropMessages (.ended (.error f)) :=
      ⟨_, rfl, hundone⟩
    exact w.turns_answered ref d rfl hserve hfollows hreach .notCommitted
  | none =>
    have hcommitted := w.follows_update ref d₁ (·.withTransaction .committed)
    generalize hd₂ : (w.session ref).state.update (·.withTransaction .committed) d₁ = d₂ at hcommitted
    rw [hs₁] at hcommitted
    have hrelease := w.advance_releaseConnection ref d₂
    rw [hcommitted.session_eq] at hrelease
    have hadvance : (w.onCommitted ref (Fault.toResult none)).advance d₁
        = (((w.session ref).releaseConnection >>= fun _ => w.flushing ref)
          >>= fun _ => pure none).advance d₂ := by
      rw [← hd₂]
      rfl
    cases hb : (d.sessions ref).connection with
    | none =>
      have hb' : ((d.sessions ref).withTransaction .committed).connection = none := hb
      obtain ⟨stage, hstage, d', hrun, hlast⟩ := w.reaches_flushing ref d₂
      rw [hcommitted.session_eq] at hlast
      have hreach : Reaches w ref d₁ (w.onCommitted ref (Fault.toResult none))
          (handing (d.sessions ref).outbox.entries)
          ((d.sessions ref).withTransaction .committed).dropMessages stage := by
        refine ⟨d', ?_, hcommitted.trans hlast⟩
        rw [hadvance, ← hrun]
        simp only [Program.advance_bind, hrelease, hb']
      exact w.turns_answered ref d rfl hserve hfollows hreach (.committedBare hb hstage)
    | some b =>
      have hb' : ((d.sessions ref).withTransaction .committed).connection = some b := hb
      have hreach : Reaches w ref d₁ (w.onCommitted ref (Fault.toResult none)) []
          (((d.sessions ref).withTransaction .committed).withConnection none) (.parting b) := by
        refine ⟨_, ?_, hcommitted.trans (.of_takes (.after d₂ _ d₂.log rfl))⟩
        rw [hadvance]
        simp only [Program.advance_bind, hrelease, hb']
        rfl
      exact w.turns_answered ref d rfl hserve hfollows hreach (.committed hb)

/-- How a commit goes on when the connection was given back. -/
theorem turns_parting (c : Connection) : Turns w ref d (.parting c) := by
  obtain ⟨f, d₁, hserve, hf, hfollows⟩ := w.exists_released ref d c
  obtain ⟨d₂, hreport, hreported⟩ := w.exists_reported ref d₁ hf "Releasing session connection failed"
  have hreturned : (w.onReturned ref (Fault.toResult f)).advance d₁ = _ := hreport
  rw [hfollows.session_eq] at hreported
  obtain ⟨stage, hstage, d', hrun, hlast⟩ := w.reaches_flushing ref d₂
  rw [hreported.session_eq] at hlast
  have hreach : Reaches w ref d₁ (w.onParted ref (Fault.toResult f))
      (handing (d.sessions ref).outbox.entries)
      ((d.sessions ref).withTransaction .committed).dropMessages stage := by
    refine ⟨d', ?_, hreported.trans hlast⟩
    rw [← hrun]
    simp only [onParted, Program.advance_bind, hreturned]
  exact w.turns_answered ref d rfl hserve hfollows hreach (.parted hstage)

/-- How a commit goes on with its delivery. -/
theorem turns_delivering (p : Program Calls (Desk υ) (Option Connection)) (h : Delivering p) :
    Turns w ref d (.delivering p h) := by
  obtain ⟨hrest, hbeside⟩ := h.turn w d
  exact ⟨[], _, .delivering _ hrest, _, rfl, .delivers, hbeside.follows ref⟩

/-! ## Rollbacks -/

/-- How a rollback begins on an open session. -/
theorem turns_rollback (h : SessionCall.rollback.Contends) (ho : (d.sessions ref).closed = false) :
    Turns w ref d (.fresh .rollback h) := by
  let d₁ := d.note (.session ref (.called .rollback))
  let s := (d.sessions ref).dropMessages
  let d₂ := d₁.after ref s [] d₁.log d₁.connections
  have hs₁ : d₁.sessions ref = d.sessions ref := rfl
  have hfollows : d₁.Follows ref [] s d₂ := .of_takes (.after d₁ _ d₁.log rfl)
  cases hc : (d.sessions ref).activeConnection? with
  | none =>
    have hc' : s.activeConnection? = none := hc
    have hreach : Reaches w ref d₁ (SessionCall.rollback.perform (w.session ref)) [] s
        (.ended (.ok none)) := by
      refine ⟨d₂, ?_, hfollows⟩
      simp [SessionCall.perform, Session.rollback, Program.advance_bind, advance_assertOpen, hs₁, ho,
        d₂, s, hc']
      rfl
    exact w.turns_fresh ref d hreach (.clears ho hc)
  | some c =>
    have hc' : s.activeConnection? = some c := hc
    have hreach : Reaches w ref d₁ (SessionCall.rollback.perform (w.session ref)) [] s
        (.rollingBack c) := by
      refine ⟨d₂, ?_, hfollows⟩
      simp [SessionCall.perform, Session.rollback, Program.advance_bind, advance_assertOpen, hs₁, ho,
        d₂, s, hc', Program.ensure, Program.advance_andThen]
      rfl
    exact w.turns_fresh ref d hreach (.rollsBack ho hc)

/-- How a rollback goes on when its statement was executed. -/
theorem turns_rollingBack (c : Connection) : Turns w ref d (.rollingBack c) := by
  obtain ⟨f, d₁, hserve, -, hfollows⟩ := w.exists_executed ref d c .rollback
  have hundone := w.follows_update ref d₁ (·.withTransaction .rolledBack)
  rw [hfollows.session_eq] at hundone
  have hreach : Reaches w ref d₁ (w.onRolledBack ref (Fault.toResult f)) []
      ((d.sessions ref).withTransaction .rolledBack)
      (.ended ((Fault.toResult f).map fun _ => none)) := by
    refine ⟨_, ?_, hundone⟩
    cases f <;> rfl
  exact w.turns_answered ref d rfl hserve hfollows hreach .rolledBack

/-! ## Closings -/

/-- How closing begins. -/
theorem turns_close (h : SessionCall.close.Contends) : Turns w ref d (.fresh .close h) := by
  let d₁ := d.note (.session ref (.called .close))
  have hs₁ : d₁.sessions ref = d.sessions ref := rfl
  cases ho : (d.sessions ref).closed with
  | true =>
    have hreach : Reaches w ref d₁ (SessionCall.close.perform (w.session ref)) [] (d.sessions ref)
        (.ended (.ok none)) := by
      refine ⟨d₁, ?_, .stays hs₁⟩
      simp [SessionCall.perform, Session.close, Program.advance_bind, hs₁, ho]
      rfl
    exact w.turns_fresh ref d hreach (.closedAgain ho)
  | false =>
    let s := (d.sessions ref).shut
    let d₂ := d₁.after ref s [] d₁.log d₁.connections
    have hs₂ : d₂.sessions ref = s := Desk.after_sessions ..
    have hfollows : d₁.Follows ref [] s d₂ := .of_takes (.after d₁ _ d₁.log rfl)
    have hrelease := w.advance_releaseConnection ref d₂
    rw [hs₂] at hrelease
    cases hc : (d.sessions ref).connection with
    | none =>
      have hreach : Reaches w ref d₁ (SessionCall.close.perform (w.session ref)) [] s
          (.ended (.ok none)) := by
        refine ⟨d₂, ?_, hfollows⟩
        simp [SessionCall.perform, Session.close, Program.advance_bind, hs₁, ho, hc, d₂, s]
        rfl
      exact w.turns_fresh ref d hreach (.closesBare ho hc)
    | some c =>
      have hc' : s.connection = some c := hc
      rw [hc'] at hrelease
      by_cases ha : (d.sessions ref).transaction = .active
      · have hreach : Reaches w ref d₁ (SessionCall.close.perform (w.session ref)) [] s
            (.undoing c) := by
          refine ⟨d₂, ?_, hfollows⟩
          simp [SessionCall.perform, Session.close, Program.advance_bind, hs₁, ho, hc, ha, d₂, s,
            Program.ensure, Program.rescue, Program.advance_andThen]
          rfl
        exact w.turns_fresh ref d hreach (.closesActive ho hc ha)
      · have hreach : Reaches w ref d₁ (SessionCall.close.perform (w.session ref)) []
            (s.withConnection none) (.returning c) := by
          refine ⟨d₂.after ref (s.withConnection none) [] d₂.log d₂.connections, ?_,
            hfollows.trans (.of_takes (.after d₂ _ d₂.log rfl))⟩
          have hd₂ : (w.session ref).state.update SessionState.shut d₁ = d₂ := by
            simp [d₂, s, hs₁]
          simp only [SessionCall.perform, Session.close, Program.advance_bind, Program.advance_load,
            session_state_get, hs₁, ho, hc, ha, Program.advance_modify, hd₂, Program.ensure,
            Program.bind, Program.advance_andThen, Program.advance_pure, hrelease, Bool.not_false,
            ↓reduceIte]
          rfl
        exact w.turns_fresh ref d hreach (.closesIdle ho hc ha)

/-- How closing goes on when the transaction was rolled back or could not be. -/
theorem turns_undoing (c : Connection) : Turns w ref d (.undoing c) := by
  obtain ⟨f, d₁, hserve, hf, hfollows⟩ := w.exists_executed ref d c .rollback
  obtain ⟨d₂, hreport, hreported⟩ :=
    w.exists_reported ref d₁ hf "Rollback while closing session failed"
  rw [hfollows.session_eq] at hreported
  have hrelease := w.advance_releaseConnection ref d₂
  rw [hreported.session_eq] at hrelease
  cases hb : (d.sessions ref).connection with
  | none =>
    rw [hb] at hrelease
    have hreach : Reaches w ref d₁ (w.onUndone ref (Fault.toResult f)) [] (d.sessions ref)
        (.ended (.ok none)) := by
      refine ⟨d₂, ?_, hreported⟩
      simp only [onUndone, Program.advance_bind, Program.ensure, Program.bind, Program.advance_andThen,
        hreport, hrelease]
      rfl
    exact w.turns_answered ref d rfl hserve hfollows hreach (.undoneBare hb)
  | some b =>
    rw [hb] at hrelease
    have hreach : Reaches w ref d₁ (w.onUndone ref (Fault.toResult f)) []
        ((d.sessions ref).withConnection none) (.returning b) := by
      refine ⟨_, ?_, hreported.trans (.of_takes (.after d₂ _ d₂.log rfl))⟩
      simp only [onUndone, Program.advance_bind, Program.ensure, Program.bind, Program.advance_andThen,
        hreport, hrelease]
      rfl
    exact w.turns_answered ref d rfl hserve hfollows hreach (.undone hb)

/-- How closing goes on when the connection was given back. -/
theorem turns_returning (c : Connection) : Turns w ref d (.returning c) := by
  obtain ⟨f, d₁, hserve, hf, hfollows⟩ := w.exists_released ref d c
  obtain ⟨d₂, hreport, hreported⟩ := w.exists_reported ref d₁ hf "Releasing session connection failed"
  have hreturned : (w.onReturned ref (Fault.toResult f)).advance d₁ = _ := hreport
  rw [hfollows.session_eq] at hreported
  have hreach : Reaches w ref d₁ (w.onClosed ref (Fault.toResult f)) [] (d.sessions ref)
      (.ended (.ok none)) := by
    refine ⟨d₂, ?_, hreported⟩
    simp only [onClosed, Program.advance_bind, Program.bind, Program.advance_andThen, hreturned]
    rfl
  exact w.turns_answered ref d rfl hserve hfollows hreach .returned

/-! ## Every turn -/

/-- A turn of a call does what `Goes` says, whatever stage it is at. -/
theorem turn_atStage (stage : Stage υ) : Turns w ref d stage := by
  cases stage with
  | fresh call h =>
    cases ho : (d.sessions ref).closed with
    | true =>
      by_cases hne : call = .close
      · subst hne
        exact w.turns_close ref d h
      · exact w.turns_barred ref d h hne ho
    | false =>
      cases call with
      | connection => exact w.turns_connection ref d h ho
      | commit => exact w.turns_commit ref d h ho
      | rollback => exact w.turns_rollback ref d h ho
      | close => exact w.turns_close ref d h
      | setIsolation level => exact h.elim
      | query text => exact h.elim
      | queueMessage channel message => exact h.elim
  | reserving => exact w.turns_reserving ref d
  | beginning c level => exact w.turns_beginning ref d c level
  | committing c => exact w.turns_committing ref d c
  | parting c => exact w.turns_parting ref d c
  | delivering p h => exact w.turns_delivering ref d p h
  | rollingBack c => exact w.turns_rollingBack ref d c
  | undoing c => exact w.turns_undoing ref d c
  | returning c => exact w.turns_returning ref d c
  | ended outcome => exact ⟨[], _, .ended outcome, d, rfl, .rests outcome, .refl d ref⟩

end Surroundings

/-! ## Crowds of calls -/

/-- The calls of a crowd are at these stages. -/
def Underway (w : Surroundings) (ref : SessionRef) (stages : ι → Stage υ)
    (c : Crowd Calls (Desk υ) (Option Connection) ι) : Prop :=
  ∀ i, c.programs i = w.atStage ref (stages i)

/-- Calls on one session, none of which has begun. -/
def callsOn (w : Surroundings) (ref : SessionRef) (calls : ι → SessionCall) (d : Desk υ) :
    Crowd Calls (Desk υ) (Option Connection) ι :=
  ⟨d, fun i => w.announcing ref (calls i)⟩

section

variable {w : Surroundings} {ref : SessionRef} {stages : ι → Stage υ}
  {c : Crowd Calls (Desk υ) (Option Connection) ι}

/-- Calls none of which has begun are at their first stage. -/
theorem underway_callsOn {calls : ι → SessionCall} (hcalls : ∀ i, (calls i).Contends) (d : Desk υ) :
    Underway w ref (fun i => .fresh (calls i) (hcalls i)) (callsOn w ref calls d) :=
  fun _ => rfl

/-- A call of a crowd that has ended is at its end. -/
theorem Underway.ended (h : Underway w ref stages c) {i : ι}
    {outcome : Except Fault (Option Connection)} (hdone : c.programs i = .done outcome) :
    (∃ p hp, stages i = .delivering p hp) ∨ stages i = .ended outcome := by
  have hstage := (h i).symm.trans hdone
  cases hi : stages i with
  | ended outcome' =>
    rw [hi] at hstage
    cases hstage
    exact .inr rfl
  | delivering p hp => exact .inl ⟨p, hp, rfl⟩
  | _ =>
    rw [hi] at hstage
    cases hstage

/-- One call of a crowd has its turn. -/
theorem Underway.turn [DecidableEq ι] (h : Underway w ref stages c) (i : ι) :
    ∃ block s stage, Goes (c.state.sessions ref) (stages i) block s stage
      ∧ c.state.Follows ref block s (c.turn w.serve i).state
      ∧ Underway w ref (Function.update stages i stage) (c.turn w.serve i) := by
  obtain ⟨block, s, stage, d', hturn, hgoes, hfollows⟩ := w.turn_atStage ref c.state (stages i)
  rw [← h i] at hturn
  have hstate : (c.turn w.serve i).state = d' := congrArg Prod.snd hturn
  refine ⟨block, s, stage, hgoes, hstate ▸ hfollows, fun j => ?_⟩
  have hprograms : (c.turn w.serve i).programs
      = Function.update c.programs i (w.atStage ref stage) :=
    congrArg (Function.update c.programs i) (congrArg Prod.fst hturn)
  rw [hprograms]
  by_cases hj : j = i
  · subst hj
    rw [Function.update_self, Function.update_self]
  · rw [Function.update_of_ne hj, Function.update_of_ne hj]
    exact h j

end

end UnitOfWork.Trial
