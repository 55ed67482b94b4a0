import UnitOfWork.Proofs.Trial.Calls

/-!
# Operations run as they are described

`Surroundings.run_perform` reads the run of an operation of a session as one of the cases of `Does`,
and `Surroundings.run_connection` reads the run of `Session.connection` as one of the cases of
`Connects`. The programs of the operations are opened in this module only.
-/

namespace UnitOfWork.Trial

/-- An operation that was called, as a program. Only a request for the connection has a result. -/
def SessionCall.perform {S : Signature} {σ : Type} (s : Session S σ) :
    SessionCall → Program S σ (Option Connection)
  | setIsolation level => do
    s.setIsolation level
    return none
  | connection => s.connection
  | query text => do
    s.query text
    return none
  | queueMessage channel message => do
    s.queueMessage channel message
    return none
  | commit => do
    s.commit
    return none
  | rollback => do
    s.rollback
    return none
  | close => do
    s.close
    return none

namespace Surroundings

variable {υ : Type} (w : Surroundings) (ref : SessionRef) (d : Desk υ)

/-! ## The connection -/

/-- An open session passes the check. -/
theorem run_assertOpen_of_open (h : (d.sessions ref).closed = false) :
    (w.session ref).assertOpen.run w.serve d = (.ok (), d) := by
  simp [Session.assertOpen, h]

/-- A closed session fails the check with the error that says so. -/
theorem run_assertOpen_of_closed (h : (d.sessions ref).closed = true) :
    (w.session ref).assertOpen.run w.serve d = (.error (w.session (υ := υ) ref).closedFault, d) := by
  simp [Session.assertOpen, h]

/-- A transaction that begins leaves an empty outbox; one that does not leaves the session alone. -/
theorem run_begin (c : Connection) :
    (∃ log, ((w.session ref).begin c).run w.serve d
        = (.ok (), d.after ref ((d.sessions ref).withTransaction .active).dropMessages
            [.executed c (.begin (d.sessions ref).isolation) none] log d.connections))
      ∨ ∃ f : Fault, f.Sayable ∧ ((w.session ref).begin c).run w.serve d
        = (.error f, d.after ref (d.sessions ref)
            [.executed c (.begin (d.sessions ref).isolation) (some f)] d.log d.connections) := by
  cases hf : w.fault? d.history (.execute ref c (.begin (d.sessions ref).isolation)) with
  | none =>
    left
    simp only [Session.begin, Program.run_bind, Program.run_load, session_state_get, run_execute, hf,
      Fault.toResult_none, Program.run_modify, session_state_update, run_enter, Desk.after_after,
      Desk.after_sessions]
    exact ⟨_, rfl⟩
  | some f =>
    refine .inr ⟨f, w.sayable _ _ _ hf, ?_⟩
    simp [Session.begin, hf]

/-- A session comes to hold a connection, or is refused one. -/
theorem run_attach :
    (∃ c block s n, (w.session ref).attach.run w.serve d
        = (.ok c, d.after ref s block d.log n)
      ∧ Attaches (d.sessions ref) block c s ∧ d.Takes ref block s (d.after ref s block d.log n))
      ∨ ∃ f : Fault, f.Sayable ∧ (d.sessions ref).connection = none
        ∧ (w.session ref).attach.run w.serve d
          = (.error f, d.after ref (d.sessions ref) [.reserved (.error f)] d.log d.connections) := by
  cases hc : (d.sessions ref).connection with
  | some c =>
    refine .inl ⟨c, [], d.sessions ref, d.connections, ?_, .kept hc, .after d _ _ rfl⟩
    simp [Session.attach, hc]
  | none =>
    cases hf : w.fault? d.history (.reserve ref) with
    | some f =>
      refine .inr ⟨f, w.sayable _ _ _ hf, rfl, ?_⟩
      simp [Session.attach, hc, run_reserve_of_some w ref d hf]
    | none =>
      refine .inl ⟨⟨d.connections + 1⟩, _, _, d.connections + 1, ?_, .borrowed hc,
        .afterHandOut d _ _ rfl⟩
      simp [Session.attach, hc, run_reserve_of_none w ref d hf]

/-- Asking for the connection does what `Connects` says. -/
theorem run_connection (hs : (d.sessions ref).Sound) :
    ∃ r block s d', (w.session ref).connection.run w.serve d = (r.map some, d')
      ∧ Settles r ∧ Connects (d.sessions ref) block r s ∧ d.Takes ref block s d' := by
  cases ho : (d.sessions ref).closed with
  | true =>
    refine ⟨.error (w.session (υ := υ) ref).closedFault, [], d.sessions ref, d, ?_,
      settles_of_isError rfl, .closed ho, .refl d ref⟩
    simp [Session.connection, run_assertOpen_of_closed w ref d ho, Except.map]
  | false =>
    rcases w.run_attach ref d with ⟨c, block, s, n, hrun, hatt, htakes⟩ | ⟨f, hf, hc, hrun⟩
    · have htr : s.transaction = (d.sessions ref).transaction := by
        cases hatt with
        | kept h => rfl
        | borrowed h => rfl
      have hiso : s.isolation = (d.sessions ref).isolation := by
        cases hatt with
        | kept h => rfl
        | borrowed h => rfl
      have hheld : s.connection = some c := by
        cases hatt with
        | kept h => exact h
        | borrowed h => rfl
      by_cases ha : (d.sessions ref).transaction = .active
      · -- a transaction is active, on the connection that the session held before
        obtain ⟨c', hc'⟩ := hs ha
        cases hatt with
        | borrowed h => rw [h] at hc'; cases hc'
        | kept h =>
          refine ⟨.ok c, [], d.sessions ref, _, ?_, settles_ok c, .kept ho h ha, htakes⟩
          simp [Session.connection, run_assertOpen_of_open w ref d ho, hrun, ha, h, Except.map]
      · generalize hd₁ : d.after ref s block d.log n = d₁ at hrun htakes
        have hs₁ : d₁.sessions ref = s := htakes.session_eq
        rcases w.run_begin ref d₁ c with ⟨log, hbegin⟩ | ⟨f, hf, hbegin⟩
        · refine ⟨.ok c, _, _, _, ?_, settles_ok c, .began ho hatt ha,
            htakes.trans (.after d₁ _ log rfl)⟩
          rw [hs₁, hiso] at hbegin
          simp [Session.connection, run_assertOpen_of_open w ref d ho, hrun, hs₁, htr, ha, hbegin,
            Except.map, SessionState.dropMessages, SessionState.withTransaction, hheld]
        · refine ⟨.error f, _, _, _, ?_, settles_error.2 hf, .stuck ho hatt ha,
            htakes.trans (.after d₁ s d₁.log rfl)⟩
          rw [hs₁, hiso] at hbegin
          simp [Session.connection, run_assertOpen_of_open w ref d ho, hrun, hs₁, htr, ha, hbegin,
            Except.map]
    · refine ⟨.error f, _, _, _, ?_, settles_error.2 hf, .refused ho hc, .after d _ d.log rfl⟩
      simp [Session.connection, run_assertOpen_of_open w ref d ho, hrun, Except.map]

/-! ## Ending a transaction -/

/-- The connection is given back, whether or not that fails. -/
theorem run_releaseConnection {c : Connection} (hc : (d.sessions ref).connection = some c) :
    ∃ f log, (w.session ref).releaseConnection.run w.serve d
      = (.ok (), d.after ref ((d.sessions ref).withConnection none) [.released c f] log
          d.connections) := by
  have hf := w.sayable (d.after ref ((d.sessions ref).withConnection none) [] d.log
    d.connections).history (.release ref c)
  rcases hg : w.fault? d.history (.release ref c) with _ | g
  · exact ⟨none, d.log, by simp [Session.releaseConnection, hc, hg]⟩
  · simp only [Desk.after_history, List.map_nil, List.append_nil] at hf
    exact ⟨some g, _, by simp [Session.releaseConnection, hc, hg, run_enterFault w ref _ (hf g hg)]; rfl⟩

/-- A commit ends the transaction; one that succeeds gives the connection back too. -/
theorem run_commitOn {c : Connection} (hc : (d.sessions ref).connection = some c) :
    (∃ f log, ((w.session ref).commitOn c).run w.serve d
        = (.ok (), d.after ref (((d.sessions ref).withTransaction .committed).withConnection none)
            [.executed c .commit none, .released c f] log d.connections))
      ∨ ∃ f : Fault, f.Sayable ∧ ((w.session ref).commitOn c).run w.serve d
        = (.error f, d.after ref ((d.sessions ref).withTransaction .rolledBack).dropMessages
            [.executed c .commit (some f)] d.log d.connections) := by
  cases hf : w.fault? d.history (.execute ref c .commit) with
  | none =>
    generalize hd₁ : d.after ref ((d.sessions ref).withTransaction .committed)
      [.executed c .commit none] d.log d.connections = d₁
    obtain ⟨g, log, hrun⟩ := w.run_releaseConnection ref d₁ (c := c) (by rw [← hd₁]; simpa)
    refine .inl ⟨g, log, ?_⟩
    subst hd₁
    simp [Session.commitOn, hf, hrun]
  | some f =>
    refine .inr ⟨f, w.sayable _ _ _ hf, ?_⟩
    simp [Session.commitOn, hf]

/-! ## Every operation -/

/-- A run of a program is one of the cases of an operation. -/
def Performs {α : Type} (call : SessionCall) (p : Program Calls (Desk υ) α) : Prop :=
  ∃ r block s d', p.run w.serve d = (r, d') ∧ Settles r
    ∧ Does (d.sessions ref) call block (Fault.of? r) s ∧ d.Takes ref block s d'

/-- An operation without a result is the same with nothing for its result. -/
theorem Performs.answerless {β : Type} {call : SessionCall} {p : Program Calls (Desk υ) Unit}
    (h : w.Performs ref d call p) :
    w.Performs ref d call (p >>= fun _ => pure (none : Option β)) := by
  obtain ⟨r, block, s, d', hrun, hr, hdoes, htakes⟩ := h
  cases r with
  | ok u => exact ⟨.ok none, block, s, d', by simp [hrun], settles_ok _, hdoes, htakes⟩
  | error f =>
    exact ⟨.error f, block, s, d', by simp [hrun], hr.rethrown, hdoes,
      htakes⟩

/-- A closed session bars an operation that looks first whether it is open. -/
theorem performs_of_closed {α : Type} {call : SessionCall} (hcall : call ≠ .close)
    (h : (d.sessions ref).closed = true) (p : Unit → Program Calls (Desk υ) α) :
    w.Performs ref d call ((w.session ref).assertOpen >>= p) := by
  refine ⟨.error (w.session (υ := υ) ref).closedFault, [], _, d, ?_,
    settles_of_isError rfl, .barred h hcall, .refl d ref⟩
  simp [run_assertOpen_of_closed w ref d h]

/-- Setting the isolation level does what `Does` says. -/
theorem performs_setIsolation (level : Isolation) :
    w.Performs ref d (.setIsolation level) ((w.session ref).setIsolation level) := by
  cases ho : (d.sessions ref).closed with
  | true => exact performs_of_closed w ref d (by nofun) ho _
  | false =>
    by_cases ha : (d.sessions ref).transaction = .active
    · refine ⟨.error (Session.isolationFault level), [], _, d, ?_,
        settles_of_isError rfl, .notIsolated ho ha, .refl d ref⟩
      simp [Session.setIsolation, run_assertOpen_of_open w ref d ho, ha]
    · refine ⟨.ok (), [], _, _, ?_, settles_ok (), .isolated ho ha, .after d _ d.log rfl⟩
      simp [Session.setIsolation, run_assertOpen_of_open w ref d ho, ha]

/-- Connecting does what `Does` says. -/
theorem performs_connection (hs : (d.sessions ref).Sound) :
    w.Performs ref d .connection (w.session ref).connection := by
  obtain ⟨r, block, s, d', hrun, hr, hconn, htakes⟩ := w.run_connection ref d hs
  cases r with
  | ok c => exact ⟨_, _, _, _, hrun, settles_ok _, .connected hconn, htakes⟩
  | error f =>
    exact ⟨_, _, _, _, hrun, hr.rethrown, .connected hconn, htakes⟩

/-- Querying does what `Does` says. -/
theorem performs_query (hs : (d.sessions ref).Sound) (text : Text) :
    w.Performs ref d (.query text) ((w.session ref).query text) := by
  obtain ⟨r, block, s, d', hrun, hr, hconn, htakes⟩ := w.run_connection ref d hs
  cases r with
  | error f =>
    refine ⟨.error f, _, _, _, ?_, hr.rethrown, .notQueried hconn, htakes⟩
    simp [Session.query, Session.connectionForUse, hrun, Except.map]
  | ok c =>
    have hf := w.sayable d'.history (.execute ref c (.other text))
    cases hw : w.fault? d'.history (.execute ref c (.other text)) with
    | none =>
      refine ⟨.ok (), _, _, _, ?_, settles_ok (), .queried hconn,
        htakes.trans (.after d' s d'.log rfl)⟩
      simp [Session.query, Session.connectionForUse, hrun, Except.map, hw, htakes.session_eq]
    | some f =>
      refine ⟨.error f, _, _, _, ?_, settles_error.2 (hf f hw), .queried hconn,
        htakes.trans (.after d' s d'.log rfl)⟩
      simp [Session.query, Session.connectionForUse, hrun, Except.map, hw, htakes.session_eq]

/-- Queueing a message does what `Does` says. -/
theorem performs_queueMessage (channel : Text) (message : Option Json) :
    w.Performs ref d (.queueMessage channel message)
      ((w.session ref).queueMessage channel message) := by
  cases ho : (d.sessions ref).closed with
  | true => exact performs_of_closed w ref d (by nofun) ho _
  | false =>
    cases hb : Session.body? message with
    | none =>
      refine ⟨.error (Session.messageFault channel), [], _, d, ?_,
        settles_of_isError rfl, .notQueued ho hb, .refl d ref⟩
      simp [Session.queueMessage, run_assertOpen_of_open w ref d ho, hb]
    | some body =>
      have hrun : ∃ log, ((w.session ref).queueMessage channel message).run w.serve d
          = (.ok (), d.after ref { d.sessions ref with
              outbox := (d.sessions ref).outbox.queue ⟨channel, body⟩ } [] log d.connections) := by
        simp only [Session.queueMessage, Program.run_bind, run_assertOpen_of_open w ref d ho, hb,
          run_enter, Program.run_modify, session_state_update, Desk.after_after, Desk.after_sessions,
          List.append_nil, Desk.after_log, Desk.after_connections]
        exact ⟨_, rfl⟩
      obtain ⟨log, hrun⟩ := hrun
      exact ⟨_, [], _, _, hrun, settles_ok (), .queued ho hb, .after d _ log rfl⟩

/-- Messages that wait are handed over, and none if there are none. -/
theorem run_handing (messages : List Message) :
    ∃ d', (if !messages.isEmpty then (w.session ref).handOver messages
        else pure () : Program Calls (Desk υ) Unit).run w.serve d = (.ok (), d')
      ∧ d.Takes ref (handing messages) (d.sessions ref) d' := by
  cases hm : messages.isEmpty with
  | true => exact ⟨d, rfl, by simpa [handing, hm] using Desk.Takes.refl d ref⟩
  | false =>
    obtain ⟨d', hrun, hdel⟩ := w.run_handOver ref messages d
    exact ⟨d', hrun, by simpa [handing, hm] using Desk.Takes.handedOver hdel⟩

/-- Committing does what `Does` says. -/
theorem performs_commit :
    w.Performs ref d .commit (w.session ref).commit := by
  cases ho : (d.sessions ref).closed with
  | true => exact performs_of_closed w ref d (by nofun) ho _
  | false =>
    cases hc : (d.sessions ref).activeConnection? with
    | none =>
      obtain ⟨d', hrun, htakes⟩ := w.run_handing ref
        (d.after ref ((d.sessions ref).withTransaction .committed).dropMessages [] d.log d.connections)
        (d.sessions ref).outbox.entries
      refine ⟨.ok (), _, _, d', ?_, settles_ok (), .flushed ho hc, ?_⟩
      · simpa [Session.commit, run_assertOpen_of_open w ref d ho, hc,
          SessionState.withTransaction] using hrun
      · simpa using Desk.Takes.trans (.after d _ d.log rfl) htakes
    | some c =>
      obtain ⟨-, hconn⟩ : _ ∧ (d.sessions ref).connection = some c := by
        simpa [SessionState.activeConnection?] using hc
      rcases w.run_commitOn ref d hconn with ⟨g, log, hrun⟩ | ⟨f, hf, hrun⟩
      · -- the outbox still holds its messages when the connection has been given back
        generalize hs' :
          (((d.sessions ref).withTransaction .committed).withConnection none).dropMessages = s'
        generalize hb : [SessionEvent.executed c .commit none, .released c g] = block at hrun
        have hblock : taken block = [] := by rw [← hb]; rfl
        obtain ⟨d', hrun', htakes'⟩ := w.run_handing ref
          (d.after ref s' block log d.connections) (d.sessions ref).outbox.entries
        have htakes := Desk.Takes.trans (.after d s' log hblock) htakes'
        rw [Desk.after_sessions] at htakes
        refine ⟨.ok (), _, _, d', ?_, settles_ok (), hb ▸ hs' ▸ .committed ho hc, htakes⟩
        subst hs'
        simpa [Session.commit, run_assertOpen_of_open w ref d ho, hc, hrun,
          SessionState.withTransaction, SessionState.withConnection] using hrun'
      · refine ⟨.error f, _, _, _, ?_, settles_error.2 hf, .notCommitted ho hc,
          .after d _ d.log rfl⟩
        simp [Session.commit, run_assertOpen_of_open w ref d ho, hc, hrun]

/-- Rolling back does what `Does` says. -/
theorem performs_rollback : w.Performs ref d .rollback (w.session ref).rollback := by
  cases ho : (d.sessions ref).closed with
  | true => exact performs_of_closed w ref d (by nofun) ho _
  | false =>
    cases hc : (d.sessions ref).activeConnection? with
    | none =>
      have hc' : (d.sessions ref).dropMessages.activeConnection? = none := hc
      refine ⟨.ok (), _, _, _, ?_, settles_ok (), .cleared ho hc, .after d _ d.log rfl⟩
      simp [Session.rollback, run_assertOpen_of_open w ref d ho, hc']
    | some c =>
      have hc' : (d.sessions ref).dropMessages.activeConnection? = some c := hc
      have hf := w.sayable d.history (.execute ref c .rollback)
      cases hw : w.fault? d.history (.execute ref c .rollback) with
      | none =>
        refine ⟨.ok (), _, _, _, ?_, settles_ok (), .rolledBack ho hc, .after d _ d.log rfl⟩
        simp [Session.rollback, run_assertOpen_of_open w ref d ho, hc', hw]
      | some f =>
        refine ⟨.error f, _, _, _, ?_, settles_error.2 (hf f hw), .rolledBack ho hc,
          .after d _ d.log rfl⟩
        simp [Session.rollback, run_assertOpen_of_open w ref d ho, hc', hw]

/-- A statement whose failure is only reported never fails. -/
theorem run_reporting (c : Connection) (statement : Statement) (message : Text)
    (fields : Json.Members) :
    ∃ f log, (((w.session ref).execute c statement).rescue fun f =>
        (w.session ref).journal.writeFault .error message fields f).run w.serve d
      = (.ok (), d.after ref (d.sessions ref) [.executed c statement f] log d.connections) := by
  have hf := w.sayable d.history (.execute ref c statement)
  cases hw : w.fault? d.history (.execute ref c statement) with
  | none => exact ⟨none, d.log, by simp [hw]⟩
  | some f => exact ⟨some f, _, by simp [hw, run_enterFault w ref _ (hf f hw)]; rfl⟩

/-- Closing never fails: what goes wrong on the way is noted in the log. -/
theorem performs_close : w.Performs ref d .close (w.session ref).close := by
  cases ho : (d.sessions ref).closed with
  | true =>
    refine ⟨.ok (), _, _, _, ?_, settles_ok (), .closedAgain ho, .refl d ref⟩
    simp [Session.close, ho]
  | false =>
    cases hc : (d.sessions ref).connection with
    | none =>
      refine ⟨.ok (), _, _, _, ?_, settles_ok (), .closedBare ho hc, .after d _ d.log rfl⟩
      simp [Session.close, ho, hc]
    | some c =>
      by_cases ha : (d.sessions ref).transaction = .active
      · obtain ⟨f, log, hundo⟩ := w.run_reporting ref
          (d.after ref (d.sessions ref).shut [] d.log d.connections) c .rollback
          "Rollback while closing session failed" (w.session (υ := υ) ref).mark
        obtain ⟨g, log', hrun⟩ := w.run_releaseConnection ref
          (d.after ref (d.sessions ref).shut [.executed c .rollback f] log d.connections) (c := c)
          (by simpa [SessionState.shut])
        refine ⟨.ok (), [.executed c .rollback f, .released c g], _, _, ?_, settles_ok (),
          .closedActive ho hc ha, .after d _ log' rfl⟩
        simp only [Desk.after_sessions, Desk.after_after, List.nil_append,
          Desk.after_connections] at hundo
        simp [Session.close, ho, hc, ha, hundo, hrun]
      · obtain ⟨f, log, hrun⟩ := w.run_releaseConnection ref
          (d.after ref (d.sessions ref).shut [] d.log d.connections) (c := c)
          (by simpa [SessionState.shut])
        refine ⟨.ok (), [.released c f], _, _, ?_, settles_ok (), .closedIdle ho hc ha,
          .after d _ log rfl⟩
        simp [Session.close, ho, hc, ha, hrun]

/-- Every operation does what `Does` says, and what it fails with can be told. -/
theorem run_perform (call : SessionCall) (hs : (d.sessions ref).Sound) :
    w.Performs ref d call (call.perform (w.session ref)) := by
  cases call with
  | setIsolation level => exact (w.performs_setIsolation ref d level).answerless
  | connection => exact w.performs_connection ref d hs
  | query text => exact (w.performs_query ref d hs text).answerless
  | queueMessage channel message => exact (w.performs_queueMessage ref d channel message).answerless
  | commit => exact (w.performs_commit ref d).answerless
  | rollback => exact (w.performs_rollback ref d).answerless
  | close => exact (w.performs_close ref d).answerless

end Surroundings

end UnitOfWork.Trial
