import UnitOfWork.Proofs.Linked.Programs
import UnitOfWork.Proofs.Trial.Basic

/-!
# Linked sessions

Two sessions are linked if their states are alike, up to the isolation level, and what they are made
of is linked: reserving, executing, giving back and handing over. Then so is every operation of
theirs (`Session.Linked.perform`). Entries in the log do not count: either session may write what it
likes.
-/

namespace UnitOfWork

variable {S : Signature} {σ σ' α : Type}

/-- In what respects systems with sessions are compared. -/
structure SessionLink (S : Signature) (σ σ' : Type) extends Link S σ σ' where
  /-- Isolation levels that are alike. -/
  level : Isolation → Isolation → Prop
  level_refl : ∀ l, level l l
  /-- Of faults that are alike, both or neither can be told. -/
  sayable_iff : ∀ f f', fault f f' → (f.Sayable ↔ f'.Sayable)
  /-- Of faults that are alike, both or neither are serialization failures. -/
  conflict_eq : ∀ f f', fault f f' → f.isSerializationFailure = f'.isSerializationFailure
  retriesExhausted : ∀ attempts f f', fault f f' →
    fault (.retriesExhausted attempts f) (.retriesExhausted attempts f')
  /-- Faults that are alike stand for errors that are alike, if for any. -/
  toError : ∀ f f', fault f f' → toLink.Outcome fault f.toError f'.toError

namespace SessionLink

variable (L : SessionLink S σ σ')

/-- Session states that are alike are the same but for the isolation level. -/
def Kin (x x' : SessionState) : Prop :=
  ∃ l, L.level x.isolation l ∧ x' = { x with isolation := l }

/-- Statements that are alike. -/
inductive Says : Statement → Statement → Prop where
  | same (statement : Statement) : Says statement statement
  | begin {l l' : Isolation} (h : L.level l l') : Says (.begin l) (.begin l')

/-- The first system may write in a journal by itself. -/
def WritesFirst (j : Journal σ) : Prop :=
  ∀ level message fields, Linked L.toLink (fun _ _ => True) (j.write level message fields)
    (Pure.pure () : Program S σ' Unit)

/-- The second system may write in a journal by itself. -/
def WritesSecond (j' : Journal σ') : Prop :=
  ∀ level message fields, Linked L.toLink (fun _ _ => True) (Pure.pure () : Program S σ Unit)
    (j'.write level message fields)

/-- Journals in which either system may write by itself. -/
structure Journals (j : Journal σ) (j' : Journal σ') : Prop where
  first : L.WritesFirst j
  second : L.WritesSecond j'

variable {L} {j : Journal σ} {j' : Journal σ'}

/-- Both may write what they like. -/
theorem Journals.write (h : L.Journals j j') (level level' : Level) (message message' : Text)
    (fields fields' : Json.Members) :
    Linked L.toLink (fun _ _ => True) (j.write level message fields : Program S σ Unit)
      (j'.write level' message' fields') :=
  (h.first level message fields).beside (h.second level' message' fields')

/-- The first may write a fault by itself, if it can be told. -/
theorem WritesFirst.writeFault (h : L.WritesFirst j) {f : Fault} (hf : f.Sayable) (level : Level)
    (message : Text) (fields : Json.Members) :
    Linked L.toLink (fun _ _ => True) (j.writeFault level message fields f)
      (Pure.pure () : Program S σ' Unit) := by
  obtain ⟨report, hreport⟩ := hf
  rw [Journal.writeFault, hreport]
  exact h level message _

/-- The second may write a fault by itself, if it can be told. -/
theorem WritesSecond.writeFault (h : L.WritesSecond j') {f : Fault} (hf : f.Sayable) (level : Level)
    (message : Text) (fields : Json.Members) :
    Linked L.toLink (fun _ _ => True) (Pure.pure () : Program S σ Unit)
      (j'.writeFault level message fields f) := by
  obtain ⟨report, hreport⟩ := hf
  rw [Journal.writeFault, hreport]
  exact h level message _

/-- Both may write faults that are alike; if these cannot be told, both fail with the same error. -/
theorem Journals.writeFault (h : L.Journals j j') {f f' : Fault} (hf : L.fault f f')
    (level level' : Level) (message message' : Text) (fields fields' : Json.Members) :
    Linked L.toLink (fun _ _ => True) (j.writeFault level message fields f : Program S σ Unit)
      (j'.writeFault level' message' fields' f') := by
  by_cases hsayable : f.Sayable
  · exact (h.first.writeFault hsayable level message fields).beside
      (h.second.writeFault ((L.sayable_iff f f' hf).1 hsayable) level' message' fields')
  · rw [Journal.writeFault, Fault.report_of_not_sayable hsayable, Journal.writeFault,
      Fault.report_of_not_sayable (mt (L.sayable_iff f f' hf).2 hsayable)]
    exact .done (.error (L.fault_refl _ rfl))

end SessionLink

namespace Session

/-- Sessions that are linked. -/
structure Linked (L : SessionLink S σ σ') (s : Session S σ) (s' : Session S σ') : Prop where
  closed : L.fault s.closedFault s'.closedFault
  load : ∀ t t', L.state t t' → L.Kin (s.state.get t) (s'.state.get t')
  modify : ∀ f f', (∀ x x', L.Kin x x' → L.Kin (f x) (f' x')) →
    L.Moves (s.state.update f) (s'.state.update f')
  journal : L.Journals s.journal s'.journal
  reserve : UnitOfWork.Linked L.toLink Eq s.reserve s'.reserve
  execute : ∀ c statement statement', L.Says statement statement' →
    UnitOfWork.Linked L.toLink (fun _ _ => True) (s.execute c statement) (s'.execute c statement')
  release : ∀ c, UnitOfWork.Linked L.toLink (fun _ _ => True) (s.release c) (s'.release c)
  handOver : ∀ messages,
    UnitOfWork.Linked L.toLink (fun _ _ => True) (s.handOver messages) (s'.handOver messages)

namespace Linked

variable {L : SessionLink S σ σ'} {s : Session S σ} {s' : Session S σ'} (h : Linked L s s')

include h

/-- Linked sessions load states that are alike. -/
theorem loads : UnitOfWork.Linked L.toLink L.Kin s.state.load s'.state.load :=
  .read h.load

/-- What follows the state of a session follows its parts. -/
theorem loading {β β' : Type} {V : β → β' → Prop} {next : SessionState → Program S σ β}
    {next' : SessionState → Program S σ' β'}
    (hnext : ∀ x l, L.level x.isolation l →
      UnitOfWork.Linked L.toLink V (next x) (next' { x with isolation := l })) :
    UnitOfWork.Linked L.toLink V (s.state.load >>= next) (s'.state.load >>= next') :=
  h.loads.bind fun x _ hx => by
    obtain ⟨l, hl, rfl⟩ := hx
    exact hnext x l hl

/-- A change that maps the isolation level somehow keeps sessions linked. -/
theorem modifies {f : SessionState → SessionState}
    (hf : ∀ x l, ∃ l', (L.level x.isolation l → L.level (f x).isolation l')
      ∧ f { x with isolation := l } = { f x with isolation := l' }) :
    UnitOfWork.Linked L.toLink (fun _ _ => True) (s.state.modify f) (s'.state.modify f) :=
  .change (h.modify f f fun x _ hx => by
    obtain ⟨l, hl, rfl⟩ := hx
    obtain ⟨l', hl', heq⟩ := hf x l
    exact ⟨l', hl' hl, heq⟩)

/-- A change that leaves the isolation level alone, and what follows it. -/
theorem keeping {β β' : Type} {V : β → β' → Prop} {f : SessionState → SessionState}
    {next : Unit → Program S σ β} {next' : Unit → Program S σ' β'}
    (hnext : UnitOfWork.Linked L.toLink V (next ()) (next' ()))
    (hf : ∀ x l, f { x with isolation := l } = { f x with isolation := l }
      ∧ (f x).isolation = x.isolation) :
    UnitOfWork.Linked L.toLink V (s.state.modify f >>= next) (s'.state.modify f >>= next') :=
  (h.modifies fun x l => ⟨l, fun hl => (hf x l).2.symm ▸ hl, (hf x l).1⟩).bind fun _ _ _ => hnext

/-- Linked sessions are open or closed alike. -/
theorem assertOpen : UnitOfWork.Linked L.toLink (fun _ _ => True) s.assertOpen s'.assertOpen :=
  h.loading fun _ _ _ => .ite (fun _ => .fail h.closed) fun _ => .pure trivial

/-- Setting the isolation level is linked. -/
theorem setIsolation (level : Isolation) :
    UnitOfWork.Linked L.toLink (fun _ _ => True) (s.setIsolation level) (s'.setIsolation level) := by
  refine h.assertOpen.bind fun _ _ _ => h.loading fun x l _ => .ite (fun _ => ?_) fun _ => ?_
  · exact .fail (L.fault_refl _ rfl)
  · exact h.modifies fun _ _ => ⟨level, fun _ => L.level_refl level, rfl⟩

/-- Beginning a transaction is linked, whatever the levels, as long as these are alike. -/
theorem begin (c : Connection) :
    UnitOfWork.Linked L.toLink (fun _ _ => True) (s.begin c) (s'.begin c) := by
  refine h.loading fun x l hl => (h.execute c _ _ (.begin hl)).bind fun _ _ _ => ?_
  refine h.keeping (h.loading fun _ _ _ => ?_) fun _ _ => ⟨rfl, rfl⟩
  exact h.journal.write ..

/-- Linked sessions come to hold the same connection. -/
theorem attach : UnitOfWork.Linked L.toLink Eq s.attach s'.attach := by
  refine h.loading fun x l _ => ?_
  rcases x with ⟨transaction, isolation, _ | c, closed, savepoints, outbox⟩
  · refine h.reserve.bind fun c _ hc => ?_
    subst hc
    exact h.keeping (.pure rfl) fun _ _ => ⟨rfl, rfl⟩
  · exact .pure rfl

/-- Connecting is linked. -/
theorem connection : UnitOfWork.Linked L.toLink Eq s.connection s'.connection := by
  refine h.assertOpen.bind fun _ _ _ => h.attach.bind fun c _ hc => ?_
  subst hc
  refine h.loading fun x l _ => .ite (fun _ => ?_) fun _ => ?_
  · exact (h.begin c).bind fun _ _ _ => h.loading fun _ _ _ => .pure rfl
  · exact h.loading fun _ _ _ => .pure rfl

/-- Connecting for use is linked. -/
theorem connectionForUse : UnitOfWork.Linked L.toLink Eq s.connectionForUse s'.connectionForUse := by
  refine h.connection.bind fun c _ hc => ?_
  subst hc
  cases c with
  | none => exact .fail (L.fault_refl _ rfl)
  | some c => exact .pure rfl

/-- Querying is linked. -/
theorem query (text : Text) :
    UnitOfWork.Linked L.toLink (fun _ _ => True) (s.query text) (s'.query text) := by
  refine h.connectionForUse.bind fun c _ hc => ?_
  subst hc
  exact h.execute c _ _ (.same _)

/-- Giving the connection back is linked, also if that fails. -/
theorem releaseConnection :
    UnitOfWork.Linked L.toLink (fun _ _ => True) s.releaseConnection s'.releaseConnection := by
  refine h.loading fun x l _ => ?_
  rcases x with ⟨transaction, isolation, _ | c, closed, savepoints, outbox⟩
  · exact .pure trivial
  · refine h.keeping ?_ fun _ _ => ⟨rfl, rfl⟩
    exact (h.release c).rescue fun f f' hf => h.journal.writeFault hf ..

/-- Queueing a message is linked. -/
theorem queueMessage (channel : Text) (message : Option Json) :
    UnitOfWork.Linked L.toLink (fun _ _ => True) (s.queueMessage channel message)
      (s'.queueMessage channel message) := by
  refine h.assertOpen.bind fun _ _ _ => ?_
  cases body? message with
  | none => exact .fail (L.fault_refl _ rfl)
  | some body =>
    exact (h.journal.write ..).bind fun _ _ _ => h.modifies fun _ l => ⟨l, fun hl => hl, rfl⟩

/-! ## Savepoints -/

/-- Undoing savepoints is linked, if their bodies failed alike. -/
theorem undoSavepoint {V : α → α → Prop} (c : Connection) (n : Nat) {f f' : Fault} (hf : L.fault f f') :
    UnitOfWork.Linked L.toLink V (s.undoSavepoint c n f) (s'.undoSavepoint c n f') := by
  refine (h.journal.writeFault hf ..).bind fun _ _ _ => h.keeping ?_ fun _ _ => ⟨rfl, rfl⟩
  refine UnitOfWork.Linked.bind (V := fun _ _ => True) ?_ fun _ _ _ => .fail hf
  exact (h.execute c _ _ (.same _)).rescue fun g g' hg => h.journal.writeFault hg ..

/-- A savepoint around linked work is linked. -/
theorem savepoint {V : α → α → Prop} {work : Program S σ α} {work' : Program S σ' α}
    (hwork : UnitOfWork.Linked L.toLink V work work') :
    UnitOfWork.Linked L.toLink V (s.savepoint work) (s'.savepoint work') := by
  refine h.connection.bind fun c _ hc => ?_
  subst hc
  refine h.keeping (h.loading fun x l _ => ?_) fun _ _ => ⟨rfl, rfl⟩
  cases c with
  | none => exact .fail (L.fault_refl _ rfl)
  | some c =>
    refine (h.execute c _ _ (.same _)).bind fun _ _ _ => ?_
    refine (hwork.rescue fun f f' hf => h.undoSavepoint c _ hf).bind fun a a' ha => ?_
    exact (h.execute c _ _ (.same _)).bind fun _ _ _ => .pure ha

/-! ## Ending a transaction -/

/-- Committing on a connection and giving it back is linked. -/
theorem commitOn (c : Connection) :
    UnitOfWork.Linked L.toLink (fun _ _ => True) (s.commitOn c) (s'.commitOn c) := by
  refine UnitOfWork.Linked.bind (V := fun _ _ => True) ?_ fun _ _ _ =>
    h.keeping h.releaseConnection fun _ _ => ⟨rfl, rfl⟩
  exact (h.execute c _ _ (.same _)).rescue fun f f' hf =>
    h.keeping (.fail hf) fun _ _ => ⟨rfl, rfl⟩

/-- What a commit ends in: messages are handed over. -/
theorem handOverAll : UnitOfWork.Linked L.toLink (fun _ _ => True)
    (do
      s.state.modify (·.withTransaction .committed)
      let messages := (← s.state.load).outbox.entries
      s.state.modify SessionState.dropMessages
      if !messages.isEmpty then s.handOver messages)
    (do
      s'.state.modify (·.withTransaction .committed)
      let messages := (← s'.state.load).outbox.entries
      s'.state.modify SessionState.dropMessages
      if !messages.isEmpty then s'.handOver messages) := by
  refine h.keeping (h.loading fun x l _ => ?_) fun _ _ => ⟨rfl, rfl⟩
  refine h.keeping ?_ fun _ _ => ⟨rfl, rfl⟩
  exact .ite (fun _ => h.handOver _) fun _ => .pure trivial

/-- Committing is linked, with what is handed over. -/
theorem commit : UnitOfWork.Linked L.toLink (fun _ _ => True) s.commit s'.commit := by
  refine h.assertOpen.bind fun _ _ _ => h.loading fun x l _ => ?_
  have hsame : ({ x with isolation := l } : SessionState).activeConnection? = x.activeConnection? := rfl
  rw [hsame]
  cases x.activeConnection? with
  | none => exact h.handOverAll
  | some c => exact (h.commitOn c).bind fun _ _ _ => h.handOverAll

/-- Rolling back is linked. -/
theorem rollback : UnitOfWork.Linked L.toLink (fun _ _ => True) s.rollback s'.rollback := by
  refine h.assertOpen.bind fun _ _ _ => h.keeping (h.loading fun x l _ => ?_) fun _ _ => ⟨rfl, rfl⟩
  have hsame : ({ x with isolation := l } : SessionState).activeConnection? = x.activeConnection? := rfl
  rw [hsame]
  cases x.activeConnection? with
  | none => exact .pure trivial
  | some c =>
    exact (h.execute c _ _ (.same _)).ensure (h.modifies fun _ l => ⟨l, fun hl => hl, rfl⟩)

/-- Closing is linked, whatever of it fails. -/
theorem close : UnitOfWork.Linked L.toLink (fun _ _ => True) s.close s'.close := by
  refine h.loading fun x l _ => .ite (fun _ => ?_) fun _ => .pure trivial
  refine (h.modifies fun _ _ => ⟨_, fun _ => L.level_refl _, rfl⟩).bind fun _ _ _ => ?_
  rcases x with ⟨transaction, isolation, _ | c, closed, savepoints, outbox⟩
  · exact .pure trivial
  · refine UnitOfWork.Linked.ensure (.ite (fun _ => ?_) fun _ => .pure trivial) h.releaseConnection
    exact (h.execute c _ _ (.same _)).rescue fun f f' hf => h.journal.writeFault hf ..

end Linked

end Session

end UnitOfWork
