import Mathlib.Logic.Function.Basic
import UnitOfWork.Proofs.Run
import UnitOfWork.Publisher
import UnitOfWork.Session.Serialized

/-!
# Trials

A trial runs programs over sessions in surroundings that may let any call fail. `Surroundings`
decides from the whole history which calls fail, what the clock shows and what is answered; `Desk`
is the state that programs work on, together with the history of what happened. Statements about
every run are statements about all surroundings.

A fault is `Fault.Sayable` if a log entry can say what it is. Every error is, and so is every value
that has a plain text; the surroundings fail with such faults only.
-/

namespace UnitOfWork

/-! ## Faults that can be told -/

/-- A log entry can say what the fault is. -/
def Fault.Sayable (f : Fault) : Prop :=
  ∃ report, f.report = .ok report

/-- Every error can be told. -/
theorem Fault.sayable_of_isError {f : Fault} (h : f.isError = true) : f.Sayable := by
  cases f with
  | value v => simp [Fault.isError, Fault.info?] at h
  | error info => exact ⟨_, rfl⟩
  | caused info cause => exact ⟨_, rfl⟩
  | selfCaused info => exact ⟨_, rfl⟩

/-- At a moment that has a date an entry about what can be told is written, and only the log
changes. -/
theorem Journal.exists_run_writeFault {S : Signature} {σ : Type} (j : Journal σ)
    (serve : Server S σ) {s : σ}
    (h : (j.now s).hasDate = true) {f : Fault} (hf : f.Sayable) (level : Level) (message : Text)
    (fields : Json.Members) :
    ∃ log, (j.writeFault level message fields f : Program S σ Unit).run serve s
      = (.ok (), j.log.set log s) := by
  obtain ⟨report, hreport⟩ := hf
  rw [writeFault, Program.run_bind, Program.run_ofExcept, hreport]
  exact j.exists_run_write serve h level message _

/-- An error stands for itself. -/
theorem Fault.toError_of_isError {f : Fault} (h : f.isError = true) : f.toError = .ok f := by
  cases f with
  | value v => cases h
  | error info => rfl
  | caused info cause => rfl
  | selfCaused info => rfl

/-- A fault that can be told stands for an error. -/
theorem Fault.Sayable.toError {f : Fault} (h : f.Sayable) :
    ∃ e, f.toError = .ok e ∧ e.Sayable := by
  cases f with
  | error info => exact ⟨_, rfl, h⟩
  | caused info cause => exact ⟨_, rfl, h⟩
  | selfCaused info => exact ⟨_, rfl, h⟩
  | value v =>
    obtain ⟨report, hr⟩ := h
    cases hm : (Fault.value v).message with
    | error g => simp [Fault.report, hm, Except.map] at hr
    | ok text =>
      exact ⟨Fault.named "Error" text, by simp [Fault.toError, hm, Except.map],
        sayable_of_isError rfl⟩

namespace Fault

/-- What can be told: every error, and every value that has a plain text. -/
theorem sayable_iff {f : Fault} :
    f.Sayable ↔ f.isError = true ∨ ∃ v text, f = .value v ∧ valueText? v = some text := by
  constructor
  · rintro ⟨report, hreport⟩
    cases f with
    | value v =>
      cases htext : valueText? v with
      | none => simp [Fault.report, Fault.message, quoted, htext, Except.map] at hreport
      | some text => exact .inr ⟨v, text, rfl, htext⟩
    | error info => exact .inl rfl
    | caused info cause => exact .inl rfl
    | selfCaused info => exact .inl rfl
  · rintro (herror | ⟨v, text, rfl, htext⟩)
    · exact sayable_of_isError herror
    · exact ⟨_, by rw [Fault.report, Fault.message, quoted, htext]; rfl⟩

/-- What can be told has a message. -/
theorem Sayable.message {f : Fault} (h : f.Sayable) : ∃ text, f.message = .ok text := by
  obtain ⟨report, hreport⟩ := h
  cases hmessage : f.message with
  | ok text => exact ⟨text, rfl⟩
  | error g => simp [Fault.report, hmessage, Except.map] at hreport

section

variable {f : Fault} (h : ¬ f.Sayable)

include h

/-- Where a fault cannot be told, asking what it says fails. -/
theorem message_of_not_sayable : f.message = .error noPlainText := by
  cases f with
  | value v =>
    cases htext : valueText? v with
    | none => rw [Fault.message, quoted, htext]
    | some text => exact absurd (sayable_iff.2 (.inr ⟨v, text, rfl, htext⟩)) h
  | error info => exact absurd (sayable_of_isError rfl) h
  | caused info cause => exact absurd (sayable_of_isError rfl) h
  | selfCaused info => exact absurd (sayable_of_isError rfl) h

/-- Reporting what cannot be told fails. -/
theorem report_of_not_sayable : f.report = .error noPlainText := by
  rw [Fault.report, message_of_not_sayable h]
  rfl

/-- What cannot be told is made no error of. -/
theorem toError_of_not_sayable : f.toError = .error noPlainText := by
  have hmessage := message_of_not_sayable h
  cases f with
  | value v => rw [Fault.toError, hmessage]; rfl
  | error info => cases hmessage
  | caused info cause => cases hmessage
  | selfCaused info => cases hmessage

end

end Fault

/-- What a result failed with, if it did. -/
def Fault.of? {α : Type} : Except Fault α → Option Fault
  | .ok _ => none
  | .error f => some f

/-- The result of a call that answers with nothing. -/
def Fault.toResult : Option Fault → Except Fault Unit
  | none => .ok ()
  | some f => .error f

@[simp] theorem Fault.of?_ok {α : Type} (a : α) : Fault.of? (.ok a : Except Fault α) = none := rfl

@[simp] theorem Fault.of?_error {α : Type} (f : Fault) :
    Fault.of? (.error f : Except Fault α) = some f := rfl

@[simp] theorem Fault.toResult_none : Fault.toResult none = .ok () := rfl

@[simp] theorem Fault.toResult_some (f : Fault) : Fault.toResult (some f) = .error f := rfl

namespace Trial

/-- What a result failed with can be told. -/
def Settles {α : Type} (r : Except Fault α) : Prop :=
  ∀ f, r = .error f → f.Sayable

/-- What returns settles. -/
@[simp] theorem settles_ok {α : Type} (a : α) : Settles (.ok a : Except Fault α) := nofun

/-- What fails settles if its fault can be told. -/
@[simp] theorem settles_error {α : Type} {f : Fault} :
    Settles (.error f : Except Fault α) ↔ f.Sayable :=
  ⟨fun h => h f rfl, fun h g hg => by cases hg; exact h⟩

/-- What fails with an error settles. -/
theorem settles_of_isError {α : Type} {f : Fault} (h : f.isError = true) :
    Settles (.error f : Except Fault α) :=
  settles_error.2 (Fault.sayable_of_isError h)

/-- A fault can be told wherever it is thrown again. -/
theorem Settles.rethrown {α β : Type} {f : Fault} (h : Settles (.error f : Except Fault α)) :
    Settles (.error f : Except Fault β) :=
  settles_error.2 (settles_error.1 h)

/-- What is made of a value fails with what there is instead of the value. -/
theorem Settles.map {α β : Type} {r : Except Fault α} (h : Settles r) (f : α → β) :
    Settles (r.map f) := by
  cases r with
  | ok a => exact settles_ok (f a)
  | error g => exact h.rethrown

/-! ## Requests and events -/

/-- What programs ask of their surroundings. Requests about connections name the session that makes
them. -/
inductive Request where
  | reserve (session : SessionRef)
  | execute (session : SessionRef) (c : Connection) (statement : Statement)
  | release (session : SessionRef) (c : Connection)
  | publish (message : Message)
  /-- Waits between two attempts to publish a message. -/
  | pause (ms : Number)
  /-- Draws what the next wait between two attempts at a transaction is made from. -/
  | draw
  /-- Waits between two attempts at a transaction. -/
  | sleep (ms : Number)
  /-- Anything else that work waits for. -/
  | consult (question : Json)

/-- What a request is answered with. -/
def Request.Answer : Request → Type
  | reserve _ => Connection
  | draw => Number
  | consult _ => Json
  | execute _ _ _ | release _ _ | publish _ | pause _ | sleep _ => Unit

/-- The requests of a trial. -/
abbrev Calls : Signature :=
  ⟨Request, Request.Answer⟩

/-- An operation of a session other than a savepoint. -/
inductive SessionCall where
  | setIsolation (level : Isolation)
  | connection
  | query (text : Text)
  | queueMessage (channel : Text) (message : Option Json)
  | commit
  | rollback
  | close

/-- What happens in a session. -/
inductive SessionEvent where
  /-- Work calls an operation. -/
  | called (call : SessionCall)
  /-- The operation that was called last has ended. -/
  | settled (call : SessionCall) (fault : Option Fault)
  | reserved (result : Except Fault Connection)
  | executed (c : Connection) (statement : Statement) (fault : Option Fault)
  | released (c : Connection) (fault : Option Fault)
  /-- The body of a savepoint begins. -/
  | bodyBegan
  | bodyEnded (fault : Option Fault)
  /-- Messages are handed over to the publisher. -/
  | handedOver (messages : List Message)

/-- What happens in a trial. -/
inductive Event where
  | session (ref : SessionRef) (e : SessionEvent)
  | opened (ref : SessionRef)
  | published (message : Message) (fault : Option Fault)
  | paused (ms : Number)
  | drew
  | slept (ms : Number)
  | consulted (question : Json)
  /-- An attempt at a serialized transaction begins its work, with the session that is bound. -/
  | workBegan (ref : SessionRef) (bound : Option SessionRef)
  /-- The work of an attempt has ended, with the messages that wait in its session. -/
  | workEnded (ref : SessionRef) (waiting : List Message) (fault : Option Fault)

/-- An event as one of a session, if it is one of that session. -/
def Event.of? (ref : SessionRef) : Event → Option SessionEvent
  | session r e => if r = ref then some e else none
  | _ => none

/-- An event of a session is one of that session. -/
@[simp] theorem Event.of?_session (ref : SessionRef) (e : SessionEvent) :
    (Event.session ref e).of? ref = some e := if_pos rfl

/-- An event of a session is none of another. -/
theorem Event.of?_session_of_ne {r ref : SessionRef} (h : r ≠ ref) (e : SessionEvent) :
    (Event.session r e).of? ref = none := if_neg h

/-- What happened in one session. -/
def sessionEvents (ref : SessionRef) (history : List Event) : List SessionEvent :=
  history.filterMap (Event.of? ref)

@[simp] theorem sessionEvents_nil (ref : SessionRef) : sessionEvents ref [] = [] := rfl

/-- The events of a session in two histories are those of both. -/
@[simp] theorem sessionEvents_append (ref : SessionRef) (h h' : List Event) :
    sessionEvents ref (h ++ h') = sessionEvents ref h ++ sessionEvents ref h' :=
  List.filterMap_append

/-- Everything in a block of one session's events is that session's. -/
@[simp] theorem sessionEvents_map_session (ref : SessionRef) (block : List SessionEvent) :
    sessionEvents ref (block.map (.session ref)) = block := by
  rw [sessionEvents, List.filterMap_map]
  exact (congrArg (List.filterMap · block) (funext (Event.of?_session ref))).trans
    List.filterMap_some

/-! ## Surroundings and desks -/

/-- What a trial runs in: what fails, what the clock shows, what is answered, and how the program is
set up. All of it may depend on everything that happened. -/
structure Surroundings where
  /-- What a call to the store, the bus or the outside fails with, if it does. -/
  fault? : List Event → Request → Option Fault
  sayable : ∀ history request f, fault? history request = some f → f.Sayable
  clock : List Event → Time
  /-- A clock shows moments that have a date. -/
  dated : ∀ history, (clock history).hasDate = true
  draw : List Event → Number
  advice : List Event → Json → Json
  /-- The identifier of a session. -/
  label : SessionRef → Text
  publishAttempts : Number
  registryRef : RegistryRef

/-- The state of a trial: what work keeps for itself, what the program holds, and what happened. -/
structure Desk (υ : Type) where
  own : υ
  log : Log := {}
  deadLetters : List DeadLetter := []
  sessions : SessionRef → SessionState := fun _ => {}
  /-- Sessions that were opened; they are numbered in the order of their opening. -/
  opened : Nat := 0
  /-- Connections that were handed out. -/
  connections : Nat := 0
  history : List Event := []

namespace Desk

variable {υ : Type}

/-- Adds to the history. -/
def note (e : Event) (d : Desk υ) : Desk υ :=
  { d with history := d.history ++ [e] }

/-- What happened in one session. -/
def eventsOf (ref : SessionRef) (d : Desk υ) : List SessionEvent :=
  sessionEvents ref d.history

/-- Hands out a connection. -/
def handOut (d : Desk υ) : Connection × Desk υ :=
  (⟨d.connections + 1⟩, { d with connections := d.connections + 1 })

/-- The state of a session. -/
def sessionCell (ref : SessionRef) : Cell (Desk υ) SessionState :=
  ⟨fun d => d.sessions ref, fun s d => { d with sessions := Function.update d.sessions ref s }⟩

/-- The log. -/
def logCell : Cell (Desk υ) Log :=
  ⟨Desk.log, fun log d => { d with log }⟩

/-- The dead letters. -/
def deadLetterCell : Cell (Desk υ) (List DeadLetter) :=
  ⟨Desk.deadLetters, fun letters d => { d with deadLetters := letters }⟩

/-- Opens a session. -/
def openSession (d : Desk υ) : SessionRef × Desk υ :=
  (d.opened, ({ d with opened := d.opened + 1 } : Desk υ).note (.opened d.opened))

end Desk

namespace Surroundings

variable {υ : Type} (w : Surroundings)

/-- Answers a request and notes it. A wait always ends, and drawing never fails. -/
def serve : Server Calls (Desk υ)
  | .reserve ref, d =>
    match w.fault? d.history (.reserve ref) with
    | some f => (.error f, d.note (.session ref (.reserved (.error f))))
    | none => (.ok d.handOut.1, d.handOut.2.note (.session ref (.reserved (.ok d.handOut.1))))
  | .execute ref c statement, d =>
    let f := w.fault? d.history (.execute ref c statement)
    (Fault.toResult f, d.note (.session ref (.executed c statement f)))
  | .release ref c, d =>
    let f := w.fault? d.history (.release ref c)
    (Fault.toResult f, d.note (.session ref (.released c f)))
  | .publish message, d =>
    let f := w.fault? d.history (.publish message)
    (Fault.toResult f, d.note (.published message f))
  | .pause ms, d => (.ok (), d.note (.paused ms))
  | .draw, d => (.ok (w.draw d.history), d.note .drew)
  | .sleep ms, d => (.ok (), d.note (.slept ms))
  | .consult question, d =>
    match w.fault? d.history (.consult question) with
    | some f => (.error f, d.note (.consulted question))
    | none => (.ok (w.advice d.history question), d.note (.consulted question))

/-- A question is answered, or it fails with what can be told. -/
theorem serve_consult (question : Json) (d : Desk υ) :
    ∃ r : Except Fault Json, Settles r
      ∧ w.serve (.consult question) d = (r, d.note (.consulted question)) := by
  cases hf : w.fault? d.history (.consult question) with
  | none => exact ⟨.ok (w.advice d.history question), settles_ok _, by simp only [serve, hf]; rfl⟩
  | some f =>
    exact ⟨.error f, settles_error.2 (w.sayable _ _ _ hf), by simp only [serve, hf]; rfl⟩

/-! ## The program in its surroundings -/

/-- Makes a request. -/
def asking (request : Request) : Program Calls (Desk υ) request.Answer :=
  .ask request .done

/-- Where entries are written. -/
def journal : Journal (Desk υ) :=
  ⟨Desk.logCell, fun d => w.clock d.history⟩

/-- The publisher. -/
def publisher : Publisher Calls (Desk υ) where
  journal := w.journal
  maxAttempts := w.publishAttempts
  publish message := asking (.publish message)
  sleep ms := asking (.pause ms)
  deadLetters := Desk.deadLetterCell

/-- A session. What it hands over is noted before the publisher gets it. -/
def session (ref : SessionRef) : Session Calls (Desk υ) where
  id := w.label ref
  state := Desk.sessionCell ref
  journal := w.journal
  reserve := asking (.reserve ref)
  execute c statement := asking (.execute ref c statement)
  release c := asking (.release ref c)
  handOver messages := do
    .change (Desk.note (.session ref (.handedOver messages)))
    w.publisher.flush (Journal.field "sessionId" (w.label ref)) messages

/-- A registry. -/
def registry : Registry Calls (Desk υ) where
  ref := w.registryRef
  journal := w.journal
  create := .step Desk.openSession
  session := w.session

/-- How a serialized transaction is retried, at most `maxAttempts` times in all. -/
def retry (maxAttempts rate : Number) : Retry Calls (Desk υ) where
  maxAttempts := maxAttempts
  rate := rate
  draw := asking .draw
  sleep ms := asking (.sleep ms)

/-- Surroundings in which the requests that a rule names fail with an error, while the clock stands
still and everything else is answered with nothing. -/
def failing (info : ErrorInfo) (rule : List Event → Request → Bool) : Surroundings where
  fault? history request := if rule history request then some (.error info) else none
  sayable history request f h := by
    rw [Option.ite_none_right_eq_some] at h
    cases h.2
    exact Fault.sayable_of_isError rfl
  clock _ := .finite 0
  dated _ := by decide
  draw _ := .finite 0
  advice _ _ := .null
  label _ := "session"
  publishAttempts := .finite 1
  registryRef := 0

/-- Surroundings in which nothing fails. -/
def calm : Surroundings :=
  failing ⟨.application none .null, ""⟩ fun _ _ => false

end Surroundings

end Trial

end UnitOfWork
