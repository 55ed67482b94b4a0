import UnitOfWork.Proofs.Trial.Basic

/-!
# Running a session's requests

What the single steps of a session come to in a trial. Each leaves a desk of the form `Desk.after`:
the session in a new state, a block of its events added to the history, and some log. Two such desks
in a row make one (`Desk.after_after`), so the run of an operation is computed by rewriting.
-/

namespace UnitOfWork.Trial

variable {υ α : Type}

/-! ## A session's part of a desk -/

/-- The desk after a session went over to a state, with a block of its events. -/
def Desk.after (d : Desk υ) (ref : SessionRef) (s : SessionState) (block : List SessionEvent)
    (log : Log) (connections : Nat) : Desk υ :=
  { d with
    sessions := Function.update d.sessions ref s
    history := d.history ++ block.map (.session ref)
    log := log
    connections := connections }

namespace Desk

variable (d : Desk υ) (ref : SessionRef) (s s' : SessionState) (block block' : List SessionEvent)
  (log log' : Log) (n n' : Nat)

/-- Without any events a desk is as it was. -/
@[simp] theorem after_self : d.after ref (d.sessions ref) [] d.log d.connections = d := by
  simp [after]

/-- What one session goes through in two parts it goes through. -/
@[simp] theorem after_after :
    (d.after ref s block log n).after ref s' block' log' n'
      = d.after ref s' (block ++ block') log' n' := by
  simp [after]

/-- An event of a session is noted and changes nothing else. -/
theorem note_session (e : SessionEvent) :
    d.note (.session ref e) = d.after ref (d.sessions ref) [e] d.log d.connections := by
  simp [note, after]

@[simp] theorem after_sessions : (d.after ref s block log n).sessions ref = s :=
  Function.update_self ..

@[simp] theorem after_history :
    (d.after ref s block log n).history = d.history ++ block.map (.session ref) := rfl

@[simp] theorem after_log : (d.after ref s block log n).log = log := rfl

@[simp] theorem after_connections : (d.after ref s block log n).connections = n := rfl

@[simp] theorem after_opened : (d.after ref s block log n).opened = d.opened := rfl

end Desk

/-! ## Entries -/

namespace Surroundings

variable (w : Surroundings)

/-- The log after an entry was written. -/
def entered (history : List Event) (level : Level) (message : Text) (fields : Json.Members)
    (log : Log) : Log :=
  match log.write (w.clock history) level message fields with
  | .ok log' => log'
  | .error _ => log

/-- An entry can always be written: every moment of a trial has a date. -/
theorem write_eq_ok (history : List Event) (level : Level) (message : Text) (fields : Json.Members)
    (log : Log) :
    log.write (w.clock history) level message fields
      = .ok (w.entered history level message fields log) := by
  obtain ⟨log', h⟩ := Log.exists_write (w.dated history) level message fields log
  rw [entered, h]

/-- An entry is written in the log, and nothing else changes. -/
@[simp] theorem run_write (level : Level) (message : Text) (fields : Json.Members) (d : Desk υ) :
    (w.journal.write level message fields).run w.serve d
      = (.ok (), { d with log := w.entered d.history level message fields d.log }) := by
  simp [Journal.write, Program.tryChange, Journal.written, journal, Desk.logCell, write_eq_ok,
    Except.map]

/-- The log after an entry that reports on a fault. -/
def enteredFault (history : List Event) (level : Level) (message : Text) (fields : Json.Members)
    (f : Fault) (log : Log) : Log :=
  match f.report with
  | .ok report => w.entered history level message (fields ++ Journal.member "error" report.toJson) log
  | .error _ => log

/-- A fault that can be told is written in the log, and nothing else changes. -/
theorem run_writeFault {f : Fault} (hf : f.Sayable) (level : Level) (message : Text)
    (fields : Json.Members) (d : Desk υ) :
    (w.journal.writeFault level message fields f).run w.serve d
      = (.ok (), { d with log := w.enteredFault d.history level message fields f d.log }) := by
  obtain ⟨report, hr⟩ := hf
  simp [Journal.writeFault, enteredFault, hr]

/-! ## The fields of a session -/

section

variable (ref : SessionRef) (d : Desk υ)

@[simp] theorem session_state_get : (w.session ref).state.get d = d.sessions ref := rfl

/-- Changing the state of a session changes that session only. -/
@[simp] theorem session_state_update (f : SessionState → SessionState) :
    (w.session ref).state.update f d
      = d.after ref (f (d.sessions ref)) [] d.log d.connections := by
  simp [session, Desk.sessionCell, Cell.update, Desk.after]

/-- A session writes in the log of the desk. -/
@[simp] theorem run_enter (level : Level) (message : Text) (fields : Json.Members) :
    ((w.session ref).journal.write level message fields : Program Calls (Desk υ) Unit).run w.serve d
      = (.ok (), d.after ref (d.sessions ref) []
          (w.entered d.history level message fields d.log) d.connections) := by
  show (w.journal.write level message fields).run w.serve d = _
  simp [Desk.after]

/-- A session writes a fault in the log of the desk, if it can be told. -/
theorem run_enterFault {f : Fault} (hf : f.Sayable) (level : Level) (message : Text)
    (fields : Json.Members) :
    ((w.session ref).journal.writeFault level message fields f :
        Program Calls (Desk υ) Unit).run w.serve d
      = (.ok (), d.after ref (d.sessions ref) []
          (w.enteredFault d.history level message fields f d.log) d.connections) := by
  show (w.journal.writeFault level message fields f).run w.serve d = _
  simp [run_writeFault w hf, Desk.after]

/-- A statement is executed as the surroundings decide, and noted. -/
@[simp] theorem run_execute (c : Connection) (statement : Statement) :
    ((w.session ref).execute c statement : Program Calls (Desk υ) Unit).run w.serve d
      = (Fault.toResult (w.fault? d.history (.execute ref c statement)),
          d.after ref (d.sessions ref)
            [.executed c statement (w.fault? d.history (.execute ref c statement))]
            d.log d.connections) := by
  show w.serve (.execute ref c statement) d = _
  simp [serve, Desk.after, Desk.note]
  rfl

/-- A connection is given back, and how that ends is noted. -/
@[simp] theorem run_release (c : Connection) :
    ((w.session ref).release c : Program Calls (Desk υ) Unit).run w.serve d
      = (Fault.toResult (w.fault? d.history (.release ref c)),
          d.after ref (d.sessions ref) [.released c (w.fault? d.history (.release ref c))]
            d.log d.connections) := by
  show w.serve (.release ref c) d = _
  simp [serve, Desk.after, Desk.note]
  rfl

/-- A connection that is refused. -/
theorem run_reserve_of_some {f : Fault} (h : w.fault? d.history (.reserve ref) = some f) :
    ((w.session ref).reserve : Program Calls (Desk υ) Connection).run w.serve d
      = (.error f, d.after ref (d.sessions ref) [.reserved (.error f)] d.log d.connections) := by
  show w.serve (.reserve ref) d = _
  simp [serve, h, Desk.after, Desk.note]
  rfl

/-- A connection that is handed out is numbered after those before it. -/
theorem run_reserve_of_none (h : w.fault? d.history (.reserve ref) = none) :
    ((w.session ref).reserve : Program Calls (Desk υ) Connection).run w.serve d
      = (.ok ⟨d.connections + 1⟩,
          d.after ref (d.sessions ref) [.reserved (.ok ⟨d.connections + 1⟩)] d.log
            (d.connections + 1)) := by
  show w.serve (.reserve ref) d = _
  simp [serve, h, Desk.after, Desk.note, Desk.handOut]
  rfl

end

end Surroundings

end UnitOfWork.Trial
