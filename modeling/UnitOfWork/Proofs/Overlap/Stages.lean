import UnitOfWork.Proofs.Overlap.Connecting
import UnitOfWork.Proofs.Overlap.Delivery

/-!
# Calls at their stages

A call for the connection, a commit, a rollback or a closing of a session waits for its surroundings
at most a few times. `Stage` says what it waits for, `Surroundings.atStage` is what is left of its
program, and `Goes` lists everything that its next turn can do, for every way in which what it waits
for may end. Other calls have their turns in between, so a turn may find the session in any state.
-/

namespace UnitOfWork.Trial

variable {υ : Type}

/-! ## The stages of a call -/

/-- The calls that contend for the connection of a session and its transaction. -/
def SessionCall.Contends : SessionCall → Prop
  | connection | commit | rollback | close => True
  | setIsolation _ | query _ | queueMessage _ _ => False

/-- How far a call is. -/
inductive Stage (υ : Type) where
  | fresh (call : SessionCall) (h : call.Contends)
  /-- A call for the connection waits for one. -/
  | reserving
  /-- A call for the connection waits for its transaction to begin. -/
  | beginning (c : Connection) (level : Isolation)
  /-- A commit waits for its statement. -/
  | committing (c : Connection)
  /-- A commit gives the connection back. -/
  | parting (c : Connection)
  /-- A commit delivers its messages. -/
  | delivering (p : Program Calls (Desk υ) (Option Connection)) (h : Delivering p)
  /-- A rollback waits for its statement. -/
  | rollingBack (c : Connection)
  /-- A closing waits for its statement. -/
  | undoing (c : Connection)
  /-- A closing gives the connection back. -/
  | returning (c : Connection)
  | ended (outcome : Except Fault (Option Connection))

/-- A commit that took its messages from the outbox: it delivers them or is over. -/
def Stage.Handed : Stage υ → Prop
  | delivering _ _ | ended _ => True
  | _ => False

namespace Surroundings

variable (w : Surroundings) (ref : SessionRef)

/-- A call of an operation, noted when it begins. -/
def announcing (call : SessionCall) : Program Calls (Desk υ) (Option Connection) :=
  .act (Desk.note (.session ref (.called call))) fun _ => call.perform (w.session ref)

/-- How a commit hands its messages over. -/
def flushing : Program Calls (Desk υ) Unit := do
  (w.session ref).state.modify (·.withTransaction .committed)
  let messages := (← (w.session ref).state.load).outbox.entries
  (w.session ref).state.modify SessionState.dropMessages
  if !messages.isEmpty then (w.session ref).handOver messages

/-- What follows when a connection was given back. -/
def onReturned (r : Except Fault Unit) : Program Calls (Desk υ) Unit :=
  (Program.done r).rescue fun f =>
    (w.session ref).journal.writeFault .error "Releasing session connection failed"
      (w.session (υ := υ) ref).mark f

/-- What a commit does once its statement was executed. -/
def onCommitted (r : Except Fault Unit) : Program Calls (Desk υ) (Option Connection) := do
  ((Program.done r).rescue fun f => do
      (w.session ref).state.modify fun d => (d.withTransaction .rolledBack).dropMessages
      .fail f) >>= (fun _ => do
    (w.session ref).state.modify (·.withTransaction .committed)
    (w.session ref).releaseConnection) >>= fun _ => w.flushing ref
  return none

/-- What a commit does once it gave the connection back. -/
def onParted (r : Except Fault Unit) : Program Calls (Desk υ) (Option Connection) := do
  w.onReturned ref r >>= fun _ => w.flushing ref
  return none

/-- What a rollback does once its statement was executed. -/
def onRolledBack (r : Except Fault Unit) : Program Calls (Desk υ) (Option Connection) := do
  (Program.done r).ensure ((w.session ref).state.modify (·.withTransaction .rolledBack))
  return none

/-- What a closing does once its statement was executed. -/
def onUndone (r : Except Fault Unit) : Program Calls (Desk υ) (Option Connection) := do
  ((Program.done r).rescue fun f =>
      (w.session ref).journal.writeFault .error "Rollback while closing session failed"
        (w.session (υ := υ) ref).mark f).ensure (w.session ref).releaseConnection
  return none

/-- What a closing does once it gave the connection back. -/
def onClosed (r : Except Fault Unit) : Program Calls (Desk υ) (Option Connection) := do
  (w.onReturned ref r).bind fun _ => .done (.ok ())
  return none

/-- What is left of a call. -/
def atStage : Stage υ → Program Calls (Desk υ) (Option Connection)
  | .fresh call _ => w.announcing ref call
  | .reserving => w.remaining ref .reserving
  | .beginning c level => w.remaining ref (.beginning c level)
  | .committing c => .ask (.execute ref c .commit) (w.onCommitted ref)
  | .parting c => .ask (.release ref c) (w.onParted ref)
  | .delivering p _ => p
  | .rollingBack c => .ask (.execute ref c .rollback) (w.onRolledBack ref)
  | .undoing c => .ask (.execute ref c .rollback) (w.onUndone ref)
  | .returning c => .ask (.release ref c) (w.onClosed ref)
  | .ended outcome => .done outcome

end Surroundings

/-! ## What a turn does -/

/-- What one turn of a call does: its events, the state that it leaves and the stage that it gets
to. -/
inductive Goes (s : SessionState) :
    Stage υ → List SessionEvent → SessionState → Stage υ → Prop where
  | barred {call : SessionCall} {h : call.Contends} {f : Fault} (hcall : call ≠ .close)
      (hs : s.closed = true) : Goes s (.fresh call h) [.called call] s (.ended (.error f))
  | asks {h : SessionCall.connection.Contends} (ho : s.closed = false) (hc : s.connection = none) :
      Goes s (.fresh .connection h) [.called .connection] s .reserving
  | finds {h : SessionCall.connection.Contends} {c : Connection} (ho : s.closed = false)
      (hc : s.connection = some c) (ha : s.transaction = .active) :
      Goes s (.fresh .connection h) [.called .connection] s (.ended (.ok (some c)))
  | findsIdle {h : SessionCall.connection.Contends} {c : Connection} (ho : s.closed = false)
      (hc : s.connection = some c) (hi : s.transaction ≠ .active) :
      Goes s (.fresh .connection h) [.called .connection] s (.beginning c s.isolation)
  | refused {f : Fault} : Goes s .reserving [.reserved (.error f)] s (.ended (.error f))
  | takes {c : Connection} (ha : s.transaction = .active) :
      Goes s .reserving [.reserved (.ok c)] (s.withConnection (some c)) (.ended (.ok (some c)))
  | takesIdle {c : Connection} (hi : s.transaction ≠ .active) :
      Goes s .reserving [.reserved (.ok c)] (s.withConnection (some c)) (.beginning c s.isolation)
  | begins {c : Connection} {level : Isolation} :
      Goes s (.beginning c level) [.executed c (.begin level) none]
        (s.withTransaction .active).dropMessages (.ended (.ok s.connection))
  | stuck {c : Connection} {level : Isolation} {f : Fault} :
      Goes s (.beginning c level) [.executed c (.begin level) (some f)] s (.ended (.error f))
  | commits {h : SessionCall.commit.Contends} {c : Connection} (ho : s.closed = false)
      (hc : s.activeConnection? = some c) :
      Goes s (.fresh .commit h) [.called .commit] s (.committing c)
  | flushes {h : SessionCall.commit.Contends} {stage : Stage υ} (ho : s.closed = false)
      (hc : s.activeConnection? = none) (hstage : stage.Handed) :
      Goes s (.fresh .commit h) ([.called .commit] ++ handing s.outbox.entries)
        (s.withTransaction .committed).dropMessages stage
  | notCommitted {c : Connection} {f : Fault} :
      Goes s (.committing c) [.executed c .commit (some f)]
        (s.withTransaction .rolledBack).dropMessages (.ended (.error f))
  | committed {c b : Connection} (hb : s.connection = some b) :
      Goes s (.committing c) [.executed c .commit none]
        ((s.withTransaction .committed).withConnection none) (.parting b)
  | committedBare {c : Connection} {stage : Stage υ} (hb : s.connection = none)
      (hstage : stage.Handed) :
      Goes s (.committing c) ([.executed c .commit none] ++ handing s.outbox.entries)
        (s.withTransaction .committed).dropMessages stage
  | parted {c : Connection} {f : Option Fault} {stage : Stage υ} (hstage : stage.Handed) :
      Goes s (.parting c) ([.released c f] ++ handing s.outbox.entries)
        (s.withTransaction .committed).dropMessages stage
  | delivers {p p' : Program Calls (Desk υ) (Option Connection)} {h : Delivering p}
      {h' : Delivering p'} : Goes s (.delivering p h) [] s (.delivering p' h')
  | rollsBack {h : SessionCall.rollback.Contends} {c : Connection} (ho : s.closed = false)
      (hc : s.activeConnection? = some c) :
      Goes s (.fresh .rollback h) [.called .rollback] s.dropMessages (.rollingBack c)
  | clears {h : SessionCall.rollback.Contends} (ho : s.closed = false)
      (hc : s.activeConnection? = none) :
      Goes s (.fresh .rollback h) [.called .rollback] s.dropMessages (.ended (.ok none))
  | rolledBack {c : Connection} {f : Option Fault} {outcome : Except Fault (Option Connection)} :
      Goes s (.rollingBack c) [.executed c .rollback f] (s.withTransaction .rolledBack)
        (.ended outcome)
  | closedAgain {h : SessionCall.close.Contends} (hs : s.closed = true) :
      Goes s (.fresh .close h) [.called .close] s (.ended (.ok none))
  | closesBare {h : SessionCall.close.Contends} (ho : s.closed = false) (hc : s.connection = none) :
      Goes s (.fresh .close h) [.called .close] s.shut (.ended (.ok none))
  | closesIdle {h : SessionCall.close.Contends} {c : Connection} (ho : s.closed = false)
      (hc : s.connection = some c) (hi : s.transaction ≠ .active) :
      Goes s (.fresh .close h) [.called .close] (s.shut.withConnection none) (.returning c)
  | closesActive {h : SessionCall.close.Contends} {c : Connection} (ho : s.closed = false)
      (hc : s.connection = some c) (ha : s.transaction = .active) :
      Goes s (.fresh .close h) [.called .close] s.shut (.undoing c)
  | undone {c b : Connection} {f : Option Fault} (hb : s.connection = some b) :
      Goes s (.undoing c) [.executed c .rollback f] (s.withConnection none) (.returning b)
  | undoneBare {c : Connection} {f : Option Fault} (hb : s.connection = none) :
      Goes s (.undoing c) [.executed c .rollback f] s (.ended (.ok none))
  | returned {c : Connection} {f : Option Fault} :
      Goes s (.returning c) [.released c f] s (.ended (.ok none))
  | rests (outcome : Except Fault (Option Connection)) : Goes s (.ended outcome) [] s (.ended outcome)

end UnitOfWork.Trial
