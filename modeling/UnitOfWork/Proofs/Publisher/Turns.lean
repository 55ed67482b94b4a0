import UnitOfWork.Proofs.Publisher.Calls

/-!
# Turns of calls on a publisher

`Stage` says what a call waits for, `Surroundings.atStage` is what is left of its program, and
`Goes` lists what its turns do to the desk. The programs of the calls are opened here and nowhere
else (`turn_atStage`).
-/

namespace UnitOfWork.Posting

variable {ι : Type}

/-! ## Stages -/

/-- How far a call is. -/
inductive Stage where
  | fresh (call : Call)
  /-- The bus has an attempt to publish a message; `left` more may follow, and then the rest. -/
  | trying (origin : Json.Members) (message : Message) (rest : List Message) (left attempt : Nat)
  /-- It pauses after a failed attempt. -/
  | resting (origin : Json.Members) (message : Message) (rest : List Message) (left attempt : Nat)
  | ended (outcome : Except Fault Reply)

namespace Surroundings

variable (w : Surroundings ι)

/-- What is left of a flush that is at a message, before the attempt with a number. -/
def onward (i : ι) (origin : Json.Members) (message : Message) (rest : List Message)
    (left attempt : Nat) : Program Requests (Desk ι) Reply :=
  (w.publisher i).tryFrom origin message left attempt >>= fun _ =>
    (w.publisher i).flush origin rest >>= fun _ => pure .nothing

/-- What is left of a call. -/
def atStage (i : ι) : Stage → Program Requests (Desk ι) Reply
  | .fresh call => w.program i call
  | .trying origin message rest left attempt => w.onward i origin message rest (left + 1) attempt
  | .resting origin message rest left attempt =>
    .ask (.pause (Publisher.pauseMs attempt)) fun answer =>
      (Program.done answer : Program Requests (Desk ι) Unit) >>= fun _ =>
        w.onward i origin message rest left (attempt + 1)
  | .ended outcome => .done outcome

/-- Where a flush gets that goes on to the next messages. Messages that get no attempt are passed
over. -/
def stageAt (origin : Json.Members) : List Message → Stage
  | [] => .ended (.ok .nothing)
  | message :: rest =>
    match Publisher.attemptsWithin w.maxAttempts with
    | 0 => stageAt origin rest
    | left + 1 => .trying origin message rest left 1

/-- Where a flush gets that is at a message, before the attempt with a number. -/
def stageOnward (origin : Json.Members) (message : Message) (rest : List Message) :
    (left attempt : Nat) → Stage
  | 0, _ => w.stageAt origin rest
  | left + 1, attempt => .trying origin message rest left attempt

/-- Nothing is left of a call where it ended, and of a flush of nothing from the start. -/
theorem stage_of_done {i : ι} {stage : Stage} {outcome : Except Fault Reply}
    (h : w.atStage i stage = .done outcome) :
    stage = .ended outcome ∨ ∃ origin, stage = .fresh (.flush origin []) ∧ outcome = .ok .nothing := by
  cases stage with
  | fresh call =>
    cases call with
    | flush origin entries =>
      cases entries with
      | nil =>
        cases h
        exact .inr ⟨origin, rfl, rfl⟩
      | cons message rest => cases h
    | letters => cases h
    | clear => cases h
  | trying => cases h
  | resting => cases h
  | ended outcome =>
    cases h
    exact .inl rfl

end Surroundings

/-! ## What a turn does -/

/-- A record of a message that was given up after a number of attempts, the last of which failed. -/
structure Reports (message : Message) (attempts : Nat) (f : Fault) (letter : DeadLetter) : Prop where
  message_eq : letter.message = message
  attempts_eq : letter.attempts = attempts
  error_eq : f.toError = .ok letter.error

/-- What one turn of a call does: the desk that it leaves and the stage that it gets to. Entries may
be written on the way. -/
inductive Goes (w : Surroundings ι) (i : ι) (d : Desk ι) : Stage → Desk ι → Stage → Prop where
  | flushes (origin : Json.Members) (entries : List Message) (log : Log) :
      Goes w i d (.fresh (.flush origin entries)) { d with log := log } (w.stageAt origin entries)
  | tells : Goes w i d (.fresh .letters) d (.ended (.ok (.letters d.deadLetters)))
  | clears :
      Goes w i d (.fresh .clear) { d.note (.cleared i) with deadLetters := [] } (.ended (.ok .nothing))
  | publishes {origin : Json.Members} {message : Message} {rest : List Message} {left attempt : Nat}
      (log : Log) (hf : w.fault? d.history message = none) :
      Goes w i d (.trying origin message rest left attempt)
        { d.note (.attempted i message none) with log := log } (w.stageAt origin rest)
  | rests {origin : Json.Members} {message : Message} {rest : List Message} {left attempt : Nat}
      {f : Fault} (log : Log) (hf : w.fault? d.history message = some f)
      (hmore : (Number.finite attempt).lt w.maxAttempts = true) :
      Goes w i d (.trying origin message rest left attempt)
        { d.note (.attempted i message (some f)) with log := log }
        (.resting origin message rest left attempt)
  | parks {origin : Json.Members} {message : Message} {rest : List Message} {left attempt : Nat}
      {f : Fault} {letter : DeadLetter} (log : Log) (hf : w.fault? d.history message = some f)
      (hlast : (Number.finite attempt).lt w.maxAttempts = false)
      (hletter : Reports message attempt f letter) :
      Goes w i d (.trying origin message rest left attempt)
        { (d.note (.attempted i message (some f))).park i letter with log := log }
        (w.stageOnward origin message rest left (attempt + 1))
  | resumes {origin : Json.Members} {message : Message} {rest : List Message} {left attempt : Nat}
      (log : Log) :
      Goes w i d (.resting origin message rest left attempt)
        { d.note (.paused i (Publisher.pauseMs attempt)) with log := log }
        (w.stageOnward origin message rest left (attempt + 1))
  | stays (outcome : Except Fault Reply) : Goes w i d (.ended outcome) d (.ended outcome)

namespace Surroundings

variable (w : Surroundings ι) (d : Desk ι)

/-- The log after an entry. -/
def entered (level : Level) (text : Text) (fields : Json.Members) : Log :=
  ((d.log.write (w.clock d.history) level text fields).toOption).getD d.log

/-- Writing an entry changes the log and no more. -/
theorem advance_write (level : Level) (text : Text) (fields : Json.Members) :
    (w.journal.write level text fields : Program Requests (Desk ι) Unit).advance d
      = ({ d with log := w.entered d level text fields }, .ended (.ok ())) := by
  obtain ⟨log, h⟩ := Log.exists_write (w.dated d.history) level text fields d.log
  have hwritten : w.journal.written level text fields d = .ok { d with log := log } := by
    simp [Journal.written, journal, h, Except.map]
  simp [Journal.write, Program.tryChange, Program.advance, hwritten, entered, h, Except.map,
    Except.toOption]

/-- The log after an entry that reports on a fault. -/
def enteredFault (level : Level) (text : Text) (fields : Json.Members) (f : Fault) : Log :=
  match f.report with
  | .ok report => w.entered d level text (fields ++ Journal.member "error" report.toJson)
  | .error _ => d.log

/-- A fault that can be told is written in the log at once. -/
theorem advance_writeFault {f : Fault} (hf : f.Sayable) (level : Level) (text : Text)
    (fields : Json.Members) :
    (w.journal.writeFault level text fields f : Program Requests (Desk ι) Unit).advance d
      = ({ d with log := w.enteredFault d level text fields f }, .ended (.ok ())) := by
  obtain ⟨report, hreport⟩ := hf
  simp only [Journal.writeFault, enteredFault, hreport]
  exact w.advance_write d level text _

variable (i : ι) (origin : Json.Members)

@[simp] theorem publisher_journal : (w.publisher i).journal = w.journal := rfl

@[simp] theorem publisher_maxAttempts : (w.publisher i).maxAttempts = w.maxAttempts := rfl

/-- A dead letter is parked at once. -/
@[simp] theorem advance_park (letter : DeadLetter) :
    ((w.publisher i).deadLetters.modify (· ++ [letter]) : Program Requests (Desk ι) Unit).advance d
      = (d.park i letter, .ended (.ok ())) := by
  rw [← Desk.deadLetterCell_update_snoc]
  rfl

/-- Where a flush stops that goes on to the next messages. -/
theorem halted_flush (entries : List Message) :
    ∃ log, Program.halted (((w.publisher i).flush origin entries >>= fun _ => pure .nothing).advance d)
      = (w.atStage i (w.stageAt origin entries), { d with log := log }) := by
  induction entries generalizing d with
  | nil => exact ⟨d.log, rfl⟩
  | cons message rest ih =>
    let text := "Publishing message to " ++ message.channel
    let fields := Publisher.context origin message ++ Journal.field "payload" message.body
    have hflush : ((w.publisher i).flush origin (message :: rest) >>= fun _ => pure .nothing)
        = w.journal.write .debug text fields >>= fun _ =>
          w.onward i origin message rest (Publisher.attemptsWithin w.maxAttempts) 1 := by
      rw [Publisher.flush, Program.bind_bind]
      exact congrArg (w.journal.write .debug text fields >>= ·) (funext fun _ => Program.bind_bind ..)
    rw [hflush, Program.advance_bind, advance_write, stageAt]
    cases Publisher.attemptsWithin w.maxAttempts with
    | zero => exact ih { d with log := w.entered d .debug text fields }
    | succ left => exact ⟨_, rfl⟩

/-- Where a flush stops that goes on with a message. -/
theorem halted_onward (message : Message) (rest : List Message) (left attempt : Nat) :
    ∃ log, Program.halted ((w.onward i origin message rest left attempt).advance d)
      = (w.atStage i (w.stageOnward origin message rest left attempt), { d with log := log }) := by
  cases left with
  | zero => exact w.halted_flush d i origin rest
  | succ left => exact ⟨d.log, rfl⟩

variable {i origin}

/-- A turn of a call at a stage is one of the cases of `Goes`. -/
def Turns (i : ι) (stage : Stage) : Prop :=
  ∃ d' stage', (w.atStage i stage).turn (w.serve i) d = (w.atStage i stage', d')
    ∧ Goes w i d stage d' stage'

variable {message : Message} (rest : List Message) (left attempt : Nat)

/-- The bus has published a message. -/
theorem turns_published (hf : w.fault? d.history message = none) :
    w.Turns d i (.trying origin message rest left attempt) := by
  obtain ⟨log, hhalted⟩ := w.halted_flush (d.note (.attempted i message none)) i origin rest
  refine ⟨_, _, ?_, .publishes log hf⟩
  rw [← hhalted]
  show Program.halted (((Program.done (Fault.toResult (w.fault? d.history message))).rescue _
    >>= _).advance (d.note (.attempted i message (w.fault? d.history message)))) = _
  rw [hf]
  rfl

/-- An attempt to publish a message has failed: the flush pauses, or it parks the message. -/
theorem turns_failed {f : Fault} (hf : w.fault? d.history message = some f) :
    w.Turns d i (.trying origin message rest left attempt) := by
  let d₁ := d.note (.attempted i message (some f))
  obtain ⟨error, herror, hsay⟩ := (w.sayable _ _ _ hf).toError
  have hanswered : ∀ handler : Fault → Program Requests (Desk ι) Unit,
      Program.halted (((Program.done (Fault.toResult (w.fault? d.history message))).rescue handler
        >>= fun _ => (w.publisher i).flush origin rest >>= fun _ => pure Reply.nothing).advance
        (d.note (.attempted i message (w.fault? d.history message))))
      = Program.halted ((handler f >>= fun _ => (w.publisher i).flush origin rest >>= fun _ =>
        pure Reply.nothing).advance d₁) := by
    intro handler
    rw [hf]
    rfl
  have hknown : ∀ next : Fault → Program Requests (Desk ι) Unit,
      (Program.ofExcept f.toError >>= next) = next error := by
    intro next
    rw [herror]
    rfl
  have hturn : (w.onward i origin message rest (left + 1) attempt).turn (w.serve i) d = _ :=
    hanswered _
  simp only [hknown, publisher_maxAttempts, publisher_journal] at hturn
  by_cases hmore : (Number.finite attempt).lt w.maxAttempts = true
  · simp only [hmore, if_true, Program.bind_bind] at hturn
    rw [Program.advance_bind, w.advance_writeFault _ hsay] at hturn
    exact ⟨_, .resting origin message rest left attempt, hturn, .rests _ hf hmore⟩
  · have hlast := Bool.eq_false_iff.2 hmore
    have hletter : Reports message attempt f ⟨message, error, attempt, w.clock d₁.history⟩ :=
      ⟨rfl, rfl, herror⟩
    simp only [hlast, Bool.false_eq_true, if_false, Program.bind_bind] at hturn
    rw [Program.advance_bind, Program.advance_read] at hturn
    dsimp only at hturn
    rw [Program.advance_bind, advance_park] at hturn
    dsimp only at hturn
    rw [Program.advance_bind, w.advance_writeFault _ hsay] at hturn
    exact (w.halted_onward _ i origin message rest left (attempt + 1)).elim fun log hhalted =>
      ⟨_, _, hturn.trans hhalted, .parks log hf hlast hletter⟩

/-- A turn of a call at a stage does what `Goes` says. -/
theorem turn_atStage (stage : Stage) : w.Turns d i stage := by
  cases stage with
  | fresh call =>
    cases call with
    | flush origin entries =>
      obtain ⟨log, hhalted⟩ := w.halted_flush d i origin entries
      refine ⟨_, _, ?_, .flushes origin entries log⟩
      rw [← hhalted]
      cases entries <;> rfl
    | letters => exact ⟨d, _, rfl, .tells⟩
    | clear =>
      refine ⟨_, _, ?_, .clears⟩
      rw [← Desk.deadLetterCell_update_nil i]
      rfl
  | trying origin message rest left attempt =>
    cases hf : w.fault? d.history message with
    | none => exact w.turns_published d rest left attempt hf
    | some f => exact w.turns_failed d rest left attempt hf
  | resting origin message rest left attempt =>
    obtain ⟨log, hhalted⟩ := w.halted_onward (d.note (.paused i (Publisher.pauseMs attempt))) i origin
      message rest left (attempt + 1)
    exact ⟨_, _, hhalted, .resumes log⟩
  | ended outcome => exact ⟨d, .ended outcome, rfl, .stays outcome⟩

end Surroundings

end UnitOfWork.Posting
