import UnitOfWork.Proofs.Trial.Running

/-!
# Handing over never fails

Whatever the bus does, the publisher takes the messages of a batch to an end: `run_flush` says that
it never fails, that it touches no session, and that all it adds to the history are publications of
the batch's messages and the waits between them. So does `Session.handOver` (`run_handOver`).
-/

namespace UnitOfWork.Trial

variable {υ : Type}

/-- The event is part of delivering some of these messages. -/
def Event.Delivers (messages : List Message) : Event → Prop
  | published message _ => message ∈ messages
  | paused _ => messages ≠ []
  | _ => False

/-- What delivers some messages delivers some of more. -/
theorem Event.Delivers.mono {ms ms' : List Message} {e : Event} (h : e.Delivers ms)
    (hsub : ms ⊆ ms') : e.Delivers ms' := by
  cases e with
  | published m f => exact hsub h
  | paused ms =>
    intro hnil
    subst hnil
    exact h (List.eq_nil_of_subset_nil hsub)
  | _ => exact h

/-- Delivering is nothing that happens in a session. -/
theorem Event.Delivers.of?_eq_none {ms : List Message} {e : Event} (h : e.Delivers ms)
    (ref : SessionRef) : e.of? ref = none := by
  cases e with
  | session r e => exact h.elim
  | _ => rfl

/-- The second desk follows the first by delivering messages. -/
structure Desk.Delivered (ms : List Message) (d d' : Desk υ) : Prop where
  sessions : d'.sessions = d.sessions
  opened : d'.opened = d.opened
  connections : d'.connections = d.connections
  history : ∃ more, d'.history = d.history ++ more ∧ ∀ e ∈ more, e.Delivers ms

namespace Desk.Delivered

variable {ms ms' : List Message} {d d₁ d₂ : Desk υ}

/-- Where nothing happens nothing is delivered. -/
theorem refl (d : Desk υ) : d.Delivered ms d :=
  ⟨rfl, rfl, rfl, [], by simp, by simp⟩

/-- Deliveries of the same messages, one after the other, deliver no others. -/
theorem trans (h : d.Delivered ms d₁) (h' : d₁.Delivered ms d₂) : d.Delivered ms d₂ := by
  obtain ⟨more, hmore, hdel⟩ := h.history
  obtain ⟨more', hmore', hdel'⟩ := h'.history
  refine ⟨h'.sessions.trans h.sessions, h'.opened.trans h.opened,
    h'.connections.trans h.connections, more ++ more', ?_, ?_⟩
  · rw [hmore', hmore, List.append_assoc]
  · intro e he
    rcases List.mem_append.1 he with he | he
    · exact hdel e he
    · exact hdel' e he

/-- Deliveries of some messages are deliveries of more. -/
theorem mono (h : d.Delivered ms d₁) (hsub : ms ⊆ ms') : d.Delivered ms' d₁ := by
  obtain ⟨more, hmore, hdel⟩ := h.history
  exact ⟨h.sessions, h.opened, h.connections, more, hmore, fun e he => (hdel e he).mono hsub⟩

/-- An event of the delivery, noted beside any entries and dead letters. -/
theorem note {e : Event} (he : e.Delivers ms) (log : Log) (letters : List DeadLetter) :
    d.Delivered ms ({ d with log := log, deadLetters := letters }.note e) :=
  ⟨rfl, rfl, rfl, [e], rfl, by simpa using he⟩

/-- Entries and dead letters are no events. -/
theorem keep (log : Log) (letters : List DeadLetter) :
    d.Delivered ms { d with log := log, deadLetters := letters } :=
  ⟨rfl, rfl, rfl, [], by simp, by simp⟩

end Desk.Delivered

namespace Surroundings

variable (w : Surroundings) (origin : Json.Members)

@[simp] theorem publisher_journal :
    (w.publisher : Publisher Calls (Desk υ)).journal = w.journal := rfl

/-- A message is published as the surroundings decide, and noted. -/
theorem run_publish (message : Message) (d : Desk υ) :
    (w.publisher.publish message : Program Calls (Desk υ) Unit).run w.serve d
      = (Fault.toResult (w.fault? d.history (.publish message)),
          d.note (.published message (w.fault? d.history (.publish message)))) := rfl

/-- A pause ends, and is noted. -/
theorem run_pause (ms : Number) (d : Desk υ) :
    (w.publisher.sleep ms : Program Calls (Desk υ) Unit).run w.serve d
      = (.ok (), d.note (.paused ms)) := rfl

/-- Trying a message comes to an end, from every attempt on. -/
theorem run_tryFrom (message : Message) (left attempt : Nat) (d : Desk υ) :
    ∃ d', (w.publisher.tryFrom origin message left attempt).run w.serve d = (.ok (), d')
      ∧ d.Delivered [message] d' := by
  induction left generalizing attempt d with
  | zero => exact ⟨d, rfl, .refl d⟩
  | succ left ih =>
    have hnote : ∀ f, d.Delivered [message] (d.note (.published message f)) := fun f =>
      .note (by simp [Event.Delivers]) d.log d.deadLetters
    rw [Publisher.tryFrom, Program.run_rescue, run_publish]
    cases hf : w.fault? d.history (.publish message) with
    | none => exact ⟨_, rfl, hnote none⟩
    | some fault =>
      obtain ⟨error, herror, hsay⟩ := (w.sayable _ _ _ hf).toError
      simp only [Fault.toResult_some, Program.run_bind, Program.run_ofExcept, herror]
      split
      · -- another attempt follows, after a pause
        simp only [Program.run_bind, publisher_journal, run_writeFault w hsay, run_pause]
        obtain ⟨d', hrun, hdel⟩ := ih (attempt + 1) _
        refine ⟨d', hrun, (hnote _).trans (.trans (.note ?_ _ _) hdel)⟩
        simp [Event.Delivers]
      · -- the message is parked
        simp only [Program.run_bind, Program.run_read, Program.run_modify, publisher_journal,
          run_writeFault w hsay]
        obtain ⟨d', hrun, hdel⟩ := ih (attempt + 1) _
        exact ⟨d', hrun, (hnote _).trans (.trans (.keep _ _) hdel)⟩

/-- A batch is taken to an end, and delivered by nothing but publications of its messages. -/
theorem run_flush (messages : List Message) (d : Desk υ) :
    ∃ d', (w.publisher.flush origin messages).run w.serve d = (.ok (), d')
      ∧ d.Delivered messages d' := by
  induction messages generalizing d with
  | nil => exact ⟨d, rfl, .refl d⟩
  | cons message rest ih =>
    simp only [Publisher.flush, Publisher.publishOrPark, Program.run_bind, publisher_journal,
      run_write]
    generalize w.entered d.history _ _ _ d.log = log
    obtain ⟨d₁, hrun₁, hdel₁⟩ := w.run_tryFrom origin message
      (Publisher.attemptsWithin w.publishAttempts) 1 { d with log := log }
    obtain ⟨d₂, hrun₂, hdel₂⟩ := ih d₁
    refine ⟨d₂, ?_, .trans (.keep _ d.deadLetters) ((hdel₁.mono ?_).trans (hdel₂.mono ?_))⟩
    · rw [show w.publisher.maxAttempts = w.publishAttempts from rfl, hrun₁]
      exact hrun₂
    · exact List.cons_subset_cons message (List.nil_subset rest)
    · exact List.subset_cons_self message rest

/-- Messages are handed over without fail. -/
theorem run_handOver (ref : SessionRef) (messages : List Message) (d : Desk υ) :
    ∃ d', ((w.session ref).handOver messages : Program Calls (Desk υ) Unit).run w.serve d = (.ok (), d')
      ∧ (d.note (.session ref (.handedOver messages))).Delivered messages d' :=
  w.run_flush _ messages _

end Surroundings

end UnitOfWork.Trial
