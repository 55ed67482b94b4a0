import UnitOfWork.Proofs.Number.Numerals
import UnitOfWork.Proofs.Publisher.Attempts
import UnitOfWork.Proofs.Trial.Flush

/-!
# Batches in a trial

What a flush that is left alone does in a trial, event by event: `flush_settles_all` says that the
messages are settled one after another as `Publisher.Notes.AllSettled` tells, that the bus answers
every attempt, and which dead letters are left.
-/

namespace UnitOfWork

namespace Trial

open Publisher.Notes (eventsIn lettersIn eventsIn_append lettersIn_append)

variable {υ : Type}

/-- What is noted of a publisher: events of the history, and records among the dead letters. -/
def notes : Publisher.Notes (Event ⊕ DeadLetter) where
  published message f := .inl (.published message f)
  paused ms := [.inl (.paused ms)]
  parked letter := .inr letter

namespace Surroundings

variable (w : Surroundings)

/-- The attempts in a stretch of history were answered as the bus answers them after all that
happened before. -/
def Answers (before block : List Event) : Prop :=
  ∀ earlier message f later, block = earlier ++ .published message f :: later →
    f = w.fault? (before ++ earlier) (.publish message)

variable {w} {before block block' : List Event}

/-- Where nothing happens nothing is answered otherwise. -/
theorem answers_nil : w.Answers before [] := by
  intro earlier message f later h
  cases List.append_eq_nil_iff.1 h.symm |>.2

/-- Two blocks that are answered as the surroundings decide are so one after the other. -/
theorem Answers.append (h : w.Answers before block) (h' : w.Answers (before ++ block) block') :
    w.Answers before (block ++ block') := by
  intro earlier message f later heq
  rcases List.append_eq_append_iff.1 heq with ⟨more, rfl, hmore⟩ | ⟨more, hmore, hlater⟩
  · rw [← List.append_assoc]
    exact h' more message f later hmore
  · cases more with
    | nil =>
      rw [List.append_nil] at hmore
      subst hmore
      have hfirst := h' [] message f later hlater.symm
      rwa [List.append_nil] at hfirst
    | cons e more =>
      cases hlater
      exact h earlier message f more hmore

/-- A message is published as the surroundings decide. -/
theorem answers_published (before : List Event) (message : Message) :
    w.Answers before [.published message (w.fault? before (.publish message))] := by
  intro earlier m f later h
  rcases List.singleton_eq_append_iff.1 h with ⟨rfl, h⟩ | ⟨-, h⟩
  · cases h
    rw [List.append_nil]
  · cases h

/-- A pause needs no answer. -/
theorem answers_paused (before : List Event) (ms : Number) : w.Answers before [.paused ms] := by
  intro earlier m f later h
  rcases List.singleton_eq_append_iff.1 h with ⟨rfl, h⟩ | ⟨-, h⟩ <;> cases h

end Surroundings

/-- The second desk follows the first by some notes. The attempts among them were answered by the
bus. -/
structure Desk.Posts (w : Surroundings) (block : List (Event ⊕ DeadLetter)) (d d' : Desk υ) : Prop where
  history : d'.history = d.history ++ eventsIn block
  deadLetters : d'.deadLetters = d.deadLetters ++ lettersIn block
  answered : w.Answers d.history (eventsIn block)

namespace Desk.Posts

variable {w : Surroundings} {block more : List (Event ⊕ DeadLetter)} {d d₁ d₂ : Desk υ}

/-- What is posted in two parts is posted. -/
theorem trans (h : d.Posts w block d₁) (h' : d₁.Posts w more d₂) : d.Posts w (block ++ more) d₂ where
  history := by rw [h'.history, h.history, eventsIn_append, List.append_assoc]
  deadLetters := by rw [h'.deadLetters, h.deadLetters, lettersIn_append, List.append_assoc]
  answered := by
    rw [eventsIn_append]
    exact h.answered.append (h.history ▸ h'.answered)

/-- Entries in the log add nothing. -/
theorem keep (d : Desk υ) (log : Log) : d.Posts w [] { d with log } :=
  ⟨(List.append_nil _).symm, (List.append_nil _).symm, Surroundings.answers_nil⟩

end Desk.Posts

/-- The publisher of a trial does what the notes tell. -/
theorem Surroundings.publisher_tells {w : Surroundings} {n : Nat}
    (hlimit : w.publishAttempts = .finite n) :
    notes.Tell w.publisher w.serve (Desk.Posts (υ := υ) w) n where
  limit := hlimit
  nil d := .keep d d.log
  trans := Desk.Posts.trans
  writes level message fields d := ⟨_, w.run_write level message fields d, .keep d _⟩
  publishes message d :=
    ⟨_, _, w.run_publish message d, ⟨rfl, (List.append_nil _).symm, answers_published d.history message⟩,
      w.sayable d.history (.publish message)⟩
  pauses ms d :=
    ⟨_, w.run_pause ms d, ⟨rfl, (List.append_nil _).symm, answers_paused d.history ms⟩⟩
  parks _ _ := ⟨(List.append_nil _).symm, rfl, answers_nil⟩

/-- A flush does exactly this: it tries the messages one after another, each until an attempt
succeeds or its attempts are used up, with a pause after each attempt that another one follows. The
bus answers every attempt. Each message whose attempts all failed leaves one dead letter with the
error of the last one, and the flush does not fail. The pause after attempt `a` is of `a * a * 100`
milliseconds: that is what the number `Number.ofNat (a * a) * 100` is as long as there are numbers
for its factors, and with no rounding at all as long as there is a number for it. -/
theorem flush_settles_all (w : Surroundings) {n : Nat} (hn : 1 ≤ n)
    (hlimit : w.publishAttempts = .finite n) (origin : Json.Members) (messages : List Message)
    (d : Desk υ) :
    ∃ d' block, (w.publisher.flush origin messages).run w.serve d = (.ok (), d')
      ∧ d'.history = d.history ++ eventsIn block ∧ d'.deadLetters = d.deadLetters ++ lettersIn block
      ∧ w.Answers d.history (eventsIn block) ∧ notes.AllSettled n messages block
      ∧ ∀ a : Nat, (a * a < 2 ^ 53 → Number.ofNat (a * a) * 100 = Number.ofNat (a * a * 100))
        ∧ (a * a * 100 < 2 ^ 53 → Number.ofNat (a * a) * 100 = .finite (a * a * 100 : Nat)) := by
  obtain ⟨d', block, hrun, hposts, hall⟩ :=
    (Surroundings.publisher_tells hlimit).run_flush origin hn messages d
  refine ⟨d', block, hrun, hposts.history, hposts.deadLetters, hposts.answered, hall,
    fun a => ⟨Number.ofNat_mul_hundred, fun hsmall => ?_⟩⟩
  exact (Number.ofNat_mul_hundred (by omega)).trans (Number.round_natCast hsmall)

/-- A bus that takes no greeting, and a farewell at the second attempt; each is tried twice. -/
def surly : Surroundings :=
  { Surroundings.failing ⟨.application none .null, "busy"⟩ fun history request =>
      match request with
      | .publish message => message.body = "hello" || history.length = 3
      | _ => false with
    publishAttempts := .finite 2 }

/-- The greeting is parked after two attempts, and the farewell is published at the second one. -/
theorem flush_settles_all_surly :
    let hello : Message := ⟨"chat", "hello"⟩
    let bye : Message := ⟨"chat", "bye"⟩
    ∃ d' block,
      (surly.publisher.flush [] [hello, bye]).run surly.serve ({ own := () } : Desk Unit) = (.ok (), d')
      ∧ notes.AllSettled 2 [hello, bye] block ∧ d'.history = eventsIn block
      ∧ (eventsIn block).length = 6
      ∧ (lettersIn block).map (fun letter => (letter.message, letter.attempts)) = [(hello, 2)] := by
  intro hello bye
  obtain ⟨d', block, hrun, hhistory, hletters, -, hall, -⟩ :=
    flush_settles_all surly (n := 2) (by decide) rfl [] [hello, bye] ({ own := () } : Desk Unit)
  have hd' : _ = d' := congrArg Prod.snd hrun
  rw [List.nil_append] at hhistory hletters
  refine ⟨d', block, hrun, hall, hhistory, ?_, ?_⟩
  · rw [← hhistory, ← hd']
    decide +kernel
  · rw [← hletters, ← hd']
    decide +kernel

end Trial

end UnitOfWork
