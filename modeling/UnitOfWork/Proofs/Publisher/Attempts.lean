import UnitOfWork.Proofs.Publisher.Fates
import UnitOfWork.Proofs.Trial.Basic

/-!
# A batch from its first attempt to its last

What a flush that is left alone does, note by note. The messages of a batch are settled one after
another, and what is noted about one of them is a block: failed attempts, each with the pause after
it, and then the attempt that succeeds, or the last one, which fails and leaves a dead letter.
`Publisher.Notes` says what is noted, and `Publisher.Notes.Tell` of a system that its parts do what
the notes tell; then so does a flush (`Publisher.Notes.Tell.run_flush`).
-/

namespace UnitOfWork.Publisher

variable {S : Signature} {σ ε : Type}

/-- What is noted when a publisher makes an attempt, pauses, and parks a message. -/
structure Notes (ε : Type) where
  published : Message → Option Fault → ε
  paused : Number → List ε
  parked : DeadLetter → ε

namespace Notes

variable (N : Notes ε)

/-- Failed attempts to publish a message, each with the pause after it: `a * a * 100` milliseconds
after attempt `a`, of which `a * a` is a number of its own. -/
def failed (message : Message) (faults : List Fault) : List ε :=
  (faults.zipIdx 1).flatMap fun (f, a) =>
    N.published message (some f) :: N.paused (Number.ofNat (a * a) * 100)

/-- One more failed attempt stands behind the others. -/
theorem failed_snoc (message : Message) (faults : List Fault) (f : Fault) :
    N.failed message (faults ++ [f]) = N.failed message faults
      ++ ([N.published message (some f)]
        ++ N.paused (Number.ofNat ((faults.length + 1) * (faults.length + 1)) * 100)) := by
  rw [failed, List.zipIdx_append, List.flatMap_append, Nat.add_comm]
  simp [failed]

/-- A message is settled within a number of attempts. -/
inductive Settled (n : Nat) (message : Message) : List ε → Prop where
  /-- An attempt succeeds. -/
  | published (faults : List Fault) (h : faults.length < n) :
      Settled n message (N.failed message faults ++ [N.published message none])
  /-- All attempts fail, and the message is parked with the error of the last one. -/
  | parked (faults : List Fault) {f : Fault} {letter : DeadLetter} (h : faults.length + 1 = n)
      (hmessage : letter.message = message) (herror : f.toError = .ok letter.error)
      (hself : f.isError = true → letter.error = f)
      (hattempts : letter.attempts = n) :
      Settled n message
        (N.failed message faults ++ [N.published message (some f), N.parked letter])

/-- The messages of a batch are settled in their order. -/
inductive AllSettled (n : Nat) : List Message → List ε → Prop where
  | nil : AllSettled n [] []
  | cons {message : Message} {rest : List Message} {block more : List ε}
      (h : N.Settled n message block) (hrest : AllSettled n rest more) :
      AllSettled n (message :: rest) (block ++ more)

section

variable {N} {p : ε → Prop} (hpublished : ∀ message f, p (N.published message f))
  (hpaused : ∀ ms, ∀ e ∈ N.paused ms, p e) (hparked : ∀ letter, p (N.parked letter))

include hpublished hpaused hparked

/-- What holds of every note holds of those about one message. -/
theorem Settled.forall_mem {n : Nat} {message : Message} {block : List ε}
    (h : N.Settled n message block) : ∀ e ∈ block, p e := by
  have hfailed (faults : List Fault) : ∀ e ∈ N.failed message faults, p e := by
    intro e he
    obtain ⟨⟨f, attempt⟩, -, he⟩ := List.mem_flatMap.1 he
    rcases List.mem_cons.1 he with rfl | he
    · exact hpublished message f
    · exact hpaused _ e he
  cases h with
  | published faults h =>
    exact List.forall_mem_append.2 ⟨hfailed faults, by simpa using hpublished message none⟩
  | parked faults h =>
    exact List.forall_mem_append.2 ⟨hfailed faults, by simpa using ⟨hpublished message _, hparked _⟩⟩

/-- What holds of every note holds throughout a batch. -/
theorem AllSettled.forall_mem {n : Nat} {messages : List Message} {block : List ε}
    (h : N.AllSettled n messages block) : ∀ e ∈ block, p e := by
  induction h with
  | nil => simp
  | cons h _ ih =>
    exact List.forall_mem_append.2 ⟨h.forall_mem hpublished hpaused hparked, ih⟩

end

/-! ## Dead letters among the notes -/

section

variable {κ : Type}

/-- The events among what is noted beside dead letters. -/
def eventsIn (block : List (κ ⊕ DeadLetter)) : List κ :=
  block.filterMap Sum.getLeft?

/-- The dead letters among what is noted. -/
def lettersIn (block : List (κ ⊕ DeadLetter)) : List DeadLetter :=
  block.filterMap Sum.getRight?

/-- The events of two blocks are those of both. -/
theorem eventsIn_append (block more : List (κ ⊕ DeadLetter)) :
    eventsIn (block ++ more) = eventsIn block ++ eventsIn more :=
  List.filterMap_append

/-- The dead letters of two blocks are those of both. -/
theorem lettersIn_append (block more : List (κ ⊕ DeadLetter)) :
    lettersIn (block ++ more) = lettersIn block ++ lettersIn more :=
  List.filterMap_append

end

/-! ## Publishers that do what is noted -/

/-- The parts of a publisher do what the notes tell: `adds` relates a state to one that follows it
with some notes more. Entries in the log are not noted. -/
structure Tell (P : Publisher S σ) (serve : Server S σ) (adds : List ε → σ → σ → Prop)
    (n : Nat) : Prop where
  limit : P.maxAttempts = .finite n
  nil : ∀ s, adds [] s s
  trans : ∀ {block more s s₁ s₂}, adds block s s₁ → adds more s₁ s₂ → adds (block ++ more) s s₂
  writes : ∀ level message fields s, ∃ s',
    (P.journal.write level message fields : Program S σ Unit).run serve s = (.ok (), s') ∧ adds [] s s'
  publishes : ∀ message s, ∃ f s', (P.publish message).run serve s = (Fault.toResult f, s')
    ∧ adds [N.published message f] s s' ∧ ∀ g, f = some g → g.Sayable
  pauses : ∀ ms s, ∃ s', (P.sleep ms).run serve s = (.ok (), s') ∧ adds (N.paused ms) s s'
  parks : ∀ letter s, adds [N.parked letter] s (P.deadLetters.update (· ++ [letter]) s)

namespace Tell

variable {N} {P : Publisher S σ} {serve : Server S σ} {adds : List ε → σ → σ → Prop} {n : Nat}
  (h : N.Tell P serve adds n) (origin : Json.Members) {message : Message} {s s₁ : σ} {f : Fault}

include h

/-- A fault that can be told is written in the log without a note. -/
theorem writesFault (hf : f.Sayable) (level : Level) (text : Text) (fields : Json.Members) (s : σ) :
    ∃ s', (P.journal.writeFault level text fields f : Program S σ Unit).run serve s = (.ok (), s')
      ∧ adds [] s s' := by
  obtain ⟨report, hreport⟩ := hf
  rw [Journal.writeFault, hreport]
  exact h.writes level text _ s

section

variable (hpublish : (P.publish message).run serve s = (.error f, s₁)) (hf : f.Sayable)

include hpublish hf

/-- An attempt that is not the last fails, and after a pause the next one follows. -/
theorem run_tryFrom_more {attempt : Nat} (hattempt : attempt < n) (left : Nat) :
    ∃ s₂, (P.tryFrom origin message (left + 1) attempt).run serve s
        = (P.tryFrom origin message left (attempt + 1)).run serve s₂
      ∧ adds (N.paused (Number.ofNat (attempt * attempt) * 100)) s₁ s₂ := by
  obtain ⟨error, herror, hsayable⟩ := hf.toError
  have hmore : (Number.finite attempt).lt P.maxAttempts = true := by
    refine lt_of_lt_attemptsWithin ?_
    rwa [h.limit, attemptsWithin_natCast]
  rw [tryFrom, Program.run_rescue_of_error hpublish]
  simp only [Program.run_bind, Program.run_ofExcept, herror, if_pos hmore]
  obtain ⟨s', hwrite, hadds⟩ := h.writesFault hsayable .warn _ _ s₁
  obtain ⟨s₂, hpause, hadds'⟩ := h.pauses (Number.ofNat (attempt * attempt) * 100) s'
  refine ⟨s₂, ?_, h.trans hadds hadds'⟩
  rw [hwrite]
  simp only [pauseMs, hpause]

/-- The last attempt fails, and the message is parked. -/
theorem run_tryFrom_last :
    ∃ s₂ letter, (P.tryFrom origin message 1 n).run serve s = (.ok (), s₂)
      ∧ adds [N.parked letter] s₁ s₂ ∧ letter.message = message ∧ f.toError = .ok letter.error
      ∧ (f.isError = true → letter.error = f) ∧ letter.attempts = n := by
  obtain ⟨error, herror, hsayable⟩ := hf.toError
  have hlast : ¬ (Number.finite n).lt P.maxAttempts = true := by
    rw [h.limit, Number.lt_eq rfl rfl]
    exact fun hlt => lt_irrefl _ (of_decide_eq_true hlt)
  rw [tryFrom, Program.run_rescue_of_error hpublish]
  simp only [Program.run_bind, Program.run_ofExcept, herror, if_neg hlast, Program.run_read,
    Program.run_modify]
  obtain ⟨s₂, hwrite, hadds⟩ := h.writesFault hsayable .error _ _ _
  refine ⟨s₂, ⟨message, error, n, P.journal.now s₁⟩, ?_, h.trans (h.parks _ s₁) hadds, rfl, rfl,
    fun herr => Except.ok.inj (herror.symm.trans (Fault.toError_of_isError herr)), rfl⟩
  rw [hwrite]
  rfl

end

/-- After some attempts have failed, the others settle the message. -/
theorem run_tryFrom (faults : List Fault) (left : Nat) (hleft : faults.length + 1 + left = n) (s : σ) :
    ∃ s' block, (P.tryFrom origin message (left + 1) (faults.length + 1)).run serve s = (.ok (), s')
      ∧ adds block s s' ∧ N.Settled n message (N.failed message faults ++ block) := by
  induction left generalizing faults s with
  | zero =>
    obtain ⟨fault?, s₁, hpublish, hadds, hsayable⟩ := h.publishes message s
    cases fault? with
    | none => exact ⟨s₁, _, Program.run_rescue_of_ok hpublish _, hadds, .published faults (by omega)⟩
    | some f =>
      obtain rfl : faults.length + 1 = n := hleft
      obtain ⟨s₂, letter, hrun, hparks, hmessage, herror, hself, hattempts⟩ :=
        h.run_tryFrom_last origin hpublish (hsayable f rfl)
      exact ⟨s₂, _, hrun, h.trans hadds hparks, .parked faults rfl hmessage herror hself hattempts⟩
  | succ left ih =>
    obtain ⟨fault?, s₁, hpublish, hadds, hsayable⟩ := h.publishes message s
    cases fault? with
    | none =>
      exact ⟨s₁, _, Program.run_rescue_of_ok hpublish _, hadds, .published faults (by omega)⟩
    | some f =>
      have hlength : (faults ++ [f]).length = faults.length + 1 := List.length_append
      obtain ⟨s₂, hmore, hpauses⟩ := h.run_tryFrom_more origin hpublish (hsayable f rfl)
        (by omega : faults.length + 1 < n) (left + 1)
      obtain ⟨s', block, hrest, hblock, hsettled⟩ := ih (faults ++ [f]) (by omega) s₂
      rw [hlength] at hrest
      rw [failed_snoc, List.append_assoc] at hsettled
      exact ⟨s', _, hmore.trans hrest, h.trans (h.trans hadds hpauses) hblock, hsettled⟩

/-- The messages of a batch are settled one after another. -/
theorem run_flush (hn : 1 ≤ n) (messages : List Message) (s : σ) :
    ∃ s' block, (P.flush origin messages).run serve s = (.ok (), s')
      ∧ adds block s s' ∧ N.AllSettled n messages block := by
  induction messages generalizing s with
  | nil => exact ⟨s, [], rfl, h.nil s, .nil⟩
  | cons message rest ih =>
    obtain ⟨left, rfl⟩ := Nat.exists_eq_add_of_le' hn
    obtain ⟨s₁, hwrite, hadds⟩ := h.writes .debug _ _ s
    obtain ⟨s₂, block, hfirst, hblock, hsettled⟩ :=
      h.run_tryFrom origin [] left (Nat.add_comm 1 left) s₁
    obtain ⟨s₃, more, hrest, hmore, hall⟩ := ih s₂
    refine ⟨s₃, _, ?_, h.trans (h.trans hadds hblock) hmore, .cons hsettled hall⟩
    have hpark : (P.publishOrPark origin message).run serve s₁ = (.ok (), s₂) := by
      rw [publishOrPark, h.limit, attemptsWithin_natCast]
      exact hfirst
    exact (Program.run_bind_of_ok hwrite _).trans ((Program.run_bind_of_ok hpark _).trans hrest)

end Tell

end Notes

end UnitOfWork.Publisher
