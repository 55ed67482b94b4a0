import UnitOfWork.Proofs.Publisher.Flushing

/-!
# Limits that lose nothing

A publisher takes any number for its limit. `accountable_iff` says which limits lose no message: the
positive integers, and infinity, with which a message is tried until it is published. With any other
limit the attempts end without one that is known to be the last, and a message that the bus keeps
refusing is neither published nor parked.
-/

namespace UnitOfWork

namespace Publisher

/-- An attempt that is the last one tells that the limit is its number. -/
theorem eq_natCast_of_last {limit : Number} {k : Nat} (h : k < attemptsWithin limit)
    (hlast : (Number.finite (k + 1 : Nat)).lt limit = false) : limit = .finite (k + 1 : Nat) := by
  cases limit with
  | nan => exact absurd h (Nat.not_lt_zero k)
  | infinite negative =>
    cases negative with
    | false => cases hlast
    | true => exact absurd h (Nat.not_lt_zero k)
  | negativeZero => exact absurd h (Nat.not_lt_zero k)
  | finite q =>
    have hfloor : ((k + 1 : Nat) : Int) ≤ q.floor := by
      have hk : k < q.floor.toNat := h
      omega
    have hle : (((k + 1 : Nat) : Int) : Rat) ≤ q := Rat.le_floor_iff.1 hfloor
    rw [Number.lt_eq rfl rfl, decide_eq_false_iff_not, Number.value_finite, Number.value_finite,
      not_lt] at hlast
    rw [Int.cast_natCast] at hle
    exact congrArg Number.finite (le_antisymm hlast hle)

end Publisher

namespace Posting

variable {ι : Type}

/-- The work of a flush about a message accounts for it: it was published, or there is a record of
it among the dead letters, unless these were thrown away since. Without a limit it may also have
been tried more often than any run tries. -/
def Accounts (limit : Number) (i : ι) (x : Traffic ι) (message : Message) (block : List (Event ι)) :
    Prop :=
  .attempted i message none ∈ block
    ∨ (∃ letter, .parked i letter ∈ block ∧ letter.message = message
      ∧ (letter ∈ x.state.deadLetters ∨ ∃ j, .cleared j ∈ x.state.history))
    ∨ limit = .infinite false ∧ ∃ faults, faults.length = Number.unbounded
      ∧ block = failures i message faults

/-- With a limit no message is lost: whatever the bus does, a flush that has ended accounts for each
of its messages. -/
def Accountable (limit : Number) : Prop :=
  ∀ (ι : Type) [DecidableEq ι] (w : Surroundings ι), w.maxAttempts = limit →
    ∀ (calls : ι → Call) (schedule : List ι) (i : ι) (origin : Json.Members) (entries : List Message)
      (outcome : Except Fault Reply), calls i = .flush origin entries →
      let x := w.play (w.opening calls) schedule
      x.programs i = .done outcome →
        ∃ blocks, own i x.state.history = blocks.flatten
          ∧ List.Forall₂ (Accounts limit i x) entries blocks

/-- A record is there until the records are thrown away. -/
theorem mem_records {history : List (Event ι)} {i : ι} {letter : DeadLetter}
    (h : .parked i letter ∈ history) : letter ∈ records history ∨ ∃ j, .cleared j ∈ history := by
  induction history using List.reverseRecOn with
  | nil => cases h
  | append_singleton history e ih =>
    rw [records_snoc]
    cases hclears : e.clears with
    | true =>
      cases e with
      | cleared j => exact .inr ⟨j, List.mem_append_right _ (List.mem_singleton_self _)⟩
      | _ => cases hclears
    | false =>
      rcases List.mem_append.1 h with h | h
      · rcases ih h with hrecord | ⟨j, hj⟩
        · exact .inl (List.mem_append_left _ hrecord)
        · exact .inr ⟨j, List.mem_append_left _ hj⟩
      · rw [← List.mem_singleton.1 h]
        exact .inl (List.mem_append_right _ (List.mem_singleton_self _))

variable {limit : Number} {i : ι} {x : Traffic ι} {message : Message} {block : List (Event ι)}

/-- With a positive limit, and without a limit, every message is accounted for. -/
theorem Fate.accounts (h : Fate limit i message block)
    (hlimit : limit = .infinite false ∨ ∃ m : Nat, 1 ≤ m ∧ limit = .finite m)
    (hletters : x.state.deadLetters = records x.state.history)
    (hblock : ∀ e ∈ block, e ∈ x.state.history) : Accounts limit i x message block := by
  cases h with
  | published faults h => exact .inl (List.mem_append_right _ (List.mem_singleton_self _))
  | @parked faults f letter hlast h hletter =>
    have hparked : .parked i letter
        ∈ failures i message faults ++ [.attempted i message (some f), .parked i letter] :=
      List.mem_append_right _ (List.mem_pair.2 (.inr rfl))
    refine .inr (.inl ⟨letter, hparked, hletter.message_eq, ?_⟩)
    rw [hletters]
    exact mem_records (hblock _ hparked)
  | lost faults hlength h =>
    rcases hlimit with rfl | ⟨m, hm, rfl⟩
    · exact .inr (.inr ⟨rfl, faults, hlength, rfl⟩)
    · exact (lost_elim hm hlength h).elim

/-- With any other limit, a message that the bus keeps refusing is not accounted for. -/
theorem Fate.not_accounts (h : Fate limit i message block)
    (hlimit : ¬ (limit = .infinite false ∨ ∃ m : Nat, 1 ≤ m ∧ limit = .finite m))
    (hrefused : .attempted i message none ∉ block) : ¬ Accounts limit i x message block := by
  have hpositive : ∀ m : Nat, 1 ≤ m → limit ≠ .finite m := fun m hm heq =>
    hlimit (.inr ⟨m, hm, heq⟩)
  cases h with
  | published faults h => exact absurd (List.mem_append_right _ (List.mem_singleton_self _)) hrefused
  | parked faults hlast h hletter =>
    exact absurd (Publisher.eq_natCast_of_last h hlast) (hpositive _ (Nat.succ_pos _))
  | lost faults hlength h =>
    rintro (hpublished | ⟨letter, hparked, -⟩ | ⟨hinfinite, -⟩)
    · exact hrefused hpublished
    · exact absurd rfl (List.countP_eq_zero.1 (countP_settles_failures i message faults) _ hparked)
    · exact hlimit (.inl hinfinite)

/-- A flush of one message on a bus that refuses everything comes to an end. -/
theorem exists_refused (limit : Number) (message : Message) :
    let w : Surroundings Unit := .refusing (fun _ => true) limit
    let calls : Unit → Call := fun _ => .flush [] [message]
    ∃ schedule outcome, (w.play (w.opening calls) schedule).programs () = .done outcome
      ∧ ∃ block, own () (w.play (w.opening calls) schedule).state.history = block
        ∧ Fate limit () message block ∧ .attempted () message none ∉ block := by
  intro w calls
  let schedule := List.replicate (1 + 1 * (2 * Publisher.attemptsWithin limit)) ()
  obtain ⟨outcome, hdone⟩ := w.exists_done calls schedule rfl List.count_replicate_self.ge
  obtain ⟨stages, hconducted, -⟩ := (conducted_opening w calls).play schedule
  refine ⟨schedule, outcome, hdone, _, rfl, ?_, fun hpublished => ?_⟩
  · obtain ⟨-, blocks, hown, hsettled⟩ := (hconducted.recorded_ended hdone).exists_blocks
    cases hsettled with
    | cons hfate hrest =>
      cases hrest
      rw [hown, List.flatten_singleton]
      exact hfate
  · obtain ⟨before, hanswer⟩ := hconducted.answered _ _ _ (List.mem_of_mem_filter hpublished)
    cases hanswer

/-- With any other limit than a positive integer or infinity messages may be lost. -/
theorem not_accountable (hlimit : ¬ (limit = .infinite false ∨ ∃ m : Nat, 1 ≤ m ∧ limit = .finite m)) :
    ¬ Accountable limit := by
  intro haccountable
  obtain ⟨schedule, outcome, hdone, block, hblock, hfate, hrefused⟩ := exists_refused limit ⟨[], []⟩
  obtain ⟨blocks, hblocks, haccounts⟩ :=
    haccountable Unit (.refusing (fun _ => true) limit) rfl _ schedule () [] _ outcome rfl hdone
  cases haccounts with
  | cons haccount hrest =>
    cases hrest
    rw [hblock, List.flatten_singleton] at hblocks
    exact hfate.not_accounts hlimit hrefused (hblocks ▸ haccount)

/-- No message is lost exactly with a positive integer for the limit, or without a limit. -/
theorem accountable_iff (limit : Number) :
    Accountable limit ↔ limit = .infinite false ∨ ∃ m : Nat, 1 ≤ m ∧ limit = .finite m := by
  constructor
  · intro haccountable
    by_contra hlimit
    exact not_accountable hlimit haccountable
  · rintro hlimit ι _ w rfl calls schedule i origin entries outcome hcall x hdone
    obtain ⟨stages, hconducted, -⟩ := (conducted_opening w calls).play schedule
    obtain ⟨-, blocks, hown, hsettled⟩ := (hcall ▸ hconducted.recorded_ended hdone).exists_blocks
    have hhistory : ∀ block ∈ blocks, ∀ e ∈ block, e ∈ x.state.history := fun block hblock e he =>
      List.mem_of_mem_filter (hown ▸ List.mem_flatten_of_mem hblock he)
    have hblocks := (List.forall₂_and_left blocks entries).2 ⟨hhistory, hsettled.flip⟩
    refine ⟨blocks, hown, hblocks.flip.imp fun message block h => ?_⟩
    exact h.2.accounts hlimit hconducted.deadLetters_eq h.1

/-- With a limit of two and a half the second attempt is the last one, but a third is expected: the
flush has ended, and the message that the bus refused twice is not among the dead letters. -/
theorem lost_beyond_half :
    let w : Surroundings Unit := .refusing (fun _ => true) (.finite (5 / 2))
    let x := w.play (w.opening fun _ => .flush [] [⟨"chat", "hello"⟩]) [(), (), (), (), ()]
    (∃ outcome, x.programs () = .done outcome) ∧ x.state.deadLetters.length = 0
      ∧ (own () x.state.history).length = 4 ∧ (own () x.state.history).countP Event.settles = 0
      ∧ ¬ Accountable (.finite (5 / 2)) := by
  intro w x
  refine ⟨w.exists_done _ _ rfl (by decide +kernel), by decide +kernel, by decide +kernel,
    by decide +kernel, not_accountable ?_⟩
  rintro (h | ⟨m, -, h⟩)
  · cases h
  · have hden := congrArg Rat.den (Number.finite.inj h)
    rw [Rat.den_natCast] at hden
    exact absurd hden (by decide +kernel)

end Posting

end UnitOfWork
