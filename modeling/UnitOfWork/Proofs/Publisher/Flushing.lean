import Mathlib.Data.Fin.VecNotation
import UnitOfWork.Proofs.Publisher.Fates

/-!
# Flushes side by side

Any number of flushes share one publisher, with questions for the dead letters and calls that throw
them away, in any order of turns and whatever the bus does. `Surroundings.play_orderly` says that
with a positive limit each flush takes its messages one after another, that it never fails, that
each message ends in one publication or in one dead letter, and that whoever asks is told the dead
letters that were made since they were last thrown away. A flush ends after a number of turns that
its messages and the limit bound.
-/

namespace UnitOfWork.Posting

variable {ι : Type}

/-! ## How long a call takes -/

/-- How many turns a call has at most from a stage on, if no message gets more than `most`
attempts. -/
def Stage.turnsLeft (most : Nat) : Stage → Nat
  | .fresh (.flush _ entries) => 1 + entries.length * (2 * most)
  | .fresh _ => 1
  | .trying _ _ rest left _ => 2 * left + 2 + rest.length * (2 * most)
  | .resting _ _ rest left _ => 2 * left + 1 + rest.length * (2 * most)
  | .ended _ => 0

section

variable {w : Surroundings ι} {most : Nat} (hmost : Publisher.attemptsWithin w.maxAttempts = most)

include hmost

/-- A batch takes two turns for each attempt at most. -/
theorem turnsLeft_stageAt (origin : Json.Members) (rest : List Message) :
    (w.stageAt origin rest).turnsLeft most ≤ rest.length * (2 * most) := by
  induction rest with
  | nil => exact Nat.zero_le _
  | cons message rest ih =>
    rw [Surroundings.stageAt, List.length_cons, Nat.succ_mul, hmost]
    cases most with
    | zero => exact ih
    | succ left =>
      simp only [Stage.turnsLeft]
      omega

/-- What is left of a batch after some attempts takes two turns for each attempt at most. -/
theorem turnsLeft_stageOnward (origin : Json.Members) (message : Message) (rest : List Message)
    (left attempt : Nat) :
    (w.stageOnward origin message rest left attempt).turnsLeft most
      ≤ 2 * left + rest.length * (2 * most) := by
  cases left with
  | zero =>
    rw [Nat.mul_zero, Nat.zero_add]
    exact turnsLeft_stageAt hmost origin rest
  | succ left =>
    simp only [Surroundings.stageOnward, Stage.turnsLeft]
    omega

/-- With every turn a call comes nearer to its end. -/
theorem Goes.turnsLeft {i : ι} {d d' : Desk ι} {stage stage' : Stage}
    (hgoes : Goes w i d stage d' stage') : stage'.turnsLeft most ≤ stage.turnsLeft most - 1 := by
  cases hgoes with
  | flushes origin entries log =>
    refine (turnsLeft_stageAt hmost origin entries).trans ?_
    simp only [Stage.turnsLeft]
    omega
  | tells | clears | stays => exact Nat.zero_le _
  | @publishes origin _ rest _ _ log hf =>
    refine (turnsLeft_stageAt hmost origin rest).trans ?_
    simp only [Stage.turnsLeft]
    omega
  | rests log hf hmore =>
    simp only [Stage.turnsLeft]
    omega
  | @parks origin message rest left attempt _ _ log hf hlast hletter =>
    refine (turnsLeft_stageOnward hmost origin message rest left (attempt + 1)).trans ?_
    simp only [Stage.turnsLeft]
    omega
  | @resumes origin message rest left attempt log =>
    refine (turnsLeft_stageOnward hmost origin message rest left (attempt + 1)).trans ?_
    simp only [Stage.turnsLeft]
    omega

end

/-! ## Calls under way -/

section

variable [DecidableEq ι]

/-- Calls under way on a publisher, each at a stage. -/
structure Conducted (w : Surroundings ι) (calls : ι → Call) (stages : ι → Stage) (x : Traffic ι) :
    Prop where
  programs : ∀ i, x.programs i = w.atStage i (stages i)
  deadLetters_eq : x.state.deadLetters = records x.state.history
  recorded : ∀ i, Recorded w.maxAttempts i x.state.history (calls i) (stages i)
  /-- What attempts come to is what the bus answers. -/
  answered : ∀ i message f, .attempted i message f ∈ x.state.history →
    ∃ before, f = w.fault? before message

variable {w : Surroundings ι} {calls : ι → Call} {stages : ι → Stage} {x : Traffic ι}

/-- Calls that have not started are conducted. -/
theorem conducted_opening (w : Surroundings ι) (calls : ι → Call) :
    Conducted w calls (fun i => .fresh (calls i)) (w.opening calls) :=
  ⟨fun _ => rfl, rfl, fun i => .fresh (calls i) List.not_mem_nil rfl,
    fun _ _ _ hattempted => absurd hattempted List.not_mem_nil⟩

/-- A call has its turn. -/
theorem Conducted.turn (h : Conducted w calls stages x) (i : ι) :
    ∃ d stage, Goes w i (x.state.note (.turned i)) (stages i) d stage
      ∧ Conducted w calls (Function.update stages i stage) (w.turn x i) := by
  obtain ⟨d, stage, hturn, hgoes⟩ := w.turn_atStage (x.state.note (.turned i)) (stages i)
  have hstep : w.turn x i = ⟨d, Function.update x.programs i (w.atStage i stage)⟩ := by
    rw [Surroundings.turn, Crowd.turn, h.programs i, hturn]
  obtain ⟨block, hadds⟩ := hgoes.adds
  have hhistory : d.history = x.state.history ++ (.turned i :: block) := by
    rw [hadds.history_eq]
    exact List.append_assoc _ [_] block
  have hnoted : x.state.deadLetters = records (x.state.history ++ [.turned i]) := by
    rw [records_snoc, h.deadLetters_eq]
    exact (List.append_nil _).symm
  refine ⟨d, stage, hgoes, ?_⟩
  rw [hstep]
  refine ⟨fun j => ?_, hadds.deadLetters_eq hnoted, fun j => ?_, fun j message f hmem => ?_⟩
  · show Function.update x.programs i (w.atStage i stage) j
      = w.atStage j (Function.update stages i stage j)
    by_cases hj : j = i
    · subst hj
      rw [Function.update_self, Function.update_self]
    · rw [Function.update_of_ne hj, Function.update_of_ne hj]
      exact h.programs j
  · show Recorded w.maxAttempts j d.history (calls j) _
    by_cases hj : j = i
    · subst hj
      rw [Function.update_self]
      exact hgoes.recorded rfl h.deadLetters_eq (h.recorded j)
    · rw [Function.update_of_ne hj, hhistory]
      refine (h.recorded j).append ?_ fun _ => ?_
      · show own j ([.turned i] ++ block) = []
        rw [own_append, hadds.own_eq j hj]
        rfl
      · simp [hj, hadds.not_turned j]
  · rw [hhistory] at hmem
    rcases List.mem_append.1 hmem with hmem | hmem
    · exact h.answered j message f hmem
    · rcases List.mem_cons.1 hmem with heq | hmem
      · cases heq
      · exact ⟨_, hadds.answered j message f hmem⟩

/-- Whatever turns calls have, they stay under way, and each comes nearer to its end. -/
theorem Conducted.play (h : Conducted w calls stages x) (schedule : List ι) :
    ∃ stages', Conducted w calls stages' (w.play x schedule)
      ∧ ∀ i, (stages' i).turnsLeft (Publisher.attemptsWithin w.maxAttempts)
        ≤ (stages i).turnsLeft (Publisher.attemptsWithin w.maxAttempts) - schedule.count i := by
  induction schedule generalizing x stages with
  | nil => exact ⟨stages, h, fun i => Nat.le_refl _⟩
  | cons i schedule ih =>
    obtain ⟨d, stage, hgoes, hturned⟩ := h.turn i
    obtain ⟨stages', hplayed, hleft⟩ := ih hturned
    refine ⟨stages', hplayed, fun j => (hleft j).trans ?_⟩
    by_cases hj : j = i
    · subst hj
      have hless := hgoes.turnsLeft rfl
      rw [Function.update_self, List.count_cons_self]
      omega
    · rw [Function.update_of_ne hj, List.count_cons_of_ne (Ne.symm hj)]

/-- A call that had all its turns has ended. -/
theorem Conducted.ended_of_turnsLeft {most : Nat} (h : Conducted w calls stages x) {i : ι}
    (hleft : (stages i).turnsLeft most = 0) : ∃ outcome, x.programs i = .done outcome := by
  cases hstage : stages i with
  | ended outcome =>
    refine ⟨outcome, ?_⟩
    rw [h.programs i, hstage]
    rfl
  | fresh call => cases call <;> rw [hstage] at hleft <;> simp [Stage.turnsLeft] at hleft
  | trying => rw [hstage] at hleft; simp [Stage.turnsLeft] at hleft
  | resting => rw [hstage] at hleft; simp [Stage.turnsLeft] at hleft

/-! ## Good order -/

/-- What a flush has done for the next of its messages, which is not settled. -/
inductive Underway (i : ι) : List Message → List (Event ι) → Prop where
  | over : Underway i [] []
  | trying (message : Message) (rest : List Message) (faults : List Fault) :
      Underway i (message :: rest) (failures i message faults)
  | resting (message : Message) (rest : List Message) (faults : List Fault) (f : Fault) :
      Underway i (message :: rest) (failures i message faults ++ [.attempted i message (some f)])

/-- The work of a flush is a block for each message that is settled, in the order of its messages,
and then what it has done for the next one. -/
def InOrder (limit : Number) (i : ι) (entries : List Message) (work : List (Event ι)) : Prop :=
  ∃ settled rest blocks current, entries = settled ++ rest
    ∧ List.Forall₂ (Fate limit i) settled blocks ∧ Underway i rest current
    ∧ work = blocks.flatten ++ current

/-- The record of a flush that has ended is in the order of its entries. -/
theorem Recorded.inOrder {limit : Number} {i : ι} {history : List (Event ι)} {origin : Json.Members}
    {entries : List Message} {stage : Stage}
    (h : Recorded limit i history (.flush origin entries) stage) :
    InOrder limit i entries (own i history) := by
  cases h with
  | fresh _ hnew hown =>
    refine ⟨[], entries, [], [], rfl, .nil, ?_, hown⟩
    cases entries with
    | nil => exact .over
    | cons message rest => exact .trying message rest []
  | trying hsettled hown hleft => exact ⟨_, _, _, _, rfl, hsettled, .trying _ _ _, hown⟩
  | resting hsettled hown hleft hmore => exact ⟨_, _, _, _, rfl, hsettled, .resting _ _ _ _, hown⟩
  | flushed hsettled hown =>
    exact ⟨entries, [], _, [], (List.append_nil _).symm, hsettled, .over,
      hown.trans (List.append_nil _).symm⟩

/-- Calls on a publisher with a limit, in good order. -/
structure Orderly (limit : Number) (calls : ι → Call) (x : Traffic ι) : Prop where
  /-- A flush takes its messages one after another. -/
  in_order : ∀ i origin entries, calls i = .flush origin entries →
    InOrder limit i entries (own i x.state.history)
  /-- A flush that has ended did not fail, and settled each of its messages once. -/
  settled : ∀ i origin entries outcome, calls i = .flush origin entries →
    x.programs i = .done outcome → outcome = .ok .nothing
      ∧ ∃ blocks, own i x.state.history = blocks.flatten
        ∧ List.Forall₂ (fun message block =>
            Fate limit i message block ∧ block.countP Event.settles = 1) entries blocks
  deadLetters_eq : x.state.deadLetters = records x.state.history
  /-- Who asked for the dead letters was told the records that there were at its turn. -/
  told : ∀ i outcome, calls i = .letters → x.programs i = .done outcome →
    ∃ before after, x.state.history = before ++ .turned i :: after ∧ .turned i ∉ before
      ∧ outcome = .ok (.letters (records before))
  /-- Who threw the dead letters away did so at its turn. -/
  cleared : ∀ i outcome, calls i = .clear → x.programs i = .done outcome →
    ∃ before after, x.state.history = before ++ .turned i :: .cleared i :: after
      ∧ .turned i ∉ before ∧ outcome = .ok .nothing

/-- The record of a call of which nothing is left is that of one that has ended. -/
theorem Conducted.recorded_ended (h : Conducted w calls stages x) {i : ι} {outcome : Except Fault Reply}
    (hdone : x.programs i = .done outcome) :
    Recorded w.maxAttempts i x.state.history (calls i) (.ended outcome) := by
  have hrecorded := h.recorded i
  rcases w.stage_of_done ((h.programs i).symm.trans hdone) with hstage | ⟨origin, hstage, rfl⟩
  · rwa [hstage] at hrecorded
  · rw [hstage] at hrecorded
    generalize calls i = call at hrecorded ⊢
    cases hrecorded with
    | fresh _ hnew hown => exact .flushed .nil hown

/-- What has been conducted to the end was done in order. -/
theorem Conducted.orderly {m : Nat} (hm : 1 ≤ m) (hlimit : w.maxAttempts = .finite m)
    (h : Conducted w calls stages x) : Orderly (.finite m) calls x where
  in_order i origin entries hcall := by
    have hrecorded := h.recorded i
    rw [hcall, hlimit] at hrecorded
    exact hrecorded.inOrder
  settled i origin entries outcome hcall hdone := by
    have hended := h.recorded_ended hdone
    rw [hcall, hlimit] at hended
    obtain ⟨houtcome, blocks, hown, hsettled⟩ := hended.exists_blocks
    exact ⟨houtcome, blocks, hown, hsettled.imp fun _ _ hfate => ⟨hfate, hfate.settles_once hm⟩⟩
  deadLetters_eq := h.deadLetters_eq
  told i outcome hcall hdone := by
    have hended := h.recorded_ended hdone
    rw [hcall] at hended
    cases hended with
    | told hhistory hfirst => exact ⟨_, _, hhistory, hfirst, rfl⟩
  cleared i outcome hcall hdone := by
    have hended := h.recorded_ended hdone
    rw [hcall] at hended
    cases hended with
    | cleared hhistory hfirst => exact ⟨_, _, hhistory, hfirst, rfl⟩

/-- A flush that had enough turns has ended. -/
theorem Surroundings.exists_done (w : Surroundings ι) (calls : ι → Call) (schedule : List ι) {i : ι}
    {origin : Json.Members} {entries : List Message} (hcall : calls i = .flush origin entries)
    (hturns : 1 + entries.length * (2 * Publisher.attemptsWithin w.maxAttempts) ≤ schedule.count i) :
    ∃ outcome, (w.play (w.opening calls) schedule).programs i = .done outcome := by
  obtain ⟨stages, hconducted, hleft⟩ := (conducted_opening w calls).play schedule
  refine hconducted.ended_of_turnsLeft (Nat.le_zero.1 ((hleft i).trans ?_))
  rw [hcall, Stage.turnsLeft]
  exact (Nat.sub_eq_zero_of_le hturns).le

/-- Whatever the bus does and in whatever order calls on a publisher with a positive limit have
their turns, they are in good order, and a flush that had enough turns has ended. -/
theorem Surroundings.play_orderly (w : Surroundings ι) {m : Nat} (hm : 1 ≤ m)
    (hlimit : w.maxAttempts = .finite m) (calls : ι → Call) (schedule : List ι) :
    Orderly (.finite m) calls (w.play (w.opening calls) schedule)
      ∧ ∀ i origin entries, calls i = .flush origin entries →
        1 + entries.length * (2 * m) ≤ schedule.count i →
        ∃ outcome, (w.play (w.opening calls) schedule).programs i = .done outcome := by
  obtain ⟨stages, hconducted, -⟩ := (conducted_opening w calls).play schedule
  refine ⟨hconducted.orderly hm hlimit, fun i origin entries hcall hturns => ?_⟩
  refine w.exists_done calls schedule hcall ?_
  rwa [hlimit, Publisher.attemptsWithin_natCast]

end

/-- Two flushes take turns with a question for the dead letters and a call that throws them away, on
a bus that takes no greetings. The greeting of the first flush is parked before the question and
thrown away after it, that of the second is parked later. -/
theorem Surroundings.play_orderly_twoFlushes :
    let hello : Message := ⟨"chat", "hello"⟩
    let bye : Message := ⟨"chat", "bye"⟩
    let w : Surroundings (Fin 4) := .refusing (· = hello) (.finite 2)
    let calls : Fin 4 → Call := ![.flush [] [hello, bye], .flush [] [bye, hello], .letters, .clear]
    let x := w.play (w.opening calls)
      [0, 1, 0, 0, 1, 0, 1, 2, 1, 3, 0, 1, 0, 0, 0, 0, 1, 1, 1, 1]
    (x.state.deadLetters.map fun letter => (letter.message, letter.attempts)) = [(hello, 2)]
      ∧ (∃ outcome, x.programs 0 = .done outcome) ∧ (∃ outcome, x.programs 1 = .done outcome)
      ∧ Orderly (.finite 2) calls x := by
  intro hello bye w calls x
  obtain ⟨horderly, hended⟩ := w.play_orderly (m := 2) (by decide) rfl calls
    [0, 1, 0, 0, 1, 0, 1, 2, 1, 3, 0, 1, 0, 0, 0, 0, 1, 1, 1, 1]
  exact ⟨by decide +kernel, hended 0 _ _ rfl (by decide), hended 1 _ _ rfl (by decide), horderly⟩

end UnitOfWork.Posting
