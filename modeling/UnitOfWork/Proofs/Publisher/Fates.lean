import UnitOfWork.Proofs.Number.Moment
import UnitOfWork.Proofs.Publisher.Turns

/-!
# What becomes of messages

A flush takes its messages one after another. `Fate` is what may become of one of them, as the block
of events that the flush has about it: failed attempts, each with the pause after it, and then the
message is published, or it is parked, or it is lost because the attempts are used up although the
last one was not known to be the last. `Recorded` says that the work of a call so far is made of
such blocks, stage by stage; every turn keeps it (`Goes.recorded`).
-/

namespace UnitOfWork

namespace Publisher

/-- An attempt after which there may be another is below the limit. -/
theorem lt_of_lt_attemptsWithin {limit : Number} {k : Nat} (h : k < attemptsWithin limit) :
    (Number.finite k).lt limit = true := by
  cases limit with
  | nan => exact absurd h (Nat.not_lt_zero k)
  | infinite negative =>
    cases negative with
    | false => rfl
    | true => exact absurd h (Nat.not_lt_zero k)
  | negativeZero => exact absurd h (Nat.not_lt_zero k)
  | finite q =>
    have hk : (k : Int) < q.floor := by
      have hfloor : k < q.floor.toNat := h
      omega
    rw [Number.lt_eq rfl rfl, decide_eq_true_eq, Number.value_finite, Number.value_finite]
    have hle : ((k + 1 : Int) : Rat) ≤ q := Rat.le_floor_iff.1 hk
    push_cast at hle
    linarith

/-- After an attempt that is known to be the last none is left. -/
theorem left_eq_zero {limit : Number} {tried left : Nat}
    (hlast : (Number.finite tried).lt limit = false) (hleft : tried + left = attemptsWithin limit) :
    left = 0 := by
  by_contra hne
  have hmore := lt_of_lt_attemptsWithin (show tried < attemptsWithin limit by omega)
  rw [hlast] at hmore
  cases hmore

/-- A natural number admits as many attempts. -/
@[simp] theorem attemptsWithin_natCast (m : Nat) : attemptsWithin (.finite m) = m := by
  show (Rat.floor m).toNat = m
  rw [← Int.cast_natCast, Rat.floor_intCast, Int.toNat_natCast]

end Publisher

namespace Posting

variable {ι : Type}

/-! ## Blocks -/

/-- Failed attempts to publish a message, each with the pause after it. -/
def failures (i : ι) (message : Message) (faults : List Fault) : List (Event ι) :=
  (faults.zipIdx 1).flatMap fun (f, attempt) =>
    [.attempted i message (some f), .paused i (Publisher.pauseMs attempt)]

/-- One more failure is an attempt and the pause after it. -/
theorem failures_snoc (i : ι) (message : Message) (faults : List Fault) (f : Fault) :
    failures i message (faults ++ [f]) = failures i message faults
      ++ [.attempted i message (some f), .paused i (Publisher.pauseMs (faults.length + 1))] := by
  rw [failures, List.zipIdx_append, List.flatMap_append, Nat.add_comm]
  rfl

/-- What may become of a message, as the block of events about it. -/
inductive Fate (limit : Number) (i : ι) (message : Message) : List (Event ι) → Prop where
  /-- An attempt succeeds. -/
  | published (faults : List Fault) (h : faults.length < Publisher.attemptsWithin limit) :
      Fate limit i message (failures i message faults ++ [.attempted i message none])
  /-- The last attempt fails, and the message is added to the dead letters. -/
  | parked (faults : List Fault) {f : Fault} {letter : DeadLetter}
      (hlast : (Number.finite (faults.length + 1 : Nat)).lt limit = false)
      (h : faults.length < Publisher.attemptsWithin limit)
      (hletter : Reports message (faults.length + 1) f letter) :
      Fate limit i message
        (failures i message faults ++ [.attempted i message (some f), .parked i letter])
  /-- After the last attempt another one was expected. -/
  | lost (faults : List Fault) (hlength : faults.length = Publisher.attemptsWithin limit)
      (h : faults ≠ [] → (Number.finite faults.length).lt limit = true) :
      Fate limit i message (failures i message faults)

/-- Failed attempts settle nothing. -/
theorem countP_settles_failures (i : ι) (message : Message) (faults : List Fault) :
    (failures i message faults).countP Event.settles = 0 := by
  refine List.countP_eq_zero.2 fun e he => ?_
  obtain ⟨⟨f, attempt⟩, -, hmem⟩ := List.mem_flatMap.1 he
  rcases List.mem_pair.1 hmem with rfl | rfl <;> exact Bool.false_ne_true

/-- With a positive limit the last attempt is known to be the last. -/
theorem lost_elim {m : Nat} (hm : 1 ≤ m) {faults : List Fault}
    (hlength : faults.length = Publisher.attemptsWithin (.finite m))
    (h : faults ≠ [] → (Number.finite faults.length).lt (.finite m) = true) : False := by
  rw [Publisher.attemptsWithin_natCast] at hlength
  have hmore := h (List.ne_nil_of_length_pos (by omega))
  rw [hlength, Number.lt_eq rfl rfl, decide_eq_true_eq] at hmore
  exact lt_irrefl _ hmore

/-- With a positive limit a message ends in one publication or in one dead letter. -/
theorem Fate.settles_once {m : Nat} (hm : 1 ≤ m) {i : ι} {message : Message} {block : List (Event ι)}
    (h : Fate (.finite m) i message block) : block.countP Event.settles = 1 := by
  cases h with
  | published faults h =>
    rw [List.countP_append, countP_settles_failures]
    rfl
  | parked faults hlast h hletter =>
    rw [List.countP_append, countP_settles_failures]
    rfl
  | lost faults hlength h => exact (lost_elim hm hlength h).elim

/-- The work of a call at a stage. -/
inductive Recorded [DecidableEq ι] (limit : Number) (i : ι) (history : List (Event ι)) :
    Call → Stage → Prop where
  | fresh (call : Call) (hnew : .turned i ∉ history) (hown : own i history = []) :
      Recorded limit i history call (.fresh call)
  | trying {origin : Json.Members} {settled rest : List Message} {message : Message}
      {blocks : List (List (Event ι))} {faults : List Fault} {left : Nat}
      (hsettled : List.Forall₂ (Fate limit i) settled blocks)
      (hown : own i history = blocks.flatten ++ failures i message faults)
      (hleft : faults.length + 1 + left = Publisher.attemptsWithin limit) :
      Recorded limit i history (.flush origin (settled ++ message :: rest))
        (.trying origin message rest left (faults.length + 1))
  | resting {origin : Json.Members} {settled rest : List Message} {message : Message}
      {blocks : List (List (Event ι))} {faults : List Fault} {f : Fault} {left : Nat}
      (hsettled : List.Forall₂ (Fate limit i) settled blocks)
      (hown : own i history
        = blocks.flatten ++ (failures i message faults ++ [.attempted i message (some f)]))
      (hleft : faults.length + 1 + left = Publisher.attemptsWithin limit)
      (hmore : (Number.finite (faults.length + 1 : Nat)).lt limit = true) :
      Recorded limit i history (.flush origin (settled ++ message :: rest))
        (.resting origin message rest left (faults.length + 1))
  | flushed {origin : Json.Members} {entries : List Message} {blocks : List (List (Event ι))}
      (hsettled : List.Forall₂ (Fate limit i) entries blocks)
      (hown : own i history = blocks.flatten) :
      Recorded limit i history (.flush origin entries) (.ended (.ok .nothing))
  /-- It was told the records that there were at its turn. -/
  | told {before after : List (Event ι)} (hhistory : history = before ++ .turned i :: after)
      (hfirst : .turned i ∉ before) :
      Recorded limit i history .letters (.ended (.ok (.letters (records before))))
  /-- It threw the records away at its turn. -/
  | cleared {before after : List (Event ι)}
      (hhistory : history = before ++ .turned i :: .cleared i :: after) (hfirst : .turned i ∉ before) :
      Recorded limit i history .clear (.ended (.ok .nothing))

section

variable [DecidableEq ι] {w : Surroundings ι} {i : ι} {history : List (Event ι)}
  {origin : Json.Members} {settled : List Message} {blocks : List (List (Event ι))}

/-- Two rows stay in step by one more pair. -/
theorem forall₂_snoc {α β : Type} {R : α → β → Prop} {as : List α} {bs : List β} {a : α} {b : β}
    (h : List.Forall₂ R as bs) (hab : R a b) : List.Forall₂ R (as ++ [a]) (bs ++ [b]) :=
  List.rel_append h (.cons hab .nil)

/-- A flush gets to the next messages. -/
theorem recorded_stageAt (rest : List Message)
    (hsettled : List.Forall₂ (Fate w.maxAttempts i) settled blocks)
    (hown : own i history = blocks.flatten) :
    Recorded w.maxAttempts i history (.flush origin (settled ++ rest)) (w.stageAt origin rest) := by
  induction rest generalizing settled blocks with
  | nil =>
    rw [List.append_nil]
    exact .flushed hsettled hown
  | cons message rest ih =>
    rw [Surroundings.stageAt]
    cases hwithin : Publisher.attemptsWithin w.maxAttempts with
    | zero =>
      have hlost : Fate w.maxAttempts i message [] := .lost [] hwithin.symm (absurd rfl)
      rw [List.append_cons]
      refine ih (forall₂_snoc hsettled hlost) ?_
      rw [List.flatten_append, hown]
      exact (List.append_nil _).symm
    | succ left =>
      have hown' : own i history = blocks.flatten ++ failures i message [] := by
        rw [hown]
        exact (List.append_nil _).symm
      exact .trying hsettled hown' (by rw [hwithin]; exact Nat.add_comm 1 left)

/-- A flush whose next message has met its fate gets to the messages after it. -/
theorem recorded_settled {message : Message} (rest : List Message) {block : List (Event ι)}
    (hsettled : List.Forall₂ (Fate w.maxAttempts i) settled blocks)
    (hfate : Fate w.maxAttempts i message block) (hown : own i history = blocks.flatten ++ block) :
    Recorded w.maxAttempts i history (.flush origin (settled ++ message :: rest))
      (w.stageAt origin rest) := by
  rw [List.append_cons]
  refine recorded_stageAt rest (forall₂_snoc hsettled hfate) ?_
  rw [List.flatten_append, List.flatten_singleton, hown]

/-- A flush goes on with a message after some attempts have failed: another one follows, or the
message is lost. -/
theorem recorded_stageOnward (origin : Json.Members) {message : Message} (rest : List Message)
    {faults : List Fault} {left : Nat} (hsettled : List.Forall₂ (Fate w.maxAttempts i) settled blocks)
    (hown : own i history = blocks.flatten ++ failures i message faults)
    (hleft : faults.length + left = Publisher.attemptsWithin w.maxAttempts)
    (hmore : (Number.finite faults.length).lt w.maxAttempts = true) :
    Recorded w.maxAttempts i history (.flush origin (settled ++ message :: rest))
      (w.stageOnward origin message rest left (faults.length + 1)) := by
  cases left with
  | zero => exact recorded_settled rest hsettled (.lost faults hleft fun _ => hmore) hown
  | succ left => exact .trying hsettled hown (by omega)

/-- A flush that has ended did not fail, and its work is a block for each of its messages. -/
theorem Recorded.exists_blocks {limit : Number} {entries : List Message} {outcome : Except Fault Reply}
    (h : Recorded limit i history (.flush origin entries) (.ended outcome)) :
    outcome = .ok .nothing
      ∧ ∃ blocks, own i history = blocks.flatten ∧ List.Forall₂ (Fate limit i) entries blocks := by
  cases h with
  | flushed hsettled hown => exact ⟨rfl, _, hown, hsettled⟩

/-! ## Turns -/

variable {d d' : Desk ι} {call : Call} {stage stage' : Stage}

/-- What a turn of a call adds to the history. -/
structure Adds (w : Surroundings ι) (i : ι) (d d' : Desk ι) (block : List (Event ι)) : Prop where
  history_eq : d'.history = d.history ++ block
  own_eq : ∀ j, j ≠ i → own j block = []
  not_turned : ∀ j, .turned j ∉ block
  /-- The bus answers as it does. -/
  answered : ∀ j message f, .attempted j message f ∈ block → f = w.fault? d.history message
  /-- The dead letters are the records, if they were. -/
  deadLetters_eq : d.deadLetters = records d.history → d'.deadLetters = records d'.history

/-- One event of a call that makes no record. -/
theorem Adds.one {e : Event ι} {log : Log} (hown : ∀ j, j ≠ i → e.isOf j = false)
    (hturned : ∀ j, e ≠ .turned j) (hanswered : ∀ j message f, e = .attempted j message f →
      f = w.fault? d.history message) (hclears : e.clears = false) (hletter : e.letter? = none) :
    Adds w i d { d.note e with log := log } [e] where
  history_eq := rfl
  own_eq j hj := own_eq_nil j fun e' he' => List.mem_singleton.1 he' ▸ hown j hj
  not_turned j hj := hturned j (List.mem_singleton.1 hj).symm
  answered j message f h := hanswered j message f (List.mem_singleton.1 h).symm
  deadLetters_eq h := by
    show d.deadLetters = records (d.history ++ [e])
    rw [records_snoc, hclears, hletter, h]
    exact (List.append_nil _).symm

/-- What a call does in a turn is added to the history, with a fate for what it ends. -/
theorem Goes.adds (hgoes : Goes w i d stage d' stage') : ∃ block, Adds w i d d' block := by
  have hisOf : ∀ {j}, j ≠ i → decide (i = j) = false := fun hj => decide_eq_false hj.symm
  cases hgoes with
  | flushes | tells | stays =>
    exact ⟨[], (List.append_nil _).symm, fun _ _ => rfl, fun _ => List.not_mem_nil,
      fun _ _ _ => nofun, id⟩
  | publishes log hf =>
    refine ⟨_, .one (fun j hj => hisOf hj) (fun _ => nofun) ?_ rfl rfl⟩
    rintro j message f ⟨⟩
    exact hf.symm
  | rests log hf hmore =>
    refine ⟨_, .one (fun j hj => hisOf hj) (fun _ => nofun) ?_ rfl rfl⟩
    rintro j message f ⟨⟩
    exact hf.symm
  | resumes log => exact ⟨_, .one (fun j hj => hisOf hj) (fun _ => nofun) (fun _ _ _ => nofun) rfl rfl⟩
  | clears =>
    refine ⟨[.cleared i], rfl, fun _ _ => rfl, by simp, by simp, fun _ => ?_⟩
    exact (records_snoc d.history (.cleared i)).symm
  | @parks _ message _ _ _ f letter log hf hlast hletter =>
    refine ⟨[.attempted i message (some f), .parked i letter], ?_, fun j hj => ?_, by simp, ?_,
      fun h => ?_⟩
    · exact List.append_assoc d.history [_] [_]
    · refine own_eq_nil j fun e he => ?_
      rcases List.mem_pair.1 he with rfl | rfl <;> exact hisOf hj
    · intro j message' f' hmem
      rcases List.mem_pair.1 hmem with heq | heq
      · cases heq
        exact hf.symm
      · cases heq
    · show d.deadLetters ++ [letter] = records ((d.history ++ [_]) ++ [_])
      rw [records_snoc, records_snoc, h]
      exact (congrArg (· ++ [letter]) (List.append_nil _)).symm

/-- The record of a call's work stays, as long as the call does no more. A call that has not begun
has no turn meanwhile. -/
theorem Recorded.append {limit : Number} {block : List (Event ι)}
    (h : Recorded limit i history call stage) (hown : own i block = [])
    (hturned : stage = .fresh call → .turned i ∉ block) :
    Recorded limit i (history ++ block) call stage := by
  have hsame : own i (history ++ block) = own i history := by
    rw [own_append, hown, List.append_nil]
  cases h with
  | fresh call hnew hnone =>
    exact .fresh call (by simp [hnew, hturned]) (hsame.trans hnone)
  | trying hsettled hown hleft => exact .trying hsettled (hsame.trans hown) hleft
  | resting hsettled hown hleft hmore => exact .resting hsettled (hsame.trans hown) hleft hmore
  | flushed hsettled hown => exact .flushed hsettled (hsame.trans hown)
  | @told before after hhistory hfirst =>
    have hlater : history ++ block = before ++ .turned i :: (after ++ block) := by
      rw [hhistory, List.append_assoc, List.cons_append]
    exact .told hlater hfirst
  | @cleared before after hhistory hfirst =>
    have hlater : history ++ block = before ++ .turned i :: .cleared i :: (after ++ block) := by
      rw [hhistory, List.append_assoc, List.cons_append, List.cons_append]
    exact .cleared hlater hfirst

/-- A turn of a call keeps the record of its work. -/
theorem Goes.recorded (hgoes : Goes w i d stage d' stage')
    (hhistory : d.history = history ++ [.turned i]) (hletters : d.deadLetters = records history)
    (h : Recorded w.maxAttempts i history call stage) :
    Recorded w.maxAttempts i d'.history call stage' := by
  have hown : own i d.history = own i history := by
    rw [hhistory, own_append]
    exact List.append_nil _
  cases hgoes with
  | flushes origin entries log =>
    cases h with
    | fresh _ hnew hnone => exact recorded_stageAt entries .nil (hown.trans hnone)
  | tells =>
    cases h with
    | fresh _ hnew hnone =>
      rw [hletters]
      exact .told hhistory hnew
  | clears =>
    cases h with
    | fresh _ hnew hnone =>
      have hhistory' : d.history ++ [.cleared i] = history ++ .turned i :: .cleared i :: [] := by
        rw [hhistory, List.append_assoc, List.singleton_append]
      exact .cleared hhistory' hnew
  | publishes log hf =>
    cases h with
    | @trying _ settled _ _ blocks faults left hsettled hwork hleft =>
      refine recorded_settled _ hsettled (.published faults (by omega)) ?_
      rw [← List.append_assoc, ← hwork, ← hown]
      exact own_snoc (Event.isOf_attempted ..)
  | @rests _ message _ _ _ f log hf hmore =>
    cases h with
    | @trying _ settled _ _ blocks faults left hsettled hwork hleft =>
      have hwork' : own i (d.history ++ [.attempted i message (some f)])
          = blocks.flatten ++ (failures i message faults ++ [.attempted i message (some f)]) := by
        rw [own_snoc (Event.isOf_attempted ..), hown, hwork, List.append_assoc]
      exact .resting hsettled hwork' hleft hmore
  | @parks _ message _ attempts _ f letter log hf hlast hletter =>
    cases h with
    | @trying _ settled _ _ blocks faults _ hsettled hwork hleft =>
      obtain rfl : attempts = 0 := Publisher.left_eq_zero hlast hleft
      refine recorded_settled _ hsettled (.parked faults hlast (by omega) hletter) ?_
      rw [← List.append_assoc, ← hwork, ← hown]
      show own i ((d.history ++ [.attempted i message (some f)]) ++ [.parked i letter]) = _
      rw [own_snoc (Event.isOf_parked ..), own_snoc (Event.isOf_attempted ..), List.append_assoc]
      rfl
  | @resumes origin message rest _ _ log =>
    cases h with
    | @resting _ settled _ _ blocks faults f left hsettled hwork hleft hmore =>
      have hlength : (faults ++ [f]).length = faults.length + 1 := by simp
      have hwork' : own i (d.history ++ [.paused i (Publisher.pauseMs (faults.length + 1))])
          = blocks.flatten ++ failures i message (faults ++ [f]) := by
        rw [own_snoc (Event.isOf_paused ..), hown, hwork, failures_snoc, List.append_assoc,
          List.append_assoc]
        rfl
      rw [← hlength] at hleft hmore
      have honward := recorded_stageOnward origin rest hsettled hwork' hleft hmore
      rwa [hlength] at honward
  | stays outcome =>
    rw [hhistory]
    exact h.append rfl nofun

end

end Posting

end UnitOfWork
