import UnitOfWork.Proofs.Number.Numerals
import UnitOfWork.Proofs.Number.Moment
import UnitOfWork.Proofs.Ulid.Numerals

/-!
# Identifiers ascend

The source of identifiers stands at a number: its last time and its last random part, one behind the
other. A reading of the clock either moves it to a greater number, whose numeral is the identifier,
or finds the random part at its greatest and leaves it where it is (`Stands.next`). Over a run of
readings, in whatever order, the identifiers therefore ascend (`ascending`).
-/

namespace UnitOfWork.Ulid

/-! ## Calls at readings of a clock -/

/-- Asks for an identifier at each of a list of readings in turn: what was answered, and the source
after it. -/
def answers (bytes : Nat → Nat) :
    (readings : List Nat) → UlidSource → List (Except Fault Text) × UlidSource
  | [], source => ([], source)
  | reading :: readings, source =>
    let (answer, source) := next (.finite reading) bytes source
    let (rest, source) := answers bytes readings source
    (answer :: rest, source)

/-- The identifier of an answer that has one. -/
def identifier? : Except Fault Text → Option Text
  | .ok id => some id
  | .error _ => none

/-- A reading that clocks show while a time has ten digits. -/
def IsReading (reading : Nat) : Prop :=
  1 ≤ reading ∧ reading ≤ maxTime

/-- The random part has no next one. -/
def IsSpent (source : UlidSource) : Prop :=
  source.lastRandom = some (List.replicate randomLength (digit 31))

/-! ## Where a source stands -/

/-- The number of an identifier: its time before its random part. -/
def keyOf (time random : Nat) : Nat :=
  time * 32 ^ randomLength + random

/-- A source that has answered up to a latest reading, and the number of its last random part at
that time. -/
inductive Stands : (source : UlidSource) → (latest key : Nat) → Prop
  | fresh (drawn : Nat) : Stands ⟨.finite 0, none, drawn⟩ 0 0
  | drawn {time random : Nat} (htime : IsReading time) (hrandom : random < 32 ^ randomLength) (drawn : Nat) :
      Stands ⟨.finite time, some (encode randomLength random), drawn⟩ time (keyOf time random)

/-- A source that answered nothing stands at zero. -/
theorem stands_start : Stands {} 0 0 :=
  .fresh 0

variable {bytes : Nat → Nat} {source : UlidSource} {reading latest key time random : Nat}

/-- A time up to the greatest is encoded with its digits. -/
theorem encodeTime_natCast (h : time ≤ maxTime) :
    encodeTime (.finite time) = .ok (encode timeLength time) := by
  have hmax : Number.ofNat maxTime = .finite maxTime := Number.round_natCast (by decide)
  have hlow : ¬ Number.lt (.finite time) 0 = true := by
    rw [Number.zero_eq, Number.lt_eq rfl rfl, decide_eq_true_eq, not_lt]
    exact Nat.cast_nonneg time
  have hhigh : ¬ Number.lt (Number.ofNat maxTime) (.finite time) = true := by
    rw [hmax, Number.lt_eq rfl rfl, decide_eq_true_eq, not_lt]
    exact Nat.cast_le.2 h
  have hint : (Number.finite time).toInt? = some (time : Int) := by
    rw [Number.toInt?, Rat.den_natCast, if_pos rfl, Rat.num_natCast]
  rw [encodeTime, if_neg nofun, if_neg hhigh, if_neg hlow, hint]
  rfl

/-- Natural numbers compare as such. -/
theorem le_finite_iff {m n : Nat} : Number.le (.finite m) (.finite n) = true ↔ m ≤ n := by
  rw [Number.le_eq rfl rfl, decide_eq_true_eq]
  exact Nat.cast_le

/-- A time and a random part make the numeral of their number. -/
theorem encode_keyOf (hrandom : random < 32 ^ randomLength) (time : Nat) :
    encode timeLength time ++ encode randomLength random
      = encode (timeLength + randomLength) (keyOf time random) :=
  encode_add time hrandom timeLength

/-- A time and a random part fit the width of an id. -/
theorem keyOf_lt (htime : IsReading time) (hrandom : random < 32 ^ randomLength) :
    keyOf time random < 32 ^ (timeLength + randomLength) := by
  have hmax := htime.2
  simp only [keyOf, maxTime, timeLength, randomLength] at *
  omega

/-- The answer to a reading is the numeral of a greater number than the source stood at, and there
it stands then. -/
def Moves (bytes : Nat → Nat) (source : UlidSource) (latest key reading : Nat) : Prop :=
  ∃ key' source', next (.finite reading) bytes source
      = (.ok (encode (timeLength + randomLength) key'), source')
    ∧ key < key' ∧ key' < 32 ^ (timeLength + randomLength) ∧ Stands source' (max latest reading) key'

/-- A later reading has a greater key, whatever its random part. -/
theorem Stands.key_lt (h : Stands source latest key) (hreading : latest < reading) (random : Nat) :
    key < keyOf reading random := by
  cases h with
  | fresh drawn =>
    simp only [keyOf, randomLength]
    omega
  | drawn htime hrandom drawn =>
    simp only [keyOf, randomLength] at *
    omega

/-- A source stands at the time of its last answer. -/
theorem Stands.lastTime (h : Stands source latest key) : source.lastTime = .finite latest := by
  cases h <;> simp

/-- A later reading than all before draws a new random part. -/
theorem Stands.moves_of_lt (h : Stands source latest key) (hreading : IsReading reading)
    (hlater : latest < reading) : Moves bytes source latest key reading := by
  obtain ⟨random, hrandom, hdrawn⟩ :=
    exists_encode_randomPart ((List.range randomLength).map fun i => bytes (source.drawn + i))
  rw [List.length_map, List.length_range] at hrandom hdrawn
  have hpast : ¬ Number.le (.finite reading) source.lastTime = true := by
    rw [h.lastTime, le_finite_iff]
    omega
  refine ⟨keyOf reading random,
    ⟨.finite reading, some (encode randomLength random), source.drawn + randomLength⟩,
    ?_, h.key_lt hlater random, keyOf_lt hreading hrandom, ?_⟩
  · rw [next, if_neg hpast, hdrawn, encodeTime_natCast hreading.2, ← encode_keyOf hrandom]
    rfl
  · rw [Nat.max_eq_right hlater.le]
    exact .drawn hreading hrandom _

/-- Otherwise the random part goes up by one, if it can. -/
theorem Stands.moves_of_le (h : Stands source latest key) (hreading : IsReading reading)
    (hpast : reading ≤ latest) (hspent : ¬ IsSpent source) : Moves bytes source latest key reading := by
  have hle : Number.le (.finite reading) source.lastTime = true := by
    rwa [h.lastTime, le_finite_iff]
  cases h with
  | fresh drawn => exact absurd hreading.1 (by omega)
  | @drawn time random htime hrandom drawn =>
    have hmore : random + 1 < 32 ^ randomLength := by
      by_contra hlast
      have hgreatest : random = 32 ^ randomLength - 1 := by omega
      exact hspent (by rw [IsSpent, hgreatest, encode_greatest])
    refine ⟨keyOf latest (random + 1),
      ⟨.finite latest, some (encode randomLength (random + 1)), drawn⟩, ?_,
      Nat.lt_succ_self _, keyOf_lt htime hmore, ?_⟩
    · rw [next, if_pos hle]
      simp only [increment?_encode hrandom, if_pos hmore, encodeTime_natCast htime.2]
      rw [← encode_keyOf hmore]
      rfl
    · rw [Nat.max_eq_left hpast]
      exact .drawn htime hmore _

/-- Where it cannot, there is no answer, and the source stays where it is. -/
theorem Stands.next_of_spent (h : Stands source latest key) (hpast : reading ≤ latest)
    (hspent : IsSpent source) :
    next (.finite reading) bytes source
      = (.error (.named "Error" "incorrectly encoded string"), source) := by
  have hle : Number.le (.finite reading) source.lastTime = true := by
    rwa [h.lastTime, le_finite_iff]
  have hnone : increment? (List.replicate randomLength (digit 31)) = none := by
    rw [← encode_greatest, increment?_encode (by decide), if_neg (by decide)]
  rw [next, if_pos hle, hspent]
  simp only [hnone]

/-- A reading is answered unless the clock has not advanced and the random part is at its
greatest. -/
theorem Stands.moves (h : Stands source latest key) (hreading : IsReading reading)
    (hfree : ¬(reading ≤ latest ∧ IsSpent source)) : Moves bytes source latest key reading := by
  by_cases hpast : reading ≤ latest
  · exact h.moves_of_le hreading hpast fun hspent => hfree ⟨hpast, hspent⟩
  · exact h.moves_of_lt hreading (by omega)

/-! ## Runs -/

variable {readings : List Nat}

/-- A source answers in two parts. -/
theorem answers_append (bytes : Nat → Nat) (before after : List Nat) (source : UlidSource) :
    answers bytes (before ++ after) source
      = ((answers bytes before source).1 ++ (answers bytes after (answers bytes before source).2).1,
        (answers bytes after (answers bytes before source).2).2) := by
  induction before generalizing source with
  | nil => rfl
  | cons reading before ih => simp only [List.cons_append, answers, ih]

/-- Every reading is answered. -/
theorem length_answers (bytes : Nat → Nat) (readings : List Nat) (source : UlidSource) :
    (answers bytes readings source).1.length = readings.length := by
  induction readings generalizing source with
  | nil => rfl
  | cons reading readings ih => rw [answers, List.length_cons, List.length_cons, ih]

/-- A reading is at most the greatest so far if it is at most the first or one of them. -/
theorem le_foldl_max_iff :
    reading ≤ readings.foldl max latest ↔ reading ≤ latest ∨ ∃ r ∈ readings, reading ≤ r := by
  induction readings generalizing latest with
  | nil => simp
  | cons r readings ih => simp [ih, or_assoc]

/-- What identifiers a source gives are the numerals of numbers beyond the one where it stands, in
ascending order. -/
structure Ascends (key : Nat) (ids : List Text) : Prop where
  above : ∀ id ∈ ids, ∃ key', key < key' ∧ key' < 32 ^ (timeLength + randomLength)
    ∧ id = encode (timeLength + randomLength) key'
  ordered : ids.Pairwise Text.Below

/-- Ids ascend from a key if the first has a greater one, from which the others ascend. -/
theorem Ascends.cons {ids : List Text} {key' : Nat} (h : Ascends key' ids) (hkey : key < key')
    (hfits : key' < 32 ^ (timeLength + randomLength)) :
    Ascends key (encode (timeLength + randomLength) key' :: ids) := by
  refine ⟨List.forall_mem_cons.2 ⟨⟨key', hkey, hfits, rfl⟩, fun id hid => ?_⟩,
    List.pairwise_cons.2 ⟨fun id hid => ?_, h.ordered⟩⟩
  · obtain ⟨k, hk, hfits, hid⟩ := h.above id hid
    exact ⟨k, hkey.trans hk, hfits, hid⟩
  · obtain ⟨k, hk, hfits, hid⟩ := h.above id hid
    rw [hid]
    exact below_encode hk hfits

/-- A run from a source that stands somewhere ascends from there, and leaves a source that stands
somewhere. -/
theorem Stands.answers (h : Stands source latest key) (hreadings : ∀ r ∈ readings, IsReading r)
    (bytes : Nat → Nat) :
    Ascends key ((answers bytes readings source).1.filterMap identifier?)
      ∧ ∃ key', Stands (answers bytes readings source).2 (readings.foldl max latest) key' := by
  induction readings generalizing source latest key with
  | nil => exact ⟨⟨nofun, .nil⟩, key, h⟩
  | cons reading readings ih =>
    obtain ⟨hreading, hreadings⟩ := List.forall_mem_cons.1 hreadings
    rw [Ulid.answers, List.foldl_cons]
    by_cases hspent : reading ≤ latest ∧ IsSpent source
    · obtain ⟨hids, hstands⟩ := ih h hreadings
      rw [h.next_of_spent hspent.1 hspent.2, Nat.max_eq_left hspent.1]
      exact ⟨hids, hstands⟩
    · have hmoves : Moves bytes source latest key reading := h.moves hreading hspent
      obtain ⟨key', source', hnext, hkey, hfits, h'⟩ := hmoves
      obtain ⟨hids, hstands⟩ := ih h' hreadings
      rw [hnext]
      exact ⟨hids.cons hkey hfits, hstands⟩

/-- Whatever is encoded to the width of an id is valid. -/
theorem isValid_encode (key : Nat) : isValid (encode (timeLength + randomLength) key) = true := by
  rw [isValid, length_encode, all_contains_encode, Bool.and_true, decide_eq_true_eq]

/-- Whatever a clock shows and whatever bytes are drawn, every identifier has the form of one and
comes after all that were given before it. A reading is left without an identifier exactly if it is
no later than an earlier one and the random part that was to go up is the greatest, so a reading
that is later than all before gets one. -/
theorem ascending (bytes : Nat → Nat) (readings : List Nat) (hreadings : ∀ r ∈ readings, IsReading r) :
    (∀ id ∈ (answers bytes readings {}).1.filterMap identifier?, isValid id = true)
      ∧ ((answers bytes readings {}).1.filterMap identifier?).Pairwise Text.Below
      ∧ ∀ before reading after, readings = before ++ reading :: after →
          ∃ answer, (answers bytes readings {}).1[before.length]? = some answer
            ∧ ((∃ fault, answer = .error fault) ↔
                (∃ earlier ∈ before, reading ≤ earlier) ∧ IsSpent (answers bytes before {}).2)
            ∧ ((∀ earlier ∈ before, earlier < reading) → ∃ id, answer = .ok id) := by
  obtain ⟨hids, -⟩ := stands_start.answers hreadings bytes
  refine ⟨fun id hid => ?_, hids.ordered, ?_⟩
  · obtain ⟨key, -, -, hid⟩ := hids.above id hid
    rw [hid]
    exact isValid_encode key
  · rintro before reading after rfl
    obtain ⟨-, key, hstands⟩ := stands_start.answers
      (fun r hr => hreadings r (List.mem_append_left _ hr)) bytes
    have hreading := hreadings reading (List.mem_append_right _ List.mem_cons_self)
    have hpast : reading ≤ before.foldl max 0 ↔ ∃ earlier ∈ before, reading ≤ earlier := by
      rw [le_foldl_max_iff, or_iff_right (by have := hreading.1; omega)]
    refine ⟨(next (.finite reading) bytes (Ulid.answers bytes before {}).2).1, ?_, ?_⟩
    · rw [answers_append, List.getElem?_append_right (by rw [length_answers]), length_answers,
        Nat.sub_self]
      rfl
    · rw [← hpast]
      by_cases hspent : reading ≤ before.foldl max 0 ∧ IsSpent (Ulid.answers bytes before {}).2
      · rw [hstands.next_of_spent hspent.1 hspent.2]
        refine ⟨iff_of_true ⟨_, rfl⟩ hspent, fun hlater => ?_⟩
        obtain ⟨earlier, hearlier, hle⟩ := hpast.1 hspent.1
        exact absurd (hlater earlier hearlier) (Nat.not_lt.2 hle)
      · have hmoves : Moves bytes _ _ key reading := hstands.moves hreading hspent
        obtain ⟨key', source', hnext, -⟩ := hmoves
        rw [hnext]
        exact ⟨iff_of_false nofun hspent, fun _ => ⟨_, rfl⟩⟩

/-- With the greatest random part drawn at first, a clock that goes back gets no identifier, and
gets one again when it has gone on. -/
theorem ascending_spent :
    (∀ r ∈ [5, 3, 6], IsReading r)
      ∧ (∃ fault, (answers (fun _ => 255) [5, 3, 6] {}).1[1]? = some (.error fault))
      ∧ ∃ id, (answers (fun _ => 255) [5, 3, 6] {}).1[2]? = some (.ok id) := by
  have hreadings : ∀ r ∈ [5, 3, 6], IsReading r := by
    simp only [IsReading]
    decide
  have hspent : IsSpent (answers (fun _ => 255) [5] {}).2 := by
    unfold IsSpent
    decide +kernel
  obtain ⟨-, -, hanswers⟩ := ascending (fun _ => 255) [5, 3, 6] hreadings
  obtain ⟨answer, hanswer, hfails, -⟩ := hanswers [5] 3 [6] rfl
  obtain ⟨fault, rfl⟩ := hfails.2 ⟨⟨5, List.mem_singleton_self 5, by decide⟩, hspent⟩
  obtain ⟨_, hanswer', -, hlater⟩ := hanswers [5, 3] 6 [] rfl
  obtain ⟨id, rfl⟩ := hlater (by decide)
  exact ⟨hreadings, ⟨fault, hanswer⟩, id, hanswer'⟩

end UnitOfWork.Ulid
