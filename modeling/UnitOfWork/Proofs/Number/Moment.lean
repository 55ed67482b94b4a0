import UnitOfWork.Proofs.Number.Rounding
import UnitOfWork.Time

/-!
# Moments

What a clock may show is a moment that has a date. Moments are far from the bounds of binary64
numbers, so they are ordered as the rationals that they stand for. A wait that begins later ends no
earlier (`Time.add_delay_lt_eq_false`), and where the clock shows whole milliseconds the end of a
wait is exact (`Time.add_eq_of_isInteger`). `Time.delay` of a wait in whole milliseconds is the wait
itself up to the longest wait of a timer, and a single millisecond beyond it.
-/

namespace UnitOfWork

namespace Number

@[simp] theorem value_finite (q : Rat) : (finite q).value = q := rfl

/-- Small integers are exact. -/
theorem ofInt_eq {n : Int} (h : n.natAbs < 2 ^ 53) : ofInt n = finite n :=
  round_intCast h

/-- The number 0 is exact. -/
theorem zero_eq : (0 : Number) = finite 0 :=
  ofInt_eq (n := 0) (by decide)

/-- The number 1 is exact. -/
theorem one_eq : (1 : Number) = finite 1 :=
  ofInt_eq (n := 1) (by decide)

/-- What is between two rationals stands for one. -/
theorem isRational_of_between {x : Number} {q r : Rat} (hlow : (finite q).le x = true)
    (hhigh : x.le (finite r) = true) : x.isRational = true := by
  cases x with
  | nan => cases hlow
  | infinite a => cases a <;> simp [le] at hlow hhigh
  | negativeZero => rfl
  | finite q => rfl

/-- A number that is an integer has an integral value. -/
theorem exists_value_eq {x : Number} (h : x.isInteger = true) : ∃ n : Int, x.value = n := by
  cases x with
  | nan => cases h
  | infinite a => cases h
  | negativeZero => exact ⟨0, rfl⟩
  | finite q =>
    have hden : q.den = 1 := by simpa [isInteger] using h
    exact ⟨q.num, ((Rat.den_eq_one_iff q).1 hden).symm⟩

/-- The sum with a rational is that of the rationals, rounded. -/
theorem add_finite {x : Number} (hx : x.isRational = true) (q : Rat) :
    x + finite q = round (x.value + q) := by
  cases x with
  | nan => cases hx
  | infinite a => cases hx
  | negativeZero => rfl
  | finite p => rfl

end Number

namespace Time

open Number (ofInt_eq one_eq lt_eq le_eq isRational_of_between)

/-- The last date there is, in milliseconds, is exact. -/
theorem lastDate_eq : lastDate = .finite (8640000000000000 : Int) :=
  ofInt_eq (n := 8640000000000000) (by decide)

/-- A moment that has a date stands for a rational, and it is far from the bounds of numbers. -/
theorem bounds_of_hasDate {t : Time} (h : t.hasDate = true) :
    t.isRational = true ∧ -8640000000000000 ≤ t.value ∧ t.value ≤ 8640000000000000 := by
  have hneg : Number.neg (.finite (8640000000000000 : Int)) = .finite (-8640000000000000) := by
    rw [Number.neg, if_neg (by norm_num)]
    norm_num
  rw [hasDate, lastDate_eq, hneg, Bool.and_eq_true] at h
  have hrational := isRational_of_between h.1 h.2
  rw [le_eq rfl hrational, le_eq hrational rfl] at h
  exact ⟨hrational, by simpa using of_decide_eq_true h.1, by simpa using of_decide_eq_true h.2⟩

/-- The greatest delay there is, in milliseconds, is exact. -/
theorem ofInt_maxDelay : Number.ofInt maxDelay = .finite maxDelay :=
  ofInt_eq (by decide)

/-- A wait within the bounds of timers is cut to whole milliseconds. -/
theorem delay_of_le {ms : Number} (hlow : Number.le 1 ms = true)
    (hhigh : ms.le (.finite maxDelay) = true) :
    1 ≤ ms.value.floor ∧ ms.value.floor ≤ maxDelay ∧ delay ms = .finite ms.value.floor := by
  rw [one_eq] at hlow
  have hrational := isRational_of_between hlow hhigh
  have hone : (1 : Rat) ≤ ms.value := by
    rw [le_eq rfl hrational] at hlow
    simpa using of_decide_eq_true hlow
  have hmax : ms.value ≤ (maxDelay : Int) := by
    rw [le_eq hrational rfl] at hhigh
    simpa using of_decide_eq_true hhigh
  have hfloor : 1 ≤ ms.value.floor := Rat.le_floor_iff.2 (by exact_mod_cast hone)
  have hfloor' : ms.value.floor ≤ maxDelay := by
    have := (Rat.floor_le ms.value).trans hmax
    exact_mod_cast this
  have htruncate : ms.truncate = ms.value.floor := by
    rw [Number.truncate, if_neg (not_lt.2 (zero_le_one.trans hone)), Number.floor]
  refine ⟨hfloor, hfloor', ?_⟩
  rw [delay, ofInt_maxDelay, one_eq, if_pos ⟨hlow, hhigh⟩, htruncate]
  refine ofInt_eq ?_
  rw [maxDelay] at hfloor'
  omega

/-- A timer waits for whole milliseconds, at least one. -/
theorem exists_delay_eq (ms : Number) : ∃ n : Int, 1 ≤ n ∧ n ≤ maxDelay ∧ delay ms = .finite n := by
  by_cases h : Number.le 1 ms = true ∧ ms.le (.finite maxDelay) = true
  · exact ⟨_, delay_of_le h.1 h.2⟩
  · refine ⟨1, le_refl 1, by decide, ?_⟩
    rw [delay, ofInt_maxDelay, if_neg h, one_eq]
    rfl

/-- Of two waits the one that begins later ends no earlier. -/
theorem add_delay_lt_eq_false {a b : Time} (ha : a.isRational = true) (hb : b.isRational = true)
    (h : a.le b = true) (ms : Number) : (b + delay ms).lt (a + delay ms) = false := by
  obtain ⟨n, -, -, hdelay⟩ := exists_delay_eq ms
  have hle : a.value ≤ b.value := by
    rw [le_eq ha hb] at h
    exact of_decide_eq_true h
  rw [hdelay, Number.add_finite ha, Number.add_finite hb]
  exact Number.round_mono (add_le_add_left hle _)

/-- From a moment in whole milliseconds a wait ends exactly when it should. -/
theorem add_eq_of_isInteger {a : Time} (ha : a.hasDate = true) (hinteger : a.isInteger = true) {n : Int}
    (hn : 1 ≤ n) (hmax : n ≤ maxDelay) : a + .finite n = .finite (a.value + n) := by
  obtain ⟨hrational, hlow, hhigh⟩ := bounds_of_hasDate ha
  obtain ⟨k, hk⟩ := Number.exists_value_eq hinteger
  rw [Number.add_finite hrational, hk, ← Int.cast_add]
  rw [hk] at hlow hhigh
  refine Number.round_intCast ?_
  have hlow' : -8640000000000000 ≤ k := by exact_mod_cast hlow
  have hhigh' : k ≤ 8640000000000000 := by exact_mod_cast hhigh
  rw [maxDelay] at hmax
  omega

end Time

/-! ## Clocks -/

/-- What a clock may show. -/
structure Moment where
  time : Time
  dated : time.hasDate = true

namespace Moment

open Number (le_eq)

/-- The moment from which moments are counted. -/
def zero : Moment :=
  ⟨.finite 0, by decide⟩

/-- The time of a moment is rational. -/
theorem isRational (m : Moment) : m.time.isRational = true :=
  (Time.bounds_of_hasDate m.dated).1

/-- A moment is not after itself. -/
theorem le_refl (m : Moment) : m.time.le m.time = true := by
  rw [le_eq m.isRational m.isRational]
  exact decide_eq_true le_rfl

/-- Moments come one after another. -/
theorem le_trans {a b c : Moment} (h : a.time.le b.time = true) (h' : b.time.le c.time = true) :
    a.time.le c.time = true := by
  rw [le_eq a.isRational b.isRational] at h
  rw [le_eq b.isRational c.isRational] at h'
  rw [le_eq a.isRational c.isRational]
  exact decide_eq_true ((of_decide_eq_true h).trans (of_decide_eq_true h'))

end Moment

end UnitOfWork
