import Mathlib.Algebra.Order.Field.Power
import Mathlib.Data.Int.Log
import Mathlib.Data.Rat.Floor
import Mathlib.Tactic.FieldSimp
import Mathlib.Tactic.Linarith
import Mathlib.Tactic.Positivity
import Mathlib.Tactic.Ring
import UnitOfWork.Number.Basic

/-!
# Rounding keeps the order

`Number.round` takes a rational to the nearest binary64 value. Two facts about it carry the
arithmetic of clocks and counters: it keeps the order (`round_mono`), and an integer of at most 53
bits is its own rounding (`round_intCast`). Both rest on the place of the last bit, which is read
off the logarithm of the fraction (`lastPlace_eq`), and on rounding half to even, which keeps the
order of fractions (`roundHalfEven_mono`).
-/

namespace UnitOfWork.Number

variable {num den : Nat}

/-! ## Powers of two -/

/-- Scaling a fraction divides it by the power of two. -/
theorem scaled_div (num den : Nat) (e : Int) :
    ((scaled num den e).1 : Rat) / (scaled num den e).2 = (num : Rat) / den / 2 ^ e := by
  cases e with
  | ofNat k =>
    simp only [scaled, Nat.pow_eq, Nat.cast_mul, Nat.cast_pow, Nat.cast_ofNat, Int.ofNat_eq_natCast,
      zpow_natCast, div_div]
  | negSucc k =>
    simp only [scaled, Nat.pow_eq, Nat.cast_mul, Nat.cast_pow, Nat.cast_ofNat, zpow_negSucc,
      div_inv_eq_mul]
    ring

/-- Scaling keeps a denominator positive. -/
theorem scaled_den_pos (hden : 0 < den) (num : Nat) (e : Int) : 0 < (scaled num den e).2 := by
  cases e with
  | ofNat k => exact Nat.mul_pos hden (Nat.pow_pos (by decide))
  | negSucc k => exact hden

/-- A dyadic number is its significand times the power of two. -/
theorem dyadic_eq (m : Nat) (e : Int) : dyadic m e = (m : Rat) * 2 ^ e := by
  cases e with
  | ofNat k => simp [dyadic]
  | negSucc k =>
    rw [dyadic, Rat.mkRat_eq_div, zpow_negSucc, div_eq_mul_inv]
    simp

/-- The binary logarithm of a number between two powers is that of the smaller. -/
theorem log_eq_of_between {x : Rat} (hx : 0 < x) {k : Int} (hle : (2 : Rat) ^ k ≤ x)
    (hlt : x < 2 ^ (k + 1)) : Int.log 2 x = k := by
  have hge := (Int.zpow_le_iff_le_log (b := 2) Nat.one_lt_two hx).1 hle
  have hle' := (Int.lt_zpow_iff_log_lt (b := 2) Nat.one_lt_two hx).1 hlt
  omega

/-- The exponent that is found by comparing lengths is the logarithm. -/
theorem log2Floor_eq (hnum : 0 < num) (hden : 0 < den) :
    log2Floor num den = Int.log 2 ((num : Rat) / den) := by
  have hn : (0 : Rat) < num := Nat.cast_pos.2 hnum
  have hd : (0 : Rat) < den := Nat.cast_pos.2 hden
  have hpos : (0 : Rat) < num / den := div_pos hn hd
  generalize hk : ((Nat.log2 num : Int) - (Nat.log2 den : Int)) = k
  -- The fraction lies strictly between the powers next to that of the difference of lengths.
  have hlow : (2 : Rat) ^ (k - 1) < num / den := by
    have h₁ : ((2 ^ Nat.log2 num : Nat) : Rat) ≤ num :=
      Nat.cast_le.2 (Nat.log2_self_le hnum.ne')
    have h₂ : (den : Rat) < ((2 ^ (Nat.log2 den + 1) : Nat) : Rat) := Nat.cast_lt.2 Nat.lt_log2_self
    rw [lt_div_iff₀ hd]
    refine lt_of_lt_of_le (mul_lt_mul_of_pos_left h₂ (by positivity)) (le_trans (le_of_eq ?_) h₁)
    push_cast
    rw [← zpow_natCast, ← zpow_natCast, ← zpow_add₀ two_ne_zero]
    congr 1
    push_cast
    omega
  have hhigh : (num : Rat) / den < 2 ^ (k + 1) := by
    have h₁ : (num : Rat) < ((2 ^ (Nat.log2 num + 1) : Nat) : Rat) := Nat.cast_lt.2 Nat.lt_log2_self
    have h₂ : ((2 ^ Nat.log2 den : Nat) : Rat) ≤ den := Nat.cast_le.2 (Nat.log2_self_le hden.ne')
    rw [div_lt_iff₀ hd]
    refine lt_of_lt_of_le h₁ (le_trans (le_of_eq ?_) (mul_le_mul_of_nonneg_left h₂ (by positivity)))
    push_cast
    rw [← zpow_natCast, ← zpow_natCast, ← zpow_add₀ two_ne_zero]
    congr 1
    push_cast
    omega
  have hcompare : (scaled num den k).2 ≤ (scaled num den k).1 ↔ (2 : Rat) ^ k ≤ num / den := by
    have hpow : (0 : Rat) < 2 ^ k := by positivity
    have hscaled : (0 : Rat) < (scaled num den k).2 := Nat.cast_pos.2 (scaled_den_pos hden num k)
    rw [← one_le_div hpow, ← scaled_div, one_le_div hscaled, Nat.cast_le]
  simp only [log2Floor, hk]
  split
  next h => exact (log_eq_of_between hpos (hcompare.1 h) hhigh).symm
  next h =>
    have hlt : (num : Rat) / den < 2 ^ k := not_le.1 fun hle => h (hcompare.2 hle)
    exact (log_eq_of_between hpos hlow.le (by rwa [sub_add_cancel])).symm

/-- The last place of a fraction is 52 places below its first, but not below the smallest there
is. -/
theorem lastPlace_eq (hnum : 0 < num) (hden : 0 < den) :
    lastPlace num den = max (Int.log 2 ((num : Rat) / den) - 52) (-1074) := by
  rw [lastPlace, log2Floor_eq hnum hden]
  rfl

/-! ## Rounding half to even -/

/-- Rounding to an integer does not go below the quotient. -/
theorem le_roundHalfEven (num den : Nat) : num / den ≤ roundHalfEven num den := by
  unfold roundHalfEven
  dsimp only
  repeat' split
  all_goals omega

/-- Rounding to an integer goes at most one above the quotient. -/
theorem roundHalfEven_le (num den : Nat) : roundHalfEven num den ≤ num / den + 1 := by
  unfold roundHalfEven
  dsimp only
  repeat' split
  all_goals omega

/-- A whole number of halves or more is kept. -/
theorem roundHalfEven_mul (n : Nat) (hden : 0 < den) : roundHalfEven (n * den) den = n := by
  simp only [roundHalfEven, Nat.mul_mod_left, Nat.mul_zero, Nat.mul_div_cancel n hden, hden, if_true]

/-- Rounding half to even keeps the order of fractions. -/
theorem roundHalfEven_mono {num' den' : Nat} (hden : 0 < den) (hden' : 0 < den')
    (h : num * den' ≤ num' * den) : roundHalfEven num den ≤ roundHalfEven num' den' := by
  have hfloor : num / den ≤ num' / den' := by
    rw [Nat.le_div_iff_mul_le hden']
    refine Nat.le_of_mul_le_mul_right ?_ hden
    calc num / den * den' * den = num / den * den * den' := by ring
      _ ≤ num * den' := Nat.mul_le_mul_right _ (Nat.div_mul_le_self num den)
      _ ≤ num' * den := h
  rcases Nat.lt_or_eq_of_le hfloor with hlt | heq
  · have hnext : num / den + 1 ≤ roundHalfEven num' den' :=
      (Nat.succ_le_of_lt hlt).trans (le_roundHalfEven num' den')
    exact (roundHalfEven_le num den).trans hnext
  · -- Between the same two integers the remainders decide.
    have hrest : num % den * den' ≤ num' % den' * den := by
      have h₁ := Nat.div_add_mod num den
      have h₂ := Nat.div_add_mod num' den'
      rw [← heq] at h₂
      generalize num / den = q at h₁ h₂
      generalize num % den = r at h₁ ⊢
      generalize num' % den' = r' at h₂ ⊢
      subst h₁ h₂
      have hexpand : (den * q + r) * den' ≤ (den' * q + r') * den := h
      nlinarith
    have habove : den < 2 * (num % den) → den' < 2 * (num' % den') := by
      intro hr
      refine Nat.lt_of_mul_lt_mul_right (a := den) ?_
      calc den' * den = den * den' := Nat.mul_comm ..
        _ < 2 * (num % den) * den' := Nat.mul_lt_mul_of_pos_right hr hden'
        _ ≤ 2 * (num' % den') * den := by nlinarith
    have hhalf : den ≤ 2 * (num % den) → den' ≤ 2 * (num' % den') := by
      intro hr
      refine Nat.le_of_mul_le_mul_right ?_ hden
      calc den' * den = den * den' := Nat.mul_comm ..
        _ ≤ 2 * (num % den) * den' := Nat.mul_le_mul_right den' hr
        _ ≤ 2 * (num' % den') * den := by nlinarith
    unfold roundHalfEven
    dsimp only
    rw [← heq]
    repeat' split
    all_goals omega

/-! ## Rounding fractions -/

/-- The significand that a fraction is rounded to. -/
def significand (num den : Nat) : Nat :=
  roundHalfEven (scaled num den (lastPlace num den)).1 (scaled num den (lastPlace num den)).2

/-- A fraction is rounded to its significand at its last place, unless it is too great. -/
theorem roundFraction_eq (hnum : 0 < num) (den : Nat) :
    roundFraction num den =
      if maxExponent < lastPlace num den
          ∨ lastPlace num den = maxExponent ∧ 2 ^ precision ≤ significand num den then none
      else some ((significand num den : Rat) * 2 ^ lastPlace num den) := by
  rw [roundFraction, if_neg hnum.ne']
  simp only [significand, dyadic_eq, gt_iff_lt, ge_iff_le, Bool.or_eq_true, Bool.and_eq_true,
    decide_eq_true_eq]
  rfl

/-- A significand has at most 53 binary places, or is the next power of two. -/
theorem significand_le (hnum : 0 < num) (hden : 0 < den) : significand num den ≤ 2 ^ 53 := by
  have hpos : (0 : Rat) < num / den := div_pos (Nat.cast_pos.2 hnum) (Nat.cast_pos.2 hden)
  have hlt : (num : Rat) / den < 2 ^ 53 * 2 ^ lastPlace num den := by
    refine lt_of_lt_of_le (Int.lt_zpow_succ_log_self Nat.one_lt_two _) ?_
    rw [← zpow_natCast, ← zpow_add₀ two_ne_zero, lastPlace_eq hnum hden]
    exact zpow_le_zpow_right₀ one_le_two (by push_cast; omega)
  rw [← div_lt_iff₀ (by positivity), ← scaled_div] at hlt
  have hscaled := scaled_den_pos hden num (lastPlace num den)
  rw [div_lt_iff₀ (Nat.cast_pos.2 hscaled)] at hlt
  have hfloor : (scaled num den (lastPlace num den)).1 / (scaled num den (lastPlace num den)).2
      < 2 ^ 53 := by
    rw [Nat.div_lt_iff_lt_mul hscaled]
    exact_mod_cast hlt
  exact (roundHalfEven_le _ _).trans hfloor

/-- Above the least place the significand has all its bits. -/
theorem le_significand (hnum : 0 < num) (hden : 0 < den) (hplace : -1074 < lastPlace num den) :
    2 ^ 52 ≤ significand num den := by
  have hpos : (0 : Rat) < num / den := div_pos (Nat.cast_pos.2 hnum) (Nat.cast_pos.2 hden)
  have hle : (2 : Rat) ^ 52 * 2 ^ lastPlace num den ≤ (num : Rat) / den := by
    refine le_trans (le_of_eq ?_) (Int.zpow_log_le_self Nat.one_lt_two hpos)
    rw [lastPlace_eq hnum hden] at hplace ⊢
    rw [← zpow_natCast, ← zpow_add₀ two_ne_zero]
    congr 1
    push_cast
    omega
  rw [← le_div_iff₀ (by positivity), ← scaled_div] at hle
  have hscaled := scaled_den_pos hden num (lastPlace num den)
  rw [le_div_iff₀ (Nat.cast_pos.2 hscaled)] at hle
  refine le_trans ?_ (le_roundHalfEven _ _)
  rw [Nat.le_div_iff_mul_le hscaled]
  exact_mod_cast hle

/-- A fraction is not rounded below zero. -/
theorem roundFraction_nonneg {v : Rat} (h : roundFraction num den = some v) : 0 ≤ v := by
  rcases Nat.eq_zero_or_pos num with rfl | hnum
  · cases h
    exact le_refl 0
  · rw [roundFraction_eq hnum, Option.ite_none_left_eq_some] at h
    obtain ⟨-, h⟩ := h
    cases h
    positivity

/-- A fraction below one that is not too large is not too large either, and is rounded to no
more. -/
theorem roundFraction_mono {num' den' : Nat} (hden : 0 < den) (hden' : 0 < den')
    (h : num * den' ≤ num' * den) {w : Rat} (hw : roundFraction num' den' = some w) :
    ∃ v, roundFraction num den = some v ∧ v ≤ w := by
  rcases Nat.eq_zero_or_pos num with rfl | hnum
  · exact ⟨0, rfl, roundFraction_nonneg hw⟩
  have hnum' : 0 < num' := by
    refine Nat.pos_of_ne_zero fun hzero => ?_
    rw [hzero, Nat.zero_mul] at h
    exact absurd h (Nat.not_le.2 (Nat.mul_pos hnum hden'))
  have hfraction : (num : Rat) / den ≤ num' / den' := by
    rw [div_le_div_iff₀ (Nat.cast_pos.2 hden) (Nat.cast_pos.2 hden')]
    exact_mod_cast h
  have hplace : lastPlace num den ≤ lastPlace num' den' := by
    rw [lastPlace_eq hnum hden, lastPlace_eq hnum' hden']
    have hpos : (0 : Rat) < num / den := div_pos (Nat.cast_pos.2 hnum) (Nat.cast_pos.2 hden)
    have hlog := Int.log_mono_right (b := 2) hpos hfraction
    omega
  rw [roundFraction_eq hnum', Option.ite_none_left_eq_some] at hw
  obtain ⟨hfits, hw⟩ := hw
  cases hw
  rw [roundFraction_eq hnum]
  rcases Int.lt_or_eq_of_le hplace with hlt | heq
  · -- The greatest significand at a place is the least one at the next.
    refine ⟨_, if_neg fun hlarge => ?_, ?_⟩
    · omega
    · have hleast : -1074 ≤ lastPlace num den := by
        rw [lastPlace_eq hnum hden]
        omega
      have hsmall : (significand num den : Rat) ≤ 2 ^ 53 := by
        exact_mod_cast significand_le hnum hden
      have hlarge : (2 : Rat) ^ 52 ≤ significand num' den' := by
        exact_mod_cast le_significand hnum' hden' (hleast.trans_lt hlt)
      calc (significand num den : Rat) * 2 ^ lastPlace num den
          ≤ 2 ^ 53 * 2 ^ lastPlace num den := by gcongr
        _ = 2 ^ 52 * 2 ^ (lastPlace num den + 1) := by rw [zpow_add_one₀ two_ne_zero]; ring
        _ ≤ 2 ^ 52 * 2 ^ lastPlace num' den' := by gcongr <;> first | exact one_le_two | omega
        _ ≤ significand num' den' * 2 ^ lastPlace num' den' := by gcongr
  · have hsignificand : significand num den ≤ significand num' den' := by
      have hs := scaled_den_pos hden num (lastPlace num den)
      have hs' := scaled_den_pos hden' num' (lastPlace num' den')
      refine roundHalfEven_mono hs hs' ?_
      have hdiv : ((scaled num den (lastPlace num den)).1 : Rat) / (scaled num den (lastPlace num den)).2
          ≤ (scaled num' den' (lastPlace num' den')).1 / (scaled num' den' (lastPlace num' den')).2 := by
        rw [scaled_div, scaled_div, heq]
        gcongr
      rw [div_le_div_iff₀ (Nat.cast_pos.2 hs) (Nat.cast_pos.2 hs')] at hdiv
      exact_mod_cast hdiv
    refine ⟨_, if_neg fun hlarge => ?_, ?_⟩
    · omega
    · rw [heq]
      gcongr

/-- A natural number of at most 53 bits is its own rounding. -/
theorem roundFraction_natCast {n : Nat} (h : n < 2 ^ 53) : roundFraction n 1 = some (n : Rat) := by
  rcases Nat.eq_zero_or_pos n with rfl | hn
  · rfl
  have hplace : lastPlace n 1 ≤ 0 := by
    have hlog : Int.log 2 ((n : Rat) / (1 : Nat)) < 53 := by
      rw [← Int.lt_zpow_iff_log_lt Nat.one_lt_two (by positivity), Nat.cast_one, div_one]
      exact_mod_cast h
    rw [lastPlace_eq hn Nat.one_pos]
    omega
  obtain ⟨k, hk⟩ := Int.eq_ofNat_of_zero_le (Int.neg_nonneg_of_nonpos hplace)
  have hplace : lastPlace n 1 = -(k : Int) := by omega
  have hscaled : (scaled n 1 (-(k : Int))).1 = n * 2 ^ k * (scaled n 1 (-(k : Int))).2 := by
    have hs := scaled_den_pos Nat.one_pos n (-(k : Int))
    have hdiv := scaled_div n 1 (-(k : Int))
    rw [div_eq_iff (by positivity), zpow_neg, zpow_natCast, div_inv_eq_mul, Nat.cast_one, div_one] at hdiv
    exact_mod_cast hdiv
  have hsignificand : significand n 1 = n * 2 ^ k := by
    rw [significand, hplace, hscaled]
    exact roundHalfEven_mul _ (scaled_den_pos Nat.one_pos n _)
  rw [roundFraction_eq hn, if_neg, hsignificand, hplace, zpow_neg, zpow_natCast]
  · push_cast
    rw [mul_inv_cancel_right₀ (by positivity)]
  · rw [hplace, maxExponent]
    omega

/-! ## Comparing numbers -/

/-- A number that stands for a rational. -/
def isRational : Number → Bool
  | negativeZero | finite _ => true
  | nan | infinite _ => false

variable {x y : Number}

/-- Rational numbers compare as their values do. -/
theorem lt_eq (hx : x.isRational = true) (hy : y.isRational = true) :
    x.lt y = decide (x.value < y.value) := by
  cases x <;> cases hx <;> cases y <;> cases hy <;> rfl

/-- Rational numbers compare as their values do, in the weak order too. -/
theorem le_eq (hx : x.isRational = true) (hy : y.isRational = true) :
    x.le y = decide (x.value ≤ y.value) := by
  cases x <;> cases hx <;> cases y <;> cases hy <;> rfl

/-- Nothing is below minus infinity. -/
@[simp] theorem lt_infinite_true (x : Number) : x.lt (infinite true) = false := by
  cases x <;> simp [lt]

/-- Infinity is below nothing. -/
@[simp] theorem infinite_false_lt (x : Number) : (infinite false).lt x = false := by
  cases x <;> simp [lt]

/-- What is at most another number is not above it. -/
theorem lt_eq_false_of_le (h : x.le y = true) : y.lt x = false := by
  cases x with
  | nan => cases h
  | infinite a => (cases y <;> simp_all [le, lt]); cases a <;> simp_all
  | negativeZero | finite => cases y <;> simp_all [le, lt]

/-! ## Rounding rationals -/

/-- The number of a magnitude with a sign; one that is too large is infinite. -/
def signed (negative : Bool) : Option Rat → Number
  | none => infinite negative
  | some v => if v = 0 then zero negative else finite (if negative then -v else v)

/-- A number is rounded as the fraction of its absolute value, with its sign. -/
theorem round_eq (q : Rat) : round q = signed (q.num < 0) (roundFraction q.num.natAbs q.den) := by
  rw [round]
  cases roundFraction q.num.natAbs q.den with
  | none => rfl
  | some v => simp only [signed, decide_eq_true_eq]

/-- Without a sign a value stands for itself. -/
theorem signed_false_some (v : Rat) : signed false (some v) = finite v := by
  rw [signed]
  split
  next h => rw [h]; rfl
  next => rfl

/-- With a sign a value stands for its negative. -/
theorem signed_true_some (v : Rat) :
    (signed true (some v)).isRational = true ∧ (signed true (some v)).value = -v := by
  rw [signed]
  split
  next h => rw [h]; exact ⟨rfl, rfl⟩
  next => exact ⟨rfl, rfl⟩

/-- An integer of at most 53 bits is its own rounding. -/
theorem round_intCast {n : Int} (h : n.natAbs < 2 ^ 53) : round (n : Rat) = finite n := by
  have hfraction : roundFraction (n : Rat).num.natAbs (n : Rat).den = some (n.natAbs : Rat) :=
    roundFraction_natCast h
  rw [round_eq, hfraction]
  rcases lt_or_ge n 0 with hneg | hpos
  · have hvalue : -(n.natAbs : Rat) = n := by
      have habs : -(n.natAbs : Int) = n := by omega
      rw [← Int.cast_natCast, ← Int.cast_neg, habs]
    have hne : (n.natAbs : Rat) ≠ 0 := Nat.cast_ne_zero.2 (Int.natAbs_ne_zero.2 hneg.ne)
    have hsign : decide ((n : Rat).num < 0) = true := decide_eq_true hneg
    rw [hsign, signed, if_neg hne, if_pos rfl, hvalue]
  · have hvalue : (n.natAbs : Rat) = n := by
      rw [← Int.cast_natCast, Int.natAbs_of_nonneg hpos]
    have hsign : decide ((n : Rat).num < 0) = false := decide_eq_false (not_lt.2 hpos)
    rw [hsign, signed_false_some, hvalue]

/-- The fractions of two rationals with one sign are ordered as the rationals are. -/
theorem natAbs_num_mul_le {q r : Rat} (h : |q| ≤ |r|) : q.num.natAbs * r.den ≤ r.num.natAbs * q.den := by
  rw [Rat.abs_def, Rat.abs_def, Rat.divInt_le_divInt (by exact_mod_cast q.den_pos)
    (by exact_mod_cast r.den_pos)] at h
  exact_mod_cast h

/-- Rounding keeps the order. -/
theorem round_mono {q r : Rat} (h : q ≤ r) : (round r).lt (round q) = false := by
  have hmagnitude : ∀ {q r : Rat}, |q| ≤ |r| → ∀ w, roundFraction r.num.natAbs r.den = some w →
      ∃ v, roundFraction q.num.natAbs q.den = some v ∧ v ≤ w := fun hle w hw =>
    roundFraction_mono (Rat.den_pos _) (Rat.den_pos _) (natAbs_num_mul_le hle) hw
  rw [round_eq, round_eq]
  rcases lt_or_ge r 0 with hr | hr
  · -- Both are negative, so the magnitudes are in the other order.
    have hq := h.trans_lt hr
    have hle : |r| ≤ |q| := by
      rw [abs_of_neg hq, abs_of_neg hr]
      exact neg_le_neg h
    rw [decide_eq_true (Rat.num_neg.2 hq), decide_eq_true (Rat.num_neg.2 hr)]
    cases hv : roundFraction q.num.natAbs q.den with
    | none => exact lt_infinite_true _
    | some v =>
      obtain ⟨w, hw, hwv⟩ := hmagnitude hle v hv
      obtain ⟨hqr, hqv⟩ := signed_true_some v
      obtain ⟨hrr, hrv⟩ := signed_true_some w
      rw [hw, lt_eq hrr hqr, hqv, hrv]
      simpa using hwv
  · rw [decide_eq_false (not_lt.2 (Rat.num_nonneg.2 hr))]
    cases hw : roundFraction r.num.natAbs r.den with
    | none => exact infinite_false_lt _
    | some w =>
      rw [signed_false_some]
      rcases lt_or_ge q 0 with hq | hq
      · rw [decide_eq_true (Rat.num_neg.2 hq)]
        cases hv : roundFraction q.num.natAbs q.den with
        | none => exact lt_infinite_true _
        | some v =>
          obtain ⟨hqr, hqv⟩ := signed_true_some v
          have hw := roundFraction_nonneg hw
          have hv := roundFraction_nonneg hv
          rw [lt_eq rfl hqr, hqv, decide_eq_false_iff_not, not_lt]
          exact (neg_nonpos.2 hv).trans hw
      · have hle : |q| ≤ |r| := by rwa [abs_of_nonneg hq, abs_of_nonneg hr]
        obtain ⟨v, hv, hvw⟩ := hmagnitude hle w hw
        rw [decide_eq_false (not_lt.2 (Rat.num_nonneg.2 hq)), hv, signed_false_some, lt_eq rfl rfl,
          decide_eq_false_iff_not, not_lt]
        exact hvw

end UnitOfWork.Number
