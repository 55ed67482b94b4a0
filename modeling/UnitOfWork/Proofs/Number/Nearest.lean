import UnitOfWork.Proofs.Number.Rounding

/-!
# What is rounded to a binary64 value

A positive binary64 value is a significand of 53 bits times a power of two (`exists_dyadic`). Its
neighbours are no nearer than its `2 ^ 53`-rd part, so whatever is nearer than half of that is
rounded to it (`round_of_near`). From `2 ^ 1024` on everything is infinite (`round_of_large`), and
below half of the least value everything is zero (`round_of_small`).
-/

namespace UnitOfWork.Number

variable {num den m : Nat} {e : Int} {q v : Rat}

/-! ## Nearest integers -/

/-- Rounding half to even goes at most half a unit. -/
theorem roundHalfEven_half (hden : 0 < den) (num : Nat) :
    2 * (roundHalfEven num den * den) ≤ 2 * num + den
      ∧ 2 * num ≤ 2 * (roundHalfEven num den * den) + den := by
  have hsplit := Nat.div_add_mod' num den
  have hrest := Nat.mod_lt num hden
  unfold roundHalfEven
  dsimp only
  repeat' split
  all_goals
    try rw [Nat.add_mul]
    omega

/-- An integer less than half a unit from a fraction is what this is rounded to. -/
theorem roundHalfEven_of_near (hden : 0 < den) (hnear : |(num : Rat) / den - m| < 1 / 2) :
    roundHalfEven num den = m := by
  obtain ⟨hlow, hhigh⟩ := roundHalfEven_half hden num
  have hd : (0 : Rat) < den := Nat.cast_pos.2 hden
  obtain ⟨hbelow, habove⟩ := abs_lt.1 hnear
  rw [neg_lt_sub_iff_lt_add] at hbelow
  rw [sub_lt_iff_lt_add, div_lt_iff₀ hd] at habove
  have hbelow' : (2 * (m * den) : Nat) < 2 * num + den := by
    have : (m : Rat) * den < (1 / 2 + num / den) * den := by gcongr
    rw [add_mul, div_mul_cancel₀ _ hd.ne'] at this
    have : (2 * (m * den) : Rat) < 2 * num + den := by linarith
    exact_mod_cast this
  have habove' : 2 * num < 2 * (m * den) + den := by
    have : (2 * num : Rat) < 2 * (m * den) + den := by linarith
    exact_mod_cast this
  have hle : roundHalfEven num den * den < (m + 1) * den := by rw [Nat.add_mul]; omega
  have hge : m * den < (roundHalfEven num den + 1) * den := by rw [Nat.add_mul]; omega
  have := Nat.lt_of_mul_lt_mul_right hle
  have := Nat.lt_of_mul_lt_mul_right hge
  omega

/-! ## Positive rationals -/

/-- The place of the last bit around a positive rational. -/
def place (q : Rat) : Int :=
  max (Int.log 2 q - 52) (-1074)

/-- A positive number is its numerator by its denominator. -/
theorem natAbs_num_div_den (hq : 0 < q) : (q.num.natAbs : Rat) / q.den = q := by
  have habs : (q.num.natAbs : Int) = q.num := Int.natAbs_of_nonneg (Rat.num_nonneg.2 hq.le)
  rw [← Int.cast_natCast, habs, Rat.num_div_den]

/-- The numerator of a positive number is positive. -/
theorem natAbs_num_pos (hq : 0 < q) : 0 < q.num.natAbs :=
  Int.natAbs_pos.2 (Rat.num_pos.2 hq).ne'

/-- The last place of a fraction is that of its value. -/
theorem lastPlace_num_den (hq : 0 < q) : lastPlace q.num.natAbs q.den = place q := by
  rw [lastPlace_eq (natAbs_num_pos hq) q.den_pos, natAbs_num_div_den hq, place]

/-- A positive number is rounded as a fraction. -/
theorem round_of_pos (hq : 0 < q) : round q = signed false (roundFraction q.num.natAbs q.den) := by
  rw [round_eq, decide_eq_false (not_lt.2 (Rat.num_nonneg.2 hq.le))]

/-- A positive rational less than half a unit of its last place from a multiple of that unit is
rounded to the multiple, if this is not too large. -/
theorem round_of_near_multiple (hq : 0 < q) (hnear : |q - m * 2 ^ place q| < 2 ^ place q / 2)
    (hfits : ¬(maxExponent < place q ∨ place q = maxExponent ∧ 2 ^ precision ≤ m)) :
    round q = finite (m * 2 ^ place q) := by
  have hunit : (0 : Rat) < 2 ^ place q := by positivity
  have hscaled := scaled_div q.num.natAbs q.den (place q)
  rw [natAbs_num_div_den hq] at hscaled
  have hsignificand : significand q.num.natAbs q.den = m := by
    rw [significand, lastPlace_num_den hq]
    refine roundHalfEven_of_near (scaled_den_pos q.den_pos _ _) ?_
    rw [hscaled, div_sub' hunit.ne', abs_div, abs_of_pos hunit, div_lt_iff₀ hunit]
    rw [mul_comm (2 ^ place q : Rat), one_div, inv_mul_eq_div]
    exact hnear
  rw [round_of_pos hq, roundFraction_eq (natAbs_num_pos hq), hsignificand, lastPlace_num_den hq,
    if_neg hfits,
    signed_false_some]

/-- A number has at most 53 places from its last upwards. -/
theorem lt_two_zpow_place (q : Rat) : q < 2 ^ 53 * 2 ^ place q := by
  refine (Int.lt_zpow_succ_log_self Nat.one_lt_two q).trans_le ?_
  rw [← zpow_natCast, ← zpow_add₀ two_ne_zero]
  exact zpow_le_zpow_right₀ one_le_two (by rw [place]; push_cast; omega)

/-- A positive binary64 value is a significand times a power of two. -/
theorem exists_dyadic (hv : 0 < v) (hround : round v = finite v) :
    ∃ m : Nat, m < 2 ^ 53 ∧ place v ≤ maxExponent ∧ v = m * 2 ^ place v := by
  rw [round_of_pos hv, roundFraction_eq (natAbs_num_pos hv), lastPlace_num_den hv] at hround
  split at hround
  next => cases hround
  next hfits =>
    rw [signed_false_some, finite.injEq] at hround
    refine ⟨_, ?_, by omega, hround.symm⟩
    have hlt := lt_two_zpow_place v
    nth_rewrite 1 [← hround] at hlt
    have := lt_of_mul_lt_mul_right hlt (by positivity)
    exact_mod_cast this

/-- A number of at least 53 places above a place has its last place there or above. -/
theorem le_place_of_le {k : Int} (hq : 0 < q) (h : (2 : Rat) ^ (k + 52) ≤ q) : k ≤ place q := by
  have := (Int.zpow_le_iff_le_log Nat.one_lt_two hq).1 h
  rw [place]
  omega

/-- A number of at most 53 places above a place has its last place there or below, if there is such
a place.
-/
theorem place_le_of_lt {k : Int} (hq : 0 < q) (hk : -1074 ≤ k) (h : q < 2 ^ (k + 53)) : place q ≤ k := by
  have := (Int.lt_zpow_iff_log_lt Nat.one_lt_two hq).1 h
  rw [place]
  omega

/-- Above the least place a rational has all its bits. -/
theorem two_zpow_le_of_place (hq : 0 < q) (h : -1074 < place q) : (2 : Rat) ^ (place q + 52) ≤ q := by
  refine (Int.zpow_le_iff_le_log (b := 2) Nat.one_lt_two hq).2 ?_
  rw [place] at h ⊢
  omega

/-- A power of two, 52 places up. -/
theorem two_zpow_add_fiftyTwo (k : Int) : (2 : Rat) ^ (k + 52) = 2 ^ 52 * 2 ^ k := by
  rw [zpow_add₀ two_ne_zero, mul_comm]
  norm_num

/-- What is nearer to a value than half of its unit has no greater unit. -/
theorem place_le_of_near (hq : 0 < q) (hm : m < 2 ^ 53) (hdyadic : v = m * 2 ^ place v)
    (hnear : q < v + 2 ^ place v / 2) : place q ≤ place v := by
  refine place_le_of_lt hq (by rw [place]; omega) ?_
  have hm' : (m : Rat) ≤ 2 ^ 53 - 1 := by
    rw [le_sub_iff_add_le]
    exact_mod_cast hm
  have hvalue : v ≤ (2 ^ 53 - 1) * 2 ^ place v := by
    nth_rewrite 1 [hdyadic]
    gcongr
  have hunit : (0 : Rat) < 2 ^ place v := by positivity
  rw [zpow_add₀ two_ne_zero]
  norm_num at hvalue ⊢
  linarith

/-- A value is a power of two if what is nearer to it than half of its unit has a lesser unit. -/
theorem eq_power_of_place_lt (hv : 0 < v) (hq : 0 < q) (hdyadic : v = m * 2 ^ place v)
    (hnear : v < q + 2 ^ place v / 2) (hlt : place q < place v) : v = 2 ^ 52 * 2 ^ place v := by
  have hunit : (0 : Rat) < 2 ^ place v := by positivity
  have hbits := two_zpow_le_of_place hv (lt_of_le_of_lt (by rw [place]; omega) hlt)
  have hqlt : q < 2 ^ (place v + 52) := by
    by_contra hge
    have := le_place_of_le hq (not_lt.1 hge)
    omega
  rw [two_zpow_add_fiftyTwo] at hbits hqlt
  have hbelow : (m : Rat) * 2 ^ place v < (2 ^ 52 + 1) * 2 ^ place v := by
    rw [← hdyadic]
    linarith
  have habove : (2 : Rat) ^ 52 * 2 ^ place v ≤ m * 2 ^ place v := by rwa [← hdyadic]
  have hle : m < 2 ^ 52 + 1 := by exact_mod_cast lt_of_mul_lt_mul_right hbelow hunit.le
  have hge : 2 ^ 52 ≤ m := by exact_mod_cast le_of_mul_le_mul_right habove hunit
  obtain rfl : m = 2 ^ 52 := by omega
  exact_mod_cast hdyadic

/-- Below a power of two the units are half as great, and the power is a multiple of them. -/
theorem round_of_near_power (hq : 0 < q) (hfits : place v ≤ maxExponent)
    (hpower : v = 2 ^ 52 * 2 ^ place v)
    (hnear : |q - v| < v / 2 ^ 54) (hlt : place q < place v) : round q = finite v := by
  have hunit : (2 : Rat) ^ place v = 2 * 2 ^ (place v - 1) := by
    rw [← zpow_one_add₀ two_ne_zero]
    congr 1
    omega
  have hvalue : v = ((2 ^ 53 : Nat) : Rat) * 2 ^ (place v - 1) := by
    nth_rewrite 1 [hpower]
    rw [hunit]
    push_cast
    ring
  have hplace : place q = place v - 1 := by
    refine le_antisymm (by omega) (le_place_of_le hq ?_)
    have hbelow := (abs_lt.1 hnear).1
    rw [two_zpow_add_fiftyTwo]
    push_cast at hvalue
    linarith
  rw [hvalue, ← hplace]
  refine round_of_near_multiple hq ?_ (by rw [hplace]; omega)
  rw [hplace, ← hvalue]
  push_cast at hvalue
  linarith

/-- What is less than the `2 ^ 54`-th part away from a positive binary64 value is rounded to it. -/
theorem round_of_near (hv : 0 < v) (hround : round v = finite v) (hnear : |q - v| < v / 2 ^ 54) :
    round q = finite v := by
  obtain ⟨m, hm, hfits, hdyadic⟩ := exists_dyadic hv hround
  have hhalf : |q - v| < 2 ^ place v / 2 := by
    have := lt_two_zpow_place v
    linarith
  have hq : 0 < q := by
    have := (abs_lt.1 hnear).1
    linarith
  obtain ⟨hbelow, habove⟩ := abs_lt.1 hhalf
  rcases Int.lt_or_eq_of_le (place_le_of_near hq hm hdyadic (by linarith)) with hlt | heq
  · exact round_of_near_power hq hfits (eq_power_of_place_lt hv hq hdyadic (by linarith) hlt) hnear hlt
  · rw [hdyadic, ← heq]
    refine round_of_near_multiple hq ?_ (by rw [heq, precision]; omega)
    rwa [heq, ← hdyadic]

/-! ## Signs -/

/-- A number whose zero has no sign. -/
def unsigned : Number → Number
  | negativeZero => finite 0
  | x => x

/-- A finite binary64 value. -/
def IsFinite : Number → Prop
  | negativeZero => True
  | finite q => round q = finite q
  | nan | infinite _ => False

/-- The other sign makes the negative number. -/
theorem signed_not (negative : Bool) (v? : Option Rat) :
    signed (!negative) v? = (signed negative v?).neg := by
  cases v? with
  | none => rfl
  | some v =>
    rw [signed, signed]
    split
    next => cases negative <;> rfl
    next hv => cases negative <;> simp [neg, hv]

/-- The opposite of a rational is rounded to the opposite number. -/
theorem round_neg (hq : q ≠ 0) : round (-q) = (round q).neg := by
  have hsign : decide ((-q).num < 0) = !decide (q.num < 0) := by
    have := Rat.num_ne_zero.2 hq
    rw [Rat.num_neg_eq_neg_num, ← decide_not, decide_eq_decide]
    omega
  rw [round_eq, round_eq, hsign, signed_not, Rat.num_neg_eq_neg_num, Int.natAbs_neg, Rat.den_neg_eq_den]

/-! ## Too large and too small -/

/-- From `2 ^ 1024` on everything is infinite. -/
theorem round_of_large (h : 2 ^ (1024 : Int) ≤ q) : round q = infinite false := by
  have hq : 0 < q := lt_of_lt_of_le (by positivity) h
  have hplace : 972 ≤ place q := le_place_of_le hq h
  have hlarge : maxExponent < place q := by
    rw [maxExponent]
    omega
  rw [round_of_pos hq, roundFraction_eq (natAbs_num_pos hq), lastPlace_num_den hq, if_pos (.inl hlarge)]
  rfl

/-- Below half of the least positive value everything is zero. -/
theorem round_of_small (hq : 0 < q) (h : q < 2 ^ (-1075 : Int)) : round q = finite 0 := by
  have hhalf : (2 : Rat) ^ (-1075 : Int) = 2 ^ (-1074 : Int) / 2 := by
    rw [div_eq_mul_inv, ← zpow_sub_one₀ two_ne_zero]
    norm_num
  have hunit : (0 : Rat) < 2 ^ (-1074 : Int) := by positivity
  have hplace : place q = -1074 := by
    refine le_antisymm (place_le_of_lt hq (le_refl _) (h.trans ?_)) (by rw [place]; omega)
    exact zpow_lt_zpow_right₀ one_lt_two (by decide)
  have hround := round_of_near_multiple (m := 0) hq (by
    rw [hplace, Nat.cast_zero, zero_mul, sub_zero, abs_of_pos hq, ← hhalf]
    exact h) (by rw [hplace, maxExponent]; omega)
  rwa [Nat.cast_zero, zero_mul] at hround

end UnitOfWork.Number
