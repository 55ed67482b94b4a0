import Mathlib.Data.Nat.Cast.Order.Field
import UnitOfWork.Number.Shortest
import UnitOfWork.Proofs.Number.Numerals

/-!
# The shortest decimal reads back

On the grid of seventeen digits around a positive binary64 value one of its two neighbours is less
than the `2 ^ 54`-th part of it away, and so is rounded to it. The search for the shortest decimal
therefore ends with one that reads back (`Decimal.round_shortest`).
-/

namespace UnitOfWork.Decimal

variable {num den n left : Nat} {e : Int} {v : Rat} {d : Decimal}

/-- The value of a decimal is its digits times the power of ten. -/
theorem value_eq (d : Decimal) : d.value = d.digits * 10 ^ d.exponent := by
  obtain ⟨digits, e⟩ := d
  cases e with
  | ofNat k => simp [value]
  | negSucc k =>
    simp only [value, Rat.mkRat_eq_div, zpow_negSucc, div_eq_mul_inv, Nat.pow_eq, Nat.cast_pow,
      Int.cast_natCast, Nat.cast_ofNat]

/-! ## Places -/

/-- The successor of a number is at most the power of ten with one digit more. -/
theorem succ_le_ten_zpow_length (n : Nat) : (n + 1 : Rat) ≤ 10 ^ ((Text.ofNat n).length : Int) := by
  have h := Text.lt_ten_zpow_length n
  rw [zpow_natCast] at h ⊢
  exact_mod_cast h

/-- A positive fraction lies between the two powers of ten around its count of digits. -/
theorem ten_zpow_magnitude (hnum : 0 < num) (hden : 0 < den) :
    (10 : Rat) ^ (magnitude num den - 1) ≤ num / den ∧ (num / den : Rat) < 10 ^ magnitude num den := by
  have hd : (0 : Rat) < den := Nat.cast_pos.2 hden
  have hn : (0 : Rat) < num := Nat.cast_pos.2 hnum
  unfold magnitude
  split
  next hle =>
    have hbelow := Text.ten_zpow_length_le (Nat.div_pos hle hden)
    refine ⟨hbelow.trans Nat.cast_div_le, lt_of_lt_of_le ?_ (succ_le_ten_zpow_length _)⟩
    rw [div_lt_iff₀ hd, mul_comm]
    exact_mod_cast Nat.lt_mul_div_succ num hden
  next hlt =>
    -- The inverse lies between a natural number and the next one.
    generalize hm : (den + num - 1) / num - 1 = m
    have hmul := Nat.div_add_mod' (den + num - 1) num
    have hmod := Nat.mod_lt (den + num - 1) hnum
    have hquot : 2 ≤ (den + num - 1) / num := (Nat.le_div_iff_mul_le hnum).2 (by omega)
    have hquot' : (den + num - 1) / num = m + 1 := by omega
    rw [hquot', Nat.add_mul] at hmul
    have hlow : (m * num : Rat) < den := by exact_mod_cast (by omega : m * num < den)
    have hhigh : (den : Rat) ≤ (m + 1) * num := by
      have : den ≤ (m + 1) * num := by rw [Nat.add_mul]; omega
      exact_mod_cast this
    have hbelow := Text.ten_zpow_length_le (n := m) (by omega)
    have habove := succ_le_ten_zpow_length m
    generalize ((Text.ofNat m).length : Int) = k at hbelow habove
    constructor
    · rw [sub_sub_cancel_left, zpow_neg, inv_le_comm₀ (by positivity) (by positivity), inv_div,
        div_le_iff₀ hn]
      exact hhigh.trans (by gcongr)
    · rw [← neg_sub, zpow_neg, lt_inv_comm₀ (by positivity) (by positivity), inv_div, lt_div_iff₀ hn]
      exact lt_of_le_of_lt (by gcongr) hlow

/-- A fraction lies between its two neighbours on a grid. -/
theorem floorAt_spec (num : Nat) (hden : 0 < den) (e : Int) :
    (floorAt num den e : Rat) * 10 ^ e ≤ num / den
      ∧ (num / den : Rat) < (floorAt num den e + 1) * 10 ^ e := by
  have hd : (0 : Rat) < den := Nat.cast_pos.2 hden
  cases e with
  | ofNat k =>
    have hpos : 0 < den * 10 ^ k := by positivity
    rw [Int.ofNat_eq_natCast, zpow_natCast, le_div_iff₀ hd, div_lt_iff₀ hd, mul_assoc, mul_assoc,
      mul_comm ((10 : Rat) ^ k)]
    have hlow := Nat.div_mul_le_self num (den * 10 ^ k)
    have hhigh := Nat.lt_div_mul_add hpos (a := num)
    rw [← Nat.succ_mul] at hhigh
    exact ⟨by exact_mod_cast hlow, by exact_mod_cast hhigh⟩
  | negSucc k =>
    rw [zpow_negSucc, ← div_eq_mul_inv, ← div_eq_mul_inv, div_le_div_iff₀ (by positivity) hd,
      div_lt_div_iff₀ hd (by positivity)]
    have hlow := Nat.div_mul_le_self (num * 10 ^ (k + 1)) den
    have hhigh := Nat.lt_div_mul_add hden (a := num * 10 ^ (k + 1))
    rw [← Nat.succ_mul] at hhigh
    exact ⟨by exact_mod_cast hlow, by exact_mod_cast hhigh⟩

/-- A step of the grid of seventeen digits is small beside a value with its first digit before the
place `k`. -/
theorem step_lt {k : Int} (h : (10 : Rat) ^ (k - 1) ≤ v) :
    (10 : Rat) ^ (k - maxDigits) < 2 * (v / 2 ^ 54) := by
  have hsplit : (10 : Rat) ^ (k - 1) = 10 ^ 16 * 10 ^ (k - maxDigits) := by
    rw [← zpow_natCast, ← zpow_add₀ (by norm_num)]
    congr 1
    rw [maxDigits]
    omega
  have hpos : (0 : Rat) < 10 ^ (k - maxDigits) := by positivity
  rw [hsplit] at h
  linarith

/-- One of the two neighbours is at most half a step away. -/
theorem near_neighbour {f g b : Rat} (hbelow : f * g ≤ v) (habove : v < (f + 1) * g) (hstep : g < 2 * b) :
    |f * g - v| < b ∨ |(f + 1) * g - v| < b := by
  rcases lt_or_ge (v - f * g) b with hdown | hdown
  · left
    rw [abs_sub_comm, abs_of_nonneg (by linarith)]
    exact hdown
  · right
    rw [abs_of_nonneg (by linarith)]
    linarith

/-! ## The search -/

/-- The nearer of two decimals is one of them. -/
theorem nearer_eq (v : Rat) (below above : Decimal) :
    nearer v below above = below ∨ nearer v below above = above := by
  unfold nearer
  dsimp only
  split
  · exact .inl rfl
  · split
    · exact .inr rfl
    · split
      · exact .inl rfl
      · exact .inr rfl

/-- A decimal that is found reads back. -/
theorem round_of_withDigits? (h : withDigits? v n = some d) : Number.round d.value = .finite v := by
  unfold withDigits? at h
  dsimp only at h
  split at h
  next hbelow habove =>
    cases h
    rcases nearer_eq v _ _ with heq | heq
    · exact (congrArg (fun d => Number.round d.value) heq).trans (of_decide_eq_true hbelow)
    · exact (congrArg (fun d => Number.round d.value) heq).trans (of_decide_eq_true habove)
  next hbelow _ =>
    cases h
    exact of_decide_eq_true hbelow
  next _ habove =>
    cases h
    exact of_decide_eq_true habove
  next => cases h

/-- Seventeen digits are enough. -/
theorem exists_withDigits? (hv : 0 < v) (hround : Number.round v = .finite v) :
    ∃ d, withDigits? v maxDigits = some d := by
  obtain ⟨hlow, -⟩ := ten_zpow_magnitude (Number.natAbs_num_pos hv) v.den_pos
  obtain ⟨hbelow, habove⟩ :=
    floorAt_spec v.num.natAbs v.den_pos (magnitude v.num.natAbs v.den - maxDigits)
  rw [Number.natAbs_num_div_den hv] at hlow hbelow habove
  unfold withDigits?
  dsimp only
  generalize magnitude v.num.natAbs v.den = k at hlow hbelow habove ⊢
  generalize floorAt v.num.natAbs v.den (k - maxDigits) = f at hbelow habove ⊢
  rcases near_neighbour hbelow habove (step_lt hlow) with hdown | hup
  · have hreads := Number.round_of_near hv hround hdown
    rw [← value_eq ⟨f, k - maxDigits⟩] at hreads
    rw [decide_eq_true hreads]
    cases decide (Number.round (value ⟨f + 1, k - maxDigits⟩) = .finite v) <;> exact ⟨_, rfl⟩
  · rw [← Nat.cast_succ] at hup
    have hreads := Number.round_of_near hv hround hup
    rw [← value_eq ⟨f + 1, k - maxDigits⟩] at hreads
    rw [decide_eq_true hreads]
    cases decide (Number.round (value ⟨f, k - maxDigits⟩) = .finite v) <;> exact ⟨_, rfl⟩

/-- A search for enough digits finds a decimal that is rounded to the number, if there is one in
reach. -/
theorem round_searchFrom (h : ∃ i ≤ left, ∃ d, withDigits? v (n + i) = some d) :
    Number.round (searchFrom v left n).value = .finite v := by
  induction left generalizing n with
  | zero =>
    obtain ⟨i, hi, d, hd⟩ := h
    obtain rfl := Nat.le_zero.1 hi
    rw [Nat.add_zero] at hd
    rw [searchFrom, hd]
    exact round_of_withDigits? hd
  | succ left ih =>
    rw [searchFrom]
    cases hn : withDigits? v n with
    | some d => exact round_of_withDigits? hn
    | none =>
      obtain ⟨i, hi, d, hd⟩ := h
      refine ih ⟨i - 1, by omega, d, ?_⟩
      cases i with
      | zero => rw [Nat.add_zero, hn] at hd; cases hd
      | succ i => rwa [Nat.add_sub_cancel, Nat.add_assoc, Nat.add_comm 1]

/-- The shortest decimal of a positive binary64 value reads back. -/
theorem round_shortest (hv : 0 < v) (hround : Number.round v = .finite v) :
    Number.round (shortest v).value = .finite v :=
  round_searchFrom ⟨maxDigits - 1, le_refl _, exists_withDigits? hv hround⟩

end UnitOfWork.Decimal
