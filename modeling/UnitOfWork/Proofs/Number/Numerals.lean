import UnitOfWork.Number.Numeral
import UnitOfWork.Proofs.Number.Nearest
import UnitOfWork.Proofs.Text.Digits
import UnitOfWork.Proofs.Text.Trimming

/-!
# Numerals

The number of a numeral is its decimal value, rounded, however far its digits are from the point
(`Numeral.scale_eq_round`). So the digits of a natural number of at most 53 bits stand for it
(`Numeral.scale_natCast`), also where a setting is read as a number (`Number.ofText_ofNat`).
-/

namespace UnitOfWork

variable {n : Nat} {e : Int}

/-! ## Places among the powers of ten -/

/-- A number is at least the power of ten with as many digits. -/
theorem Text.ten_zpow_length_le (h : 0 < n) : (10 : Rat) ^ ((Text.ofNat n).length - 1 : Int) ≤ n := by
  have hlength : 0 < (Text.ofNat n).length := List.length_pos_iff.2 (Text.ofNat_ne_nil n)
  have hle : 10 ^ ((Text.ofNat n).length - 1) ≤ n := by
    rcases Nat.eq_zero_or_pos ((Text.ofNat n).length - 1) with hone | hmore
    · rw [hone]
      exact h
    · by_contra hlt
      have := (Text.length_ofNat_le_iff hmore).2 (not_le.1 hlt)
      omega
  have hcast : ((Text.ofNat n).length - 1 : Int) = (((Text.ofNat n).length - 1 : Nat) : Int) := by omega
  rw [hcast, zpow_natCast]
  exact_mod_cast hle

/-- A number is below the power of ten with one digit more. -/
theorem Text.lt_ten_zpow_length (n : Nat) : (n : Rat) < 10 ^ ((Text.ofNat n).length : Int) := by
  have hlength : 0 < (Text.ofNat n).length := List.length_pos_iff.2 (Text.ofNat_ne_nil n)
  rw [zpow_natCast]
  exact_mod_cast (Text.length_ofNat_le_iff hlength).1 (le_refl _)

/-- Three powers of two are one of eight. -/
theorem ten_zpow_of_three (k : Int) : (2 : Rat) ^ (3 * k) = 8 ^ k := by
  rw [zpow_mul]
  norm_num

/-- A power of ten beyond the far place is too large for a number. -/
theorem two_zpow_le_ten_zpow {k : Int} (h : 400 ≤ k) : (2 : Rat) ^ (1024 : Int) ≤ 10 ^ k :=
  calc (2 : Rat) ^ (1024 : Int) ≤ 2 ^ (3 * k) := zpow_le_zpow_right₀ one_le_two (by omega)
    _ = 8 ^ k := ten_zpow_of_three k
    _ ≤ 10 ^ k := zpow_le_zpow_left₀ (by omega) (by norm_num) (by norm_num)

/-- A power of ten on the other side of it is too small for any but zero. -/
theorem ten_zpow_le_two_zpow {k : Int} (h : k ≤ -400) : (10 : Rat) ^ k ≤ 2 ^ (-1075 : Int) :=
  calc (10 : Rat) ^ k ≤ 8 ^ k := by
        rw [← inv_le_inv₀ (by positivity) (by positivity), ← zpow_neg, ← zpow_neg]
        exact zpow_le_zpow_left₀ (by omega) (by norm_num) (by norm_num)
    _ = 2 ^ (3 * k) := (ten_zpow_of_three k).symm
    _ ≤ 2 ^ (-1075 : Int) := zpow_le_zpow_right₀ one_le_two (by omega)

namespace Numeral

/-- The number of a numeral is its value, rounded. -/
theorem scale_eq_round (n : Nat) (e : Int) :
    scale n (Text.ofNat n).length e = Number.round ((n : Rat) * 10 ^ e) := by
  rcases Nat.eq_zero_or_pos n with rfl | hn
  · rw [Nat.cast_zero, zero_mul]
    rfl
  have hlow := Text.ten_zpow_length_le hn
  have hhigh := Text.lt_ten_zpow_length n
  generalize (Text.ofNat n).length = count at hlow hhigh ⊢
  unfold scale
  rw [if_neg hn.ne', farPlace]
  split
  next hlarge =>
    refine (Number.round_of_large ((two_zpow_le_ten_zpow (k := count - 1 + e) (by omega)).trans ?_)).symm
    rw [zpow_add₀ (by norm_num)]
    gcongr
  next =>
    split
    next hsmall =>
      refine (Number.round_of_small (by positivity) (lt_of_lt_of_le ?_
        (ten_zpow_le_two_zpow (k := count + e) (by omega)))).symm
      rw [zpow_add₀ (by norm_num)]
      gcongr
    next =>
      cases e with
      | ofNat k => simp
      | negSucc k =>
        simp only [Rat.mkRat_eq_div, zpow_negSucc, div_eq_mul_inv, Nat.pow_eq, Nat.cast_pow,
          Int.cast_natCast,
          Nat.cast_ofNat]

end Numeral

/-- A natural number of at most 53 bits is its own rounding. -/
theorem Number.round_natCast (h : n < 2 ^ 53) : round (n : Rat) = finite n :=
  round_intCast (n := (n : Int)) h

/-- An integer number times a hundred is rounded once. -/
theorem Number.ofNat_mul_hundred {n : Nat} (h : n < 2 ^ 53) : ofNat n * 100 = ofNat (n * 100) := by
  have hn : ofNat n = finite n := round_natCast h
  have hhundred : (100 : Number) = finite 100 := round_natCast (n := 100) (by decide)
  rw [hn, hhundred]
  rcases Nat.eq_zero_or_pos n with rfl | hpos
  · rfl
  · have hne : (n : Rat) ≠ 0 := Nat.cast_ne_zero.2 (Nat.pos_iff_ne_zero.1 hpos)
    have hmul : finite (n : Rat) * finite 100 = round (n * 100) := by
      show (finite (n : Rat)).mul (finite 100) = _
      simp only [mul, isZero, hne, decide_false, Bool.false_or]
      rfl
    rw [hmul, ofNat, Nat.cast_mul]
    rfl

/-- A natural number below 2 ^ 53 is finite. -/
theorem Number.isFinite_ofNat (h : n < 2 ^ 53) : (ofNat n).IsFinite := by
  have hvalue : ofNat n = finite n := round_natCast h
  rw [hvalue]
  exact hvalue

/-- The digits of a natural number of at most 53 bits stand for it. -/
theorem Numeral.scale_natCast (h : n < 2 ^ 53) : scale n (Text.ofNat n).length 0 = .finite n := by
  rw [scale_eq_round, zpow_zero, mul_one, Number.round_natCast h]

/-! ## Settings in decimal -/

/-- No digit is blank. -/
theorem Text.isBlank_of_isDigit {u : UInt16} (h : isDigit u = true) : isBlank u = false := by
  have hblanks : blanks.any isDigit = false := by decide
  rw [isBlank, ← Bool.not_eq_true, List.contains_iff_mem]
  exact fun hmem => List.any_eq_false.1 hblanks u hmem h

/-- A digit differs from whatever is none. -/
theorem Text.ne_of_isDigit {u v : UInt16} (h : isDigit u = true) (hv : isDigit v = false) : u ≠ v := by
  rintro rfl
  rw [h] at hv
  cases hv

namespace Numeral

variable {ds : Text}

/-- Digits do not name a base. -/
theorem base?_of_digits (h : ∀ u ∈ ds, Text.isDigit u = true) : base? ds = none := by
  rcases ds with _ | ⟨z, _ | ⟨b, ds⟩⟩
  · rfl
  · rfl
  · have hb := h b (List.mem_cons_of_mem z List.mem_cons_self)
    have hne {v : UInt16} (hv : Text.isDigit v = false) : b ≠ v := Text.ne_of_isDigit hb hv
    have hx : ¬(b = Text.unit 'x' ∨ b = Text.unit 'X') := not_or_intro (hne (by decide)) (hne (by decide))
    have ho : ¬(b = Text.unit 'o' ∨ b = Text.unit 'O') := not_or_intro (hne (by decide)) (hne (by decide))
    have hb : ¬(b = Text.unit 'b' ∨ b = Text.unit 'B') := not_or_intro (hne (by decide)) (hne (by decide))
    rw [base?, if_neg hx, if_neg ho, if_neg hb, ite_self]

/-- Digits have no sign. -/
theorem sign_of_digits (h : ∀ u ∈ ds, Text.isDigit u = true) : sign ds = (false, ds) := by
  cases ds with
  | nil => rfl
  | cons u ds =>
    have hne {v : UInt16} (hv : Text.isDigit v = false) : u ≠ v :=
      Text.ne_of_isDigit (h u List.mem_cons_self) hv
    rw [sign, if_neg (hne (by decide)), if_neg (hne (by decide))]

/-- A run of digits is the numeral of its value. -/
theorem decimal?_of_digits (hne : ds ≠ []) (h : ∀ u ∈ ds, Text.isDigit u = true) :
    decimal? ds = some (scale (Text.digitsValue ds) (Text.ofNat (Text.digitsValue ds)).length 0) := by
  have hspan : (ds ++ []).span Text.isDigit = (ds, []) := Text.span_isDigit_append h nofun
  rw [List.append_nil] at hspan
  have hall : ds.isEmpty = false := List.isEmpty_eq_false_iff.2 hne
  rw [decimal?, digits, hspan]
  simp only [List.append_nil, hall, exponent?, Option.map_some]
  rfl

end Numeral

/-- A number in decimal is read as itself where a setting is read as a number. -/
theorem Number.ofText_ofNat (h : n < 2 ^ 53) : ofText (Text.ofNat n) = finite n := by
  have hdigits : ∀ u ∈ Text.ofNat n, Text.isDigit u = true := fun u hu => Text.isDigit_of_mem_ofNat hu
  have hne := Text.ofNat_ne_nil n
  have htrim : Text.trim (Text.ofNat n) = Text.ofNat n :=
    Text.trim_of_not_blank fun u hu => Text.isBlank_of_isDigit (hdigits u hu)
  have hinfinity : Text.ofNat n ≠ "Infinity" := by
    intro heq
    have hfirst : Text.unit 'I' ∈ Text.ofNat n := by
      rw [heq]
      decide
    exact absurd (hdigits _ hfirst) (by decide)
  rw [ofText, htrim]
  simp only [List.isEmpty_eq_false_iff.2 hne, Numeral.base?_of_digits hdigits, Numeral.signedDecimal?,
    Numeral.sign_of_digits hdigits, if_neg hinfinity, Numeral.decimal?_of_digits hne hdigits,
    Text.digitsValue_ofNat, Numeral.scale_natCast h, Option.map_some, Numeral.signed, Option.getD_some]
  rfl

end UnitOfWork
