import Mathlib.Data.List.Basic
import Mathlib.Data.List.Induction
import Mathlib.Data.List.TakeDrop
import Mathlib.Tactic.Ring
import UnitOfWork.Text.Basic

/-!
# Decimal digits

`Text.ofNat` writes a natural number in decimal and `Text.digitsValue` reads a run of digits.
Reading undoes writing (`digitsValue_ofNat`), also behind zeros, and a number has as many digits as
its place among the powers of ten says (`length_ofNat_le_iff`).
-/

namespace UnitOfWork.Text

variable {n k : Nat} {u : UInt16} {t : Text}

/-- The digits are the units from 48 to 57. -/
theorem isDigit_iff : isDigit u = true ↔ 48 ≤ u.toNat ∧ u.toNat ≤ 57 := by
  rw [isDigit, Bool.and_eq_true, decide_eq_true_eq, decide_eq_true_eq, UInt16.le_iff_toNat_le,
    UInt16.le_iff_toNat_le]
  rfl

/-- The digits stand in order from 48 on. -/
theorem toNat_ofDigit (h : n < 10) : (ofDigit n).toNat = 48 + n := by
  rw [ofDigit, Nat.toUInt16_eq, UInt16.toNat_ofNat']
  omega

/-- The unit of a digit is one. -/
theorem isDigit_ofDigit (h : n < 10) : isDigit (ofDigit n) = true := by
  rw [isDigit_iff, toNat_ofDigit h]
  omega

/-- The unit of a digit is read as that digit. -/
theorem digit_ofDigit (h : n < 10) : digit (ofDigit n) = n := by
  rw [digit, toNat_ofDigit h]
  omega

/-- The character of a digit has its unit. -/
theorem unit_digitChar : ∀ d < 10, unit (Nat.digitChar d) = ofDigit d := by
  decide

/-! ## Writing -/

/-- A number below ten is written with one digit. -/
theorem ofNat_of_lt (h : n < 10) : ofNat n = [ofDigit n] := by
  rw [ofNat, Nat.toDigits_of_lt_base h, List.map_singleton, unit_digitChar n h]

/-- A number from ten on is written with its last digit behind the others. -/
theorem ofNat_of_le (h : 10 ≤ n) : ofNat n = ofNat (n / 10) ++ [ofDigit (n % 10)] := by
  rw [ofNat, Nat.toDigits_of_base_le (by decide) h, List.map_append, List.map_singleton,
    unit_digitChar _ (Nat.mod_lt n (by decide))]
  rfl

/-- Every number has a digit. -/
theorem ofNat_ne_nil (n : Nat) : ofNat n ≠ [] := by
  rw [ofNat, Ne, List.map_eq_nil_iff]
  exact Nat.toDigits_ne_nil

/-- Numbers are written with digits alone. -/
theorem isDigit_of_mem_ofNat (h : u ∈ ofNat n) : isDigit u = true := by
  induction n using Nat.strongRecOn with
  | ind n ih =>
    rcases Nat.lt_or_ge n 10 with hn | hn
    · rw [ofNat_of_lt hn, List.mem_singleton] at h
      rw [h]
      exact isDigit_ofDigit hn
    · rw [ofNat_of_le hn, List.mem_append, List.mem_singleton] at h
      rcases h with h | h
      · exact ih (n / 10) (by omega) h
      · rw [h]
        exact isDigit_ofDigit (by omega)

/-- A number has at most so many digits if it is below that power of ten. -/
theorem length_ofNat_le_iff (h : 0 < k) : (ofNat n).length ≤ k ↔ n < 10 ^ k := by
  rw [ofNat, List.length_map]
  exact Nat.length_toDigits_le_iff (by decide) h

/-- The first digit of a number above zero is not zero. -/
theorem head?_ofNat_ne_zero (h : 0 < n) : (ofNat n).head? ≠ some (unit '0') := by
  induction n using Nat.strongRecOn with
  | ind n ih =>
    rcases Nat.lt_or_ge n 10 with hn | hn
    · rw [ofNat_of_lt hn, List.head?_singleton, Ne, Option.some.injEq, ← UInt16.toNat_inj,
        toNat_ofDigit hn]
      have hzero : (unit '0').toNat = 48 := rfl
      omega
    · rw [ofNat_of_le hn, List.head?_append_of_ne_nil _ (ofNat_ne_nil _)]
      exact ih (n / 10) (by omega) (by omega)

/-! ## Reading -/

/-- One more digit counts ten times what came before. -/
theorem digitsValue_concat (t : Text) (u : UInt16) :
    digitsValue (t ++ [u]) = 10 * digitsValue t + digit u := by
  rw [digitsValue, List.foldl_append, List.foldl_cons, List.foldl_nil]
  rfl

/-- Digits before others count by the power of ten of how many these are. -/
theorem digitsValue_append (s t : Text) :
    digitsValue (s ++ t) = digitsValue s * 10 ^ t.length + digitsValue t := by
  induction t using List.reverseRecOn with
  | nil => simp [digitsValue]
  | append_singleton t u ih =>
    rw [← List.append_assoc, digitsValue_concat, ih, digitsValue_concat, List.length_append,
      List.length_singleton]
    ring

/-- Reading undoes writing. -/
theorem digitsValue_ofNat (n : Nat) : digitsValue (ofNat n) = n := by
  induction n using Nat.strongRecOn with
  | ind n ih =>
    rcases Nat.lt_or_ge n 10 with hn | hn
    · rw [ofNat_of_lt hn, ← List.nil_append [ofDigit n], digitsValue_concat, digit_ofDigit hn]
      exact Nat.zero_add n
    · rw [ofNat_of_le hn, digitsValue_concat, ih (n / 10) (by omega), digit_ofDigit (by omega)]
      omega

/-- Zeros are worth nothing. -/
theorem digitsValue_zeros (k : Nat) : digitsValue (List.replicate k (unit '0')) = 0 := by
  induction k with
  | zero => rfl
  | succ k ih =>
    rw [List.replicate_succ', digitsValue_concat, ih]
    rfl

/-- Zeros in front change no value. -/
theorem digitsValue_zeros_append (k : Nat) (t : Text) :
    digitsValue (List.replicate k (unit '0') ++ t) = digitsValue t := by
  rw [digitsValue_append, digitsValue_zeros, Nat.zero_mul, Nat.zero_add]

/-- Zeros behind multiply by a power of ten. -/
theorem digitsValue_append_zeros (t : Text) (k : Nat) :
    digitsValue (t ++ List.replicate k (unit '0')) = digitsValue t * 10 ^ k := by
  rw [digitsValue_append, digitsValue_zeros, List.length_replicate, Nat.add_zero]

/-! ## Runs of digits -/

/-- Zeros are digits. -/
theorem isDigit_of_mem_zeros (h : u ∈ List.replicate k (unit '0')) : isDigit u = true := by
  rw [List.eq_of_mem_replicate h]
  decide

/-- A run of digits that goes no further is read to its end. -/
theorem span_isDigit_append {ds rest : Text} (hds : ∀ u ∈ ds, isDigit u = true)
    (hrest : ∀ u, rest.head? = some u → isDigit u = false) : (ds ++ rest).span isDigit = (ds, rest) := by
  rw [List.span_eq_takeWhile_dropWhile, List.takeWhile_append_of_pos hds,
    List.dropWhile_append_of_pos hds]
  cases rest with
  | nil => rw [List.takeWhile_nil, List.append_nil, List.dropWhile_nil]
  | cons u rest =>
    have hu := hrest u rfl
    rw [List.takeWhile_cons, hu, List.dropWhile_cons, hu, if_neg Bool.false_ne_true,
      if_neg Bool.false_ne_true, List.append_nil]

end UnitOfWork.Text
