import UnitOfWork.Proofs.Config.Reading
import UnitOfWork.Proofs.Number.Moment

/-!
# The numbers of a configuration

A configuration that was loaded holds whole numbers that keep their bounds, whatever values the
environment gave for them (`Config.load_numbers`). A whole number that keeps a bound is the natural
number that it stands for.
-/

namespace UnitOfWork

namespace Number

/-- An integer above zero is the number of a positive natural number. -/
theorem exists_eq_natCast {x : Number} (h : x.isInteger = true) (hpos : Number.lt 0 x = true) :
    ∃ n : Nat, 1 ≤ n ∧ x = .finite (n : Int) := by
  rw [zero_eq] at hpos
  cases x with
  | nan => cases h
  | infinite a => cases h
  | negativeZero => cases hpos
  | finite q =>
    obtain ⟨k, hk⟩ := exists_value_eq h
    rw [value_finite] at hk
    subst hk
    rw [lt_eq rfl rfl, value_finite, value_finite] at hpos
    have hk' : 0 < k := by exact_mod_cast of_decide_eq_true hpos
    obtain ⟨n, rfl⟩ := Int.eq_ofNat_of_zero_le hk'.le
    exact ⟨n, by omega, rfl⟩

/-- An integer of at least zero is the number of a natural number, or the other zero. -/
theorem exists_eq_natCast_or_negativeZero {x : Number} (h : x.isInteger = true)
    (hnonneg : Number.le 0 x = true) : ∃ n : Nat, x = .finite (n : Int) ∨ x = .negativeZero ∧ n = 0 := by
  rw [zero_eq] at hnonneg
  cases x with
  | nan => cases h
  | infinite a => cases h
  | negativeZero => exact ⟨0, .inr ⟨rfl, rfl⟩⟩
  | finite q =>
    obtain ⟨k, hk⟩ := exists_value_eq h
    rw [value_finite] at hk
    subst hk
    rw [le_eq rfl rfl, value_finite, value_finite] at hnonneg
    have hk' : 0 ≤ k := by exact_mod_cast of_decide_eq_true hnonneg
    obtain ⟨n, rfl⟩ := Int.eq_ofNat_of_zero_le hk'
    exact ⟨n, .inl rfl⟩

/-- A number with an integral value is read as that integer. -/
theorem toInt?_finite (n : Int) : (finite n).toInt? = some n := by
  rw [toInt?, Rat.den_intCast, if_pos rfl, Rat.num_intCast]

end Number

namespace Config

/-- A whole number that keeps a bound. -/
def Whole (bound : Bound) (x : Number) : Prop :=
  x.isInteger = true ∧ bound.keeps x = true

/-- A number that passes its check comes out as it went in, whole and in bounds. -/
theorem checkNumber_eq_ok {setting : Text} {bound : Bound} {x y : Number}
    (h : checkNumber setting bound x = .ok y) : Whole bound y := by
  unfold checkNumber at h
  split at h
  · cases h
  · by_cases hinteger : x.isInteger = true
    · by_cases hkeeps : bound.keeps x = true
      · simp only [hinteger, hkeeps, if_true, List.append_nil] at h
        cases h
        exact ⟨hinteger, hkeeps⟩
      · simp [hinteger, hkeeps] at h
    · simp [hinteger] at h

/-- A setting that is read is whole and keeps its bound, if the default does. -/
theorem number_eq_ok {setting : Text} {default x : Number} {bound : Bound} {v : Option Json}
    (hdefault : Whole bound default) (h : number setting default bound v = .ok (.ok x)) :
    Whole bound x := by
  cases v with
  | none =>
    cases h
    exact hdefault
  | some v =>
    unfold number at h
    dsimp only at h
    split at h
    · exact checkNumber_eq_ok (Except.ok.inj h)
    · cases h

/-- Each default keeps its bound. -/
theorem whole_defaults : Whole .positive 10 ∧ Whole .nonnegative 5000 :=
  ⟨⟨rfl, rfl⟩, rfl, rfl⟩

/-- The numbers that are read for a configuration are whole and keep their bounds. -/
theorem Reads.numbers {env : Json.Members} {c : Config} (h : Reads env c) :
    Whole .positive c.poolSize ∧ Whole .positive c.connectTimeoutSeconds
      ∧ Whole .nonnegative c.queueTimeoutMs :=
  ⟨number_eq_ok whole_defaults.1 h.poolSize, number_eq_ok whole_defaults.1 h.connectTimeoutSeconds,
    number_eq_ok whole_defaults.2 h.queueTimeoutMs⟩

/-- The numbers of a configuration that was loaded are whole and keep their bounds. -/
theorem load_numbers {env : Json} {c : Config} (h : load env = .ok c) :
    Whole .positive c.poolSize ∧ Whole .positive c.connectTimeoutSeconds
      ∧ Whole .nonnegative c.queueTimeoutMs := by
  cases env with
  | obj members => exact (ofMembers_eq_ok_iff.1 h).numbers
  | _ => cases h

end Config

end UnitOfWork
