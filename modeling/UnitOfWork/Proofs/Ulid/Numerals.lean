import Mathlib.Data.List.Induction
import Mathlib.Tactic.Ring
import UnitOfWork.Ulid

/-!
# Numerals of identifiers

An identifier is the numeral of a number in base thirty-two: the time and the random part stand one
behind the other as its high and its low digits (`encode_add`). The numerals of one width are
ordered as texts as their numbers are (`below_encode`), and the next random part is the numeral of
the next number, if the width holds it (`increment?_encode`).
-/

namespace UnitOfWork

/-! ## The order of texts -/

namespace Text

variable {s t : Text}

/-- A text that comes before another one. -/
def Below (s t : Text) : Prop :=
  le s t = true ∧ s ≠ t

/-- Texts compare by their first units, and by the rest where these are equal. -/
theorem below_cons_iff {u v : UInt16} :
    Below (u :: s) (v :: t) ↔ u < v ∨ u = v ∧ Below s t := by
  by_cases huv : u = v
  · subst huv
    simp [Below, le]
  · simp [Below, le, huv]

/-- Of two texts of one length the first difference decides, whatever stands behind. -/
theorem Below.append (h : Below s t) (hlength : s.length = t.length) (x y : Text) :
    Below (s ++ x) (t ++ y) := by
  induction s generalizing t with
  | nil =>
    rw [List.eq_nil_of_length_eq_zero hlength.symm] at h
    exact absurd rfl h.2
  | cons u s ih =>
    cases t with
    | nil => cases hlength
    | cons v t =>
      rw [List.cons_append, List.cons_append, below_cons_iff]
      exact (below_cons_iff.1 h).imp_right fun ⟨huv, hst⟩ => ⟨huv, ih hst (Nat.succ.inj hlength)⟩

/-- A common beginning leaves the order. -/
theorem below_append_left {x y : Text} (s : Text) (h : Below x y) : Below (s ++ x) (s ++ y) := by
  induction s with
  | nil => exact h
  | cons u s ih => exact below_cons_iff.2 (.inr ⟨rfl, ih⟩)

end Text

namespace Ulid

variable {width n m : Nat}

/-! ## Digits -/

/-- A digit is read back. -/
theorem value?_digit : ∀ n < 32, value? (digit n) = some n := by
  decide +kernel

/-- Digits stand in the order of their values. -/
theorem digit_lt_digit : ∀ n < 32, ∀ m < n, digit m < digit n := by
  decide +kernel

/-- Digits are of the alphabet. -/
theorem contains_digit : ∀ n < 32, alphabet.contains (digit n) = true := by
  decide +kernel

/-! ## Numerals of a width -/

/-- A wider numeral has one digit more behind. -/
theorem encode_succ (width n : Nat) : encode (width + 1) n = encode width (n / 32) ++ [digit (n % 32)] :=
  rfl

/-- A numeral has its width. -/
theorem length_encode (width n : Nat) : (encode width n).length = width := by
  induction width generalizing n with
  | zero => rfl
  | succ width ih => rw [encode_succ, List.length_append, ih, List.length_singleton]

/-- Numerals are written in the alphabet. -/
theorem all_contains_encode (width n : Nat) : (encode width n).all alphabet.contains = true := by
  induction width generalizing n with
  | zero => rfl
  | succ width ih =>
    rw [encode_succ, List.all_append, ih, Bool.true_and, List.all_cons, List.all_nil, Bool.and_true]
    exact contains_digit _ (Nat.mod_lt n (by decide))

/-- The high digits and the low digits of a number make its numeral. -/
theorem encode_add (high : Nat) {low width : Nat} (hlow : low < 32 ^ width) (more : Nat) :
    encode more high ++ encode width low = encode (more + width) (high * 32 ^ width + low) := by
  induction width generalizing low with
  | zero =>
    obtain rfl : low = 0 := by omega
    simp [encode]
  | succ width ih =>
    have hdiv : (high * 32 ^ (width + 1) + low) / 32 = high * 32 ^ width + low / 32 := by
      rw [Nat.pow_succ, ← Nat.mul_assoc, Nat.mul_comm, Nat.mul_add_div (by decide)]
    have hmod : (high * 32 ^ (width + 1) + low) % 32 = low % 32 := by
      rw [Nat.pow_succ, ← Nat.mul_assoc, Nat.mul_comm, Nat.mul_add_mod]
    rw [← Nat.add_assoc, encode_succ, encode_succ, hdiv, hmod, ← List.append_assoc, ih]
    rw [Nat.pow_succ] at hlow
    omega

/-- Numerals of one width are in the order of their numbers. -/
theorem below_encode (hlt : m < n) (hn : n < 32 ^ width) :
    Text.Below (encode width m) (encode width n) := by
  induction width generalizing m n with
  | zero => omega
  | succ width ih =>
    rw [Nat.pow_succ] at hn
    rw [encode_succ, encode_succ]
    rcases Nat.lt_or_ge (m / 32) (n / 32) with hhigh | hhigh
    · exact (ih hhigh (by omega)).append (by rw [length_encode, length_encode]) _ _
    · have hsame : m / 32 = n / 32 := by omega
      rw [hsame]
      refine Text.below_append_left _ (Text.below_cons_iff.2 (.inl ?_))
      exact digit_lt_digit _ (Nat.mod_lt n (by decide)) _ (by omega)

/-! ## Random parts -/

/-- Whatever digits are drawn, they are the numeral of a number. -/
theorem exists_encode_of_digits {t : Text} (h : ∀ u ∈ t, ∃ d < 32, u = digit d) :
    ∃ n < 32 ^ t.length, t = encode t.length n := by
  induction t using List.reverseRecOn with
  | nil => exact ⟨0, Nat.one_pos, rfl⟩
  | append_singleton t u ih =>
    obtain ⟨n, hn, ht⟩ := ih fun u hu => h u (List.mem_append_left _ hu)
    obtain ⟨d, hd, rfl⟩ := h u (List.mem_append_right _ (List.mem_singleton_self u))
    refine ⟨n * 32 + d, ?_, ?_⟩
    · rw [List.length_append, List.length_singleton, Nat.pow_succ]
      omega
    · have hdiv : (n * 32 + d) / 32 = n := by omega
      have hmod : (n * 32 + d) % 32 = d := by omega
      rw [List.length_append, List.length_singleton, encode_succ, hdiv, hmod, ← ht]

/-- A random part is a numeral of as many digits as there are bytes. -/
theorem exists_encode_randomPart (bytes : List Nat) :
    ∃ n < 32 ^ bytes.length, randomPart bytes = encode bytes.length n := by
  have hdigits : ∀ u ∈ randomPart bytes, ∃ d < 32, u = digit d := by
    intro u hu
    obtain ⟨byte, -, rfl⟩ := List.mem_map.1 (List.mem_reverse.1 hu)
    exact ⟨_, by rw [base]; omega, rfl⟩
  have hlength : (randomPart bytes).length = bytes.length := by
    rw [randomPart, List.length_reverse, List.length_map]
  exact hlength ▸ exists_encode_of_digits hdigits

/-- The last digit is incremented, or starts over and carries. -/
theorem incrementReversed_digit {d : Nat} (hd : d < 32) (us : Text) :
    incrementReversed (digit d :: us)
      = if d + 1 < 32 then some (digit (d + 1) :: us) else (incrementReversed us).map (digit 0 :: ·) := by
  rw [incrementReversed, value?_digit d hd]
  rfl

/-- Incrementing a numeral encodes the next number, if it fits the width. -/
theorem incrementReversed_encode (hn : n < 32 ^ width) :
    incrementReversed (encode width n).reverse
      = if n + 1 < 32 ^ width then some (encode width (n + 1)).reverse else none := by
  induction width generalizing n with
  | zero =>
    rw [if_neg (by omega)]
    rfl
  | succ width ih =>
    have hd : n % 32 < 32 := Nat.mod_lt n (by decide)
    rw [Nat.pow_succ] at hn ⊢
    rw [encode_succ, List.reverse_append, List.reverse_singleton, List.singleton_append,
      incrementReversed_digit hd, encode_succ, List.reverse_append, List.reverse_singleton,
      List.singleton_append]
    by_cases hcarry : n % 32 + 1 < 32
    · have hdiv : (n + 1) / 32 = n / 32 := by omega
      have hmod : (n + 1) % 32 = n % 32 + 1 := by omega
      rw [if_pos hcarry, if_pos (by omega), hdiv, hmod]
    · have hdiv : (n + 1) / 32 = n / 32 + 1 := by omega
      have hmod : (n + 1) % 32 = 0 := by omega
      rw [if_neg hcarry, ih (by omega), hdiv, hmod]
      by_cases hmore : n / 32 + 1 < 32 ^ width
      · rw [if_pos hmore, if_pos (by omega)]
        rfl
      · rw [if_neg hmore, if_neg (by omega)]
        rfl

/-- The next random part is the numeral of the next number, unless all digits are the greatest. -/
theorem increment?_encode (hn : n < 32 ^ width) :
    increment? (encode width n) = if n + 1 < 32 ^ width then some (encode width (n + 1)) else none := by
  rw [increment?, incrementReversed_encode hn]
  split
  · rw [Option.map_some, List.reverse_reverse]
  · rfl

/-- The numeral of the greatest number of a width. -/
theorem encode_greatest (width : Nat) :
    encode width (32 ^ width - 1) = List.replicate width (digit 31) := by
  induction width with
  | zero => rfl
  | succ width ih =>
    have hpos : 0 < 32 ^ width := Nat.pow_pos (by decide)
    have hdiv : (32 ^ (width + 1) - 1) / 32 = 32 ^ width - 1 := by rw [Nat.pow_succ]; omega
    have hmod : (32 ^ (width + 1) - 1) % 32 = 31 := by rw [Nat.pow_succ]; omega
    rw [encode_succ, hdiv, hmod, ih, List.replicate_succ']

end Ulid

end UnitOfWork
