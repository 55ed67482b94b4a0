import Mathlib.Data.List.DropRight
import UnitOfWork.Json.Parser
import UnitOfWork.Proofs.Number.Shortest

/-!
# Numerals that are written

A number is written as a numeral in one of five layouts. Each of them is read as the decimal that it
lays out, rounded (`numeral?_layout`); so the text of a finite number is read as that number, its
zero without a sign (`numeral?_text`).
-/

namespace UnitOfWork

/-! ## Digits without the zeros at their end -/

namespace Number

variable {D : Nat}

/-- The digits of a number are its significant ones and then zeros. -/
theorem significant_append_zeros (D : Nat) :
    ∃ k, Text.ofNat D = significant D ++ List.replicate k (Text.unit '0') := by
  have hzeros : ∀ u ∈ (Text.ofNat D).rtakeWhile (· = Text.unit '0'), u = Text.unit '0' := by
    intro u hu
    have := List.mem_rtakeWhile_imp hu
    exact of_decide_eq_true this
  exact ⟨_, List.rdropWhile_append_rtakeWhile.symm.trans (congrArg _ (List.eq_replicate_of_mem hzeros))⟩

/-- Significant digits are digits. -/
theorem isDigit_of_mem_significant {u : UInt16} (h : u ∈ significant D) : Text.isDigit u = true := by
  obtain ⟨k, hk⟩ := significant_append_zeros D
  exact Text.isDigit_of_mem_ofNat (hk ▸ List.mem_append_left _ h)

/-- A positive number has a significant digit. -/
theorem significant_ne_nil (hD : 0 < D) : significant D ≠ [] := by
  intro hnil
  obtain ⟨k, hk⟩ := significant_append_zeros D
  have hvalue := congrArg Text.digitsValue hk
  rw [Text.digitsValue_ofNat, hnil, List.nil_append, Text.digitsValue_zeros] at hvalue
  exact hD.ne' hvalue

/-- The first significant digit is no zero. -/
theorem head?_significant_ne_zero (hD : 0 < D) : (significant D).head? ≠ some (Text.unit '0') := by
  obtain ⟨k, hk⟩ := significant_append_zeros D
  have hhead := Text.head?_ofNat_ne_zero hD
  rwa [hk, List.head?_append_of_ne_nil _ (significant_ne_nil hD)] at hhead

/-- The digits before the point of the whole decimal give the place of those that are left. -/
theorem digitsValue_significant (D : Nat) (e : Int) :
    (Text.digitsValue (significant D) : Rat)
        * 10 ^ ((Text.ofNat D).length + e - (significant D).length : Int) = D * 10 ^ e := by
  obtain ⟨k, hk⟩ := significant_append_zeros D
  have hvalue := congrArg Text.digitsValue hk
  have hlength := congrArg List.length hk
  rw [Text.digitsValue_ofNat, Text.digitsValue_append_zeros] at hvalue
  rw [List.length_append, List.length_replicate] at hlength
  have hplace : ((Text.ofNat D).length + e - (significant D).length : Int) = k + e := by omega
  rw [hplace, zpow_add₀ (by norm_num), zpow_natCast, ← mul_assoc]
  refine congrArg (· * (10 : Rat) ^ e) ?_
  exact_mod_cast hvalue.symm

end Number

namespace Json

variable {ds s whole fraction tail tail' rest : Text} {e p : Int}

/-! ## The parts of a numeral -/

/-- A text that does not begin with a digit. -/
def EndsDigits (rest : Text) : Prop :=
  ∀ u, rest.head? = some u → Text.isDigit u = false

/-- A text that no numeral goes on into. -/
def EndsNumeral (rest : Text) : Prop :=
  ∀ u, rest.head? = some u →
    Text.isDigit u = false ∧ u ≠ Text.unit '.' ∧ u ≠ Text.unit 'e' ∧ u ≠ Text.unit 'E'

/-- Where a numeral ends its digits do. -/
theorem EndsNumeral.endsDigits (h : EndsNumeral rest) : EndsDigits rest :=
  fun u hu => (h u hu).1

/-- Digits are read up to where they end. -/
theorem digits1?_append (hne : ds ≠ []) (hds : ∀ u ∈ ds, Text.isDigit u = true)
    (hrest : EndsDigits rest) :
    digits1? (ds ++ rest) = some (ds, rest) := by
  rw [digits1?, Numeral.digits, Text.span_isDigit_append hds hrest]
  exact if_neg (by rwa [List.isEmpty_iff])

/-- A fraction is read behind its point. -/
theorem fraction?_point (hne : ds ≠ []) (hds : ∀ u ∈ ds, Text.isDigit u = true)
    (hrest : EndsDigits rest) :
    fraction? (Text.unit '.' :: (ds ++ rest)) = some (ds, rest) := by
  rw [fraction?, if_pos rfl, digits1?_append hne hds hrest]

/-- Without a point there is no fraction. -/
theorem fraction?_of_head (h : rest.head? ≠ some (Text.unit '.')) : fraction? rest = some ([], rest) := by
  cases rest with
  | nil => rfl
  | cons u rest => exact if_neg fun hu => h (congrArg some hu)

/-- Where a numeral ends there is no fraction. -/
theorem fraction?_of_endsNumeral (h : EndsNumeral rest) : fraction? rest = some ([], rest) :=
  fraction?_of_head fun hpoint => (h _ hpoint).2.1 rfl

/-- Where a numeral ends there is no exponent. -/
theorem exponent?_of_endsNumeral (h : EndsNumeral rest) : exponent? rest = some (0, rest) := by
  cases rest with
  | nil => rfl
  | cons u rest =>
    obtain ⟨-, -, he, hE⟩ := h u rfl
    exact if_neg (not_or_intro he hE)

/-- An exponent with its letter and its sign. -/
def exponentText (e : Int) : Text :=
  (if e < 0 then "e-" else "e+") ++ Text.ofNat e.natAbs

/-- An exponent is read back as it was written. -/
theorem exponent?_exponentText (hrest : EndsDigits rest) :
    exponent? (exponentText e ++ rest) = some (e, rest) := by
  have hdigits := digits1?_append (Text.ofNat_ne_nil e.natAbs)
    (fun u hu => Text.isDigit_of_mem_ofNat hu) hrest
  unfold exponentText
  split
  next hneg =>
    show Option.map _ (digits1? (Text.ofNat e.natAbs ++ rest)) = _
    simp only [hdigits, Option.map_some, Text.digitsValue_ofNat, Int.ofNat_natAbs_of_nonpos hneg.le,
      if_true,
      Int.neg_neg]
  next hnonneg =>
    show Option.map _ (digits1? (Text.ofNat e.natAbs ++ rest)) = _
    simp only [hdigits, Option.map_some, Text.digitsValue_ofNat, Int.natAbs_of_nonneg (not_lt.1 hnonneg),
      Bool.false_eq_true, if_false]

/-! ## Numerals -/

/-- The sign of a numeral as it is written. -/
def minus (negative : Bool) : Text :=
  if negative then "-" else []

/-- What is read after the sign. -/
theorem numeral?_minus (negative : Bool) {u : UInt16} (hu : u ≠ Text.unit '-') (t : Text) :
    numeral? (minus negative ++ u :: t) = (digits1? (u :: t)).bind fun (whole, t) =>
      if 1 < whole.length ∧ whole.head? = some (Text.unit '0') then none
      else (fraction? t).bind fun (fraction, t) => (exponent? t).bind fun (e, t) =>
        let n := Text.digitsValue (whole ++ fraction)
        some (Numeral.signed negative (Numeral.scale n (Text.ofNat n).length (e - fraction.length)),
          t) := by
  cases negative with
  | true => rfl
  | false =>
    simp only [numeral?, minus, Bool.false_eq_true, if_false, List.nil_append, if_neg hu]
    rfl

/-- A numeral is read from its parts. -/
theorem numeral?_of_parts (negative : Bool) (hne : whole ≠ [])
    (hwhole : ∀ u ∈ whole, Text.isDigit u = true)
    (hhead : 1 < whole.length → whole.head? ≠ some (Text.unit '0')) (htail : EndsDigits tail)
    (hfraction : fraction? tail = some (fraction, tail')) (hexponent : exponent? tail' = some (e, rest)) :
    numeral? (minus negative ++ (whole ++ tail))
      = some (Numeral.signed negative
          (Number.round (Text.digitsValue (whole ++ fraction) * 10 ^ (e - fraction.length))), rest) := by
  have hdigits := digits1?_append hne hwhole htail
  have hnozero : ¬(1 < whole.length ∧ whole.head? = some (Text.unit '0')) := fun h => hhead h.1 h.2
  obtain ⟨u, t, hu⟩ := List.exists_cons_of_ne_nil hne
  have hminus : u ≠ Text.unit '-' := Text.ne_of_isDigit (hwhole u (by simp [hu])) (by decide)
  have hcons : whole ++ tail = u :: (t ++ tail) := by rw [hu, List.cons_append]
  rw [hcons, numeral?_minus negative hminus, ← hcons, hdigits]
  simp only [Option.bind_some, if_neg hnozero, hfraction, hexponent, Numeral.scale_eq_round]

/-- Digits end at a unit that is none. -/
theorem endsDigits_cons {u : UInt16} {t : Text} (h : Text.isDigit u = false) : EndsDigits (u :: t) := by
  rintro _ ⟨⟩
  exact h

/-- An exponent is written with its letter in front. -/
theorem exponentText_append (e : Int) (rest : Text) :
    ∃ t, exponentText e ++ rest = Text.unit 'e' :: t := by
  unfold exponentText
  split
  · exact ⟨_, rfl⟩
  · exact ⟨_, rfl⟩

/-- Digits with a point after some of them. -/
theorem numeral?_split (negative : Bool) {k : Nat} (hk : 0 < k) (hlt : k < s.length)
    (hs : ∀ u ∈ s, Text.isDigit u = true) (hhead : s.head? ≠ some (Text.unit '0')) (htail : EndsDigits tail)
    (hexponent : exponent? tail = some (e, rest)) :
    numeral? (minus negative ++ (s.take k ++ Text.unit '.' :: (s.drop k ++ tail)))
      = some (Numeral.signed negative (Number.round (Text.digitsValue s * 10 ^ (e + k - s.length))),
        rest) := by
  have hne : s.take k ≠ [] := by
    rw [Ne, List.take_eq_nil_iff, not_or]
    exact ⟨hk.ne', List.length_pos_iff.1 (hk.trans hlt)⟩
  have hhead' : (s.take k).head? ≠ some (Text.unit '0') := by
    rwa [List.head?_take, if_neg hk.ne']
  have hfraction : fraction? (Text.unit '.' :: (s.drop k ++ tail)) = some (s.drop k, tail) :=
    fraction?_point (by rwa [Ne, List.drop_eq_nil_iff, not_le])
      (fun u hu => hs u (List.mem_of_mem_drop hu)) htail
  have hread := numeral?_of_parts negative hne (fun u hu => hs u (List.mem_of_mem_take hu))
    (fun _ => hhead')
    (endsDigits_cons (by decide)) hfraction hexponent
  have hplace : e - (s.length - k : Nat) = e + k - s.length := by omega
  rw [hread, List.take_append_drop, List.length_drop, hplace]

/-- Digits with zeros up to the point. -/
theorem numeral?_zeros_after (negative : Bool) (k : Nat) (hne : s ≠ [])
    (hs : ∀ u ∈ s, Text.isDigit u = true)
    (hhead : s.head? ≠ some (Text.unit '0')) (hrest : EndsNumeral rest) :
    numeral? (minus negative ++ (s ++ List.replicate k (Text.unit '0') ++ rest))
      = some (Numeral.signed negative (Number.round (Text.digitsValue s * 10 ^ (k : Int))), rest) := by
  have hread := numeral?_of_parts negative (List.append_ne_nil_of_left_ne_nil hne _)
    (List.forall_mem_append.2 ⟨hs, fun u => Text.isDigit_of_mem_zeros (k := k)⟩)
    (fun _ => by rwa [List.head?_append_of_ne_nil _ hne]) hrest.endsDigits (fraction?_of_endsNumeral hrest)
    (exponent?_of_endsNumeral hrest)
  rw [hread, List.append_nil, Text.digitsValue_append_zeros]
  simp

/-- Digits behind a point, a zero before it and zeros between. -/
theorem numeral?_zeros_before (negative : Bool) (k : Nat) (hne : s ≠ [])
    (hs : ∀ u ∈ s, Text.isDigit u = true)
    (hrest : EndsNumeral rest) :
    numeral? (minus negative
        ++ (Text.unit '0' :: Text.unit '.' :: (List.replicate k (Text.unit '0') ++ s ++ rest)))
      = some (Numeral.signed negative (Number.round (Text.digitsValue s * 10 ^ (-k - s.length : Int))), rest) := by
  have hfraction := fraction?_point (List.append_ne_nil_of_right_ne_nil _ hne)
    (List.forall_mem_append.2 ⟨fun u => Text.isDigit_of_mem_zeros (k := k), hs⟩) hrest.endsDigits
  have hread := numeral?_of_parts negative (List.cons_ne_nil (Text.unit '0') [])
    (List.forall_mem_singleton.2 (by decide)) (fun h => absurd h (lt_irrefl 1))
    (endsDigits_cons (by decide)) hfraction
    (exponent?_of_endsNumeral hrest)
  have hvalue := Text.digitsValue_zeros_append (k + 1) s
  have hplace : 0 - ((k + s.length : Nat) : Int) = -k - s.length := by omega
  rw [List.replicate_succ, List.cons_append] at hvalue
  rw [List.singleton_append, List.singleton_append, hvalue, List.length_append, List.length_replicate,
    hplace] at hread
  exact hread

/-- Each layout of digits is the numeral of the decimal that it lays out. -/
theorem numeral?_layout (negative : Bool) (hne : s ≠ []) (hs : ∀ u ∈ s, Text.isDigit u = true)
    (hhead : s.head? ≠ some (Text.unit '0')) (hrest : EndsNumeral rest) :
    numeral? (minus negative ++ (Number.layout s p ++ rest))
      = some (Numeral.signed negative (Number.round (Text.digitsValue s * 10 ^ (p - s.length))),
        rest) := by
  have hcount : 0 < s.length := List.length_pos_iff.2 hne
  unfold Number.layout
  dsimp only
  split
  next hinside =>
    split
    next hle =>
      have hplace : ((p.toNat - s.length : Nat) : Int) = p - s.length := by omega
      rw [numeral?_zeros_after negative _ hne hs hhead hrest, hplace]
    next hlt =>
      have hplace : 0 + (p.toNat : Int) - s.length = p - s.length := by omega
      have hread := numeral?_split negative (k := p.toNat) (by omega) (by omega) hs hhead hrest.endsDigits
        (exponent?_of_endsNumeral hrest)
      rw [hplace] at hread
      simp only [List.append_assoc]
      exact hread
  next =>
    split
    next hbelow =>
      have hplace : -((-p).toNat : Int) - s.length = p - s.length := by omega
      have hread := numeral?_zeros_before negative (-p).toNat hne hs hrest
      rw [hplace] at hread
      rw [List.append_assoc, List.append_assoc, ← List.append_assoc (List.replicate _ _)]
      exact hread
    next =>
      obtain ⟨t, ht⟩ := exponentText_append (p - 1) rest
      have htail : EndsDigits (exponentText (p - 1) ++ rest) := ht ▸ endsDigits_cons (by decide)
      have hexponent := exponent?_exponentText (e := p - 1) hrest.endsDigits
      split
      next hone =>
        have hplace : p - 1 - (0 : Nat) = p - s.length := by omega
        have hfraction : fraction? (exponentText (p - 1) ++ rest)
          = some ([], exponentText (p - 1) ++ rest) :=
          fraction?_of_head (by simp [ht, Text.unit])
        have hread := numeral?_of_parts negative hne hs (fun h => absurd hone (by omega)) htail
          hfraction hexponent
        rw [List.append_nil, List.length_nil, hplace] at hread
        rw [List.append_assoc]
        exact hread
      next hmore =>
        have hplace : p - 1 + (1 : Nat) - s.length = p - s.length := by omega
        have hread := numeral?_split negative (k := 1) (by omega) (by omega) hs hhead htail hexponent
        rw [hplace] at hread
        rw [List.append_assoc, List.append_assoc, List.append_assoc]
        exact hread

/-! ## The texts of numbers -/

/-- A positive binary64 value is written as a numeral of its own. -/
theorem numeral?_positiveText (negative : Bool) {v : Rat} (hv : 0 < v)
    (hround : Number.round v = .finite v)
    (hrest : EndsNumeral rest) :
    numeral? (minus negative ++ (Number.positiveText v ++ rest))
      = some (Numeral.signed negative (.finite v), rest) := by
  have hreads := Decimal.round_shortest hv hround
  have hdigits : 0 < (Decimal.shortest v).digits := by
    rw [Nat.pos_iff_ne_zero]
    intro hzero
    rw [Decimal.value_eq, hzero, Nat.cast_zero, zero_mul] at hreads
    exact hv.ne (Number.finite.inj hreads)
  rw [Number.positiveText, numeral?_layout negative (Number.significant_ne_nil hdigits)
    (fun u hu => Number.isDigit_of_mem_significant hu) (Number.head?_significant_ne_zero hdigits) hrest,
    Number.digitsValue_significant, ← Decimal.value_eq, hreads]

/-- A zero is read as one. -/
theorem numeral?_zero (hrest : EndsNumeral rest) :
    numeral? (Text.unit '0' :: rest) = some (.finite 0, rest) := by
  have hread := numeral?_of_parts false (List.cons_ne_nil (Text.unit '0') [])
    (List.forall_mem_singleton.2 (by decide)) (fun h => absurd h (lt_irrefl 1)) hrest.endsDigits
    (fraction?_of_endsNumeral hrest) (exponent?_of_endsNumeral hrest)
  have hvalue : Text.digitsValue ([Text.unit '0'] ++ []) = 0 := rfl
  rw [hvalue, Nat.cast_zero, zero_mul] at hread
  exact hread

/-- The text of a finite binary64 value is read as that value, its zero without a sign. -/
theorem numeral?_text {x : Number} (hx : x.IsFinite) (hrest : EndsNumeral rest) :
    numeral? (x.text ++ rest) = some (x.unsigned, rest) := by
  cases x with
  | nan | infinite => cases hx
  | negativeZero => exact numeral?_zero hrest
  | finite q =>
    rw [Number.text]
    split
    next hzero => rw [hzero]; exact numeral?_zero hrest
    next hne =>
      split
      next hneg =>
        have hround : Number.round (-q) = .finite (-q) := by
          rw [Number.round_neg hne, hx, Number.neg, if_neg hne]
        have hread := numeral?_positiveText true (neg_pos.2 hneg) hround hrest
        rw [Numeral.signed, if_pos rfl, Number.neg, if_neg (neg_ne_zero.2 hne), neg_neg] at hread
        rw [List.append_assoc]
        exact hread
      next hnonneg =>
        exact numeral?_positiveText false (lt_of_le_of_ne (not_lt.1 hnonneg) (Ne.symm hne)) hx hrest

end Json

end UnitOfWork
