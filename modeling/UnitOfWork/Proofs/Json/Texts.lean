import Mathlib.Data.List.Basic
import UnitOfWork.Json.Parser
import UnitOfWork.Json.Printer

/-!
# Written texts

Between its quotes a text is written without control characters (`shown_escaped`), and what is
written is read as the text again, up to the closing quote and no further (`closeText?_escaped`):
also quotes, backslashes, control characters and surrogates that stand alone.
-/

namespace UnitOfWork

/-- A text without control characters. -/
def Text.Shown (t : Text) : Prop :=
  ∀ u ∈ t, 0x20 ≤ u

instance (t : Text) : Decidable t.Shown :=
  decidable_of_iff (t.all (0x20 ≤ ·)) (by simp [Text.Shown])

namespace Text.Shown

variable {s t : Text}

/-- The empty text is shown. -/
theorem nil : Shown [] :=
  nofun

/-- Texts that are shown are so one behind the other. -/
theorem append (hs : s.Shown) (ht : t.Shown) : Shown (s ++ t) :=
  List.forall_mem_append.2 ⟨hs, ht⟩

/-- A text that is shown has no line break. -/
theorem not_mem (h : t.Shown) : (0x0A : UInt16) ∉ t :=
  fun hmem => absurd (h _ hmem) (by decide)

end Text.Shown

namespace Json

variable {u v : UInt16} {t rest : Text}

/-! ## Digits in base sixteen -/

/-- A hexadecimal digit is read back. -/
theorem digitIn?_hexDigit : ∀ n < 16, Numeral.digitIn? 16 (hexDigit n) = some n := by
  decide

/-- A hexadecimal digit is shown. -/
theorem le_hexDigit : ∀ n < 16, 0x20 ≤ hexDigit n := by
  decide

/-- The digits of a unit name that unit. -/
theorem unicodeUnit?_digits (u : UInt16) :
    unicodeUnit? (hexDigit (u.toNat / 4096)) (hexDigit (u.toNat / 256 % 16)) (hexDigit (u.toNat / 16 % 16))
      (hexDigit (u.toNat % 16)) = some u := by
  have hu : u.toNat < 65536 := u.toNat_lt
  have hfirst := digitIn?_hexDigit (u.toNat / 4096) (by omega)
  have hmod (n : Nat) := digitIn?_hexDigit (n % 16) (Nat.mod_lt n (by decide))
  have hvalue : 16 * (16 * (16 * (u.toNat / 4096) + u.toNat / 256 % 16) + u.toNat / 16 % 16) + u.toNat % 16
      = u.toNat := by omega
  simp [unicodeUnit?, Numeral.integerIn?, hfirst, hmod, hvalue]

/-- An escape by number is shown. -/
theorem shown_unicodeEscape (u : UInt16) : (unicodeEscape u).Shown := by
  have hu : u.toNat < 65536 := u.toNat_lt
  have hmod (n : Nat) := le_hexDigit (n % 16) (Nat.mod_lt n (by decide))
  have hfirst := le_hexDigit (u.toNat / 4096) (by omega)
  have hletters : Text.Shown "\\u" := by decide
  refine hletters.append ?_
  simp only [Text.Shown, List.forall_mem_cons]
  exact ⟨hfirst, hmod _, hmod _, hmod _, nofun⟩

/-! ## Reading one unit -/

/-- A text closes at its quotation mark. -/
theorem closeText?_quote (rest : Text) : closeText? (Text.unit '"' :: rest) = some ([], rest) := by
  rw [closeText?.eq_def]
  cases rest <;> rfl

/-- A short escape is read as the unit it stands for. -/
theorem closeText?_short (h : shortEscape? v = some u) (t : Text) :
    closeText? (Text.unit '\\' :: v :: t) = consRead u (closeText? t) := by
  have hv : v ≠ Text.unit 'u' := by
    rintro rfl
    cases h
  rw [closeText?.eq_def]
  dsimp only
  rw [if_neg (by decide), if_pos rfl, if_neg hv, h, Option.bind_some]

/-- An escape by number is read as the unit it stands for. -/
theorem closeText?_unicodeEscape (u : UInt16) (t : Text) :
    closeText? (unicodeEscape u ++ t) = consRead u (closeText? t) := by
  show (Option.bind (unicodeUnit? _ _ _ _) fun v => consRead v (closeText? t)) = _
  rw [unicodeUnit?_digits, Option.bind_some]

/-- A plain unit is read as itself. -/
theorem closeText?_plain (hquote : u ≠ Text.unit '"') (hbackslash : u ≠ Text.unit '\\')
    (hshown : 0x20 ≤ u)
    (t : Text) : closeText? (u :: t) = consRead u (closeText? t) := by
  cases t with
  | nil => exact if_neg hquote
  | cons e t =>
    rw [closeText?.eq_def]
    dsimp only
    rw [if_neg hquote, if_neg hbackslash, if_neg (UInt16.not_lt.2 hshown)]

/-- A unit is written after a backslash, in base sixteen, or as it is. -/
theorem escape_cases (u : UInt16) :
    (∃ v, 0x20 ≤ v ∧ shortEscape? v = some u ∧ escape u = [Text.unit '\\', v])
      ∨ escape u = unicodeEscape u
      ∨ 0x20 ≤ u ∧ u ≠ Text.unit '"' ∧ u ≠ Text.unit '\\' ∧ escape u = [u] := by
  unfold escape
  split
  next h => exact .inl ⟨Text.unit '"', by decide, by rw [h]; rfl, rfl⟩
  next hquote =>
    split
    next h => exact .inl ⟨Text.unit '\\', by decide, by rw [h]; rfl, rfl⟩
    next hbackslash =>
      split
      next h => exact .inl ⟨Text.unit 'b', by decide, h ▸ rfl, rfl⟩
      split
      next h => exact .inl ⟨Text.unit 't', by decide, h ▸ rfl, rfl⟩
      split
      next h => exact .inl ⟨Text.unit 'n', by decide, h ▸ rfl, rfl⟩
      split
      next h => exact .inl ⟨Text.unit 'f', by decide, h ▸ rfl, rfl⟩
      split
      next h => exact .inl ⟨Text.unit 'r', by decide, h ▸ rfl, rfl⟩
      split
      next => exact .inr (.inl rfl)
      next h => exact .inr (.inr ⟨UInt16.not_lt.1 h, hquote, hbackslash, rfl⟩)

/-- A unit is read back from how it is escaped. -/
theorem closeText?_escape (u : UInt16) (t : Text) :
    closeText? (escape u ++ t) = consRead u (closeText? t) := by
  obtain ⟨v, -, hv, h⟩ | h | ⟨hshown, hquote, hbackslash, h⟩ := escape_cases u
  · rw [h]
    exact closeText?_short hv t
  · rw [h]
    exact closeText?_unicodeEscape u t
  · rw [h]
    exact closeText?_plain hquote hbackslash hshown t

/-- However a unit is escaped, it is shown. -/
theorem shown_escape (u : UInt16) : (escape u).Shown := by
  obtain ⟨v, hv, -, h⟩ | h | ⟨hu, -, -, h⟩ := escape_cases u
  · rw [h]
    exact List.forall_mem_cons.2 ⟨by decide, List.forall_mem_singleton.2 hv⟩
  · rw [h]
    exact shown_unicodeEscape u
  · rw [h]
    exact List.forall_mem_singleton.2 hu

/-! ## Whole texts -/

/-- The high surrogates come behind all units that need a short escape. -/
theorem lt_of_isHigh (h : Text.isHigh u = true) : Text.unit '\\' < u := by
  rw [Text.isHigh, Bool.and_eq_true, decide_eq_true_eq] at h
  exact UInt16.lt_of_lt_of_le (by decide) h.1

/-- The low surrogates come behind all units that need a short escape. -/
theorem lt_of_isLow (h : Text.isLow u = true) : Text.unit '\\' < u := by
  rw [Text.isLow, Bool.and_eq_true, decide_eq_true_eq] at h
  exact UInt16.lt_of_lt_of_le (by decide) h.1

/-- What lies beyond the backslash stands for itself. -/
theorem closeText?_of_lt (h : Text.unit '\\' < u) (t : Text) :
    closeText? (u :: t) = consRead u (closeText? t) :=
  closeText?_plain (UInt16.ne_of_lt (UInt16.lt_trans (by decide) h)).symm (UInt16.ne_of_lt h).symm
    (UInt16.le_of_lt (UInt16.lt_trans (by decide) h)) t

/-- What is written for a text is read as that text, up to the closing quote. -/
theorem closeText?_escaped (t rest : Text) :
    closeText? (escaped t ++ Text.unit '"' :: rest) = some (t, rest) := by
  fun_induction escaped t with
  | case1 => exact closeText?_quote rest
  | case2 u hhigh v t hlow ih =>
    rw [List.cons_append, List.cons_append, closeText?_of_lt (lt_of_isHigh hhigh),
      closeText?_of_lt (lt_of_isLow hlow),
      ih]
    rfl
  | case3 u hhigh v t hlow ih =>
    rw [List.append_assoc, closeText?_unicodeEscape, ih]
    rfl
  | case4 u hhigh =>
    rw [closeText?_unicodeEscape, closeText?_quote]
    rfl
  | case5 u t hhigh hlow ih =>
    rw [List.append_assoc, closeText?_unicodeEscape, ih]
    rfl
  | case6 u t hhigh hlow ih =>
    rw [List.append_assoc, closeText?_escape, ih]
    rfl

/-- A text that was escaped is shown. -/
theorem shown_escaped (t : Text) : (escaped t).Shown := by
  fun_induction escaped t with
  | case1 => exact .nil
  | case2 u hhigh v t hlow ih =>
    have hle {w : UInt16} (h : Text.unit '\\' < w) : 0x20 ≤ w :=
      UInt16.le_of_lt (UInt16.lt_trans (by decide) h)
    exact List.forall_mem_cons.2 ⟨hle (lt_of_isHigh hhigh),
      List.forall_mem_cons.2 ⟨hle (lt_of_isLow hlow), ih⟩⟩
  | case3 u hhigh v t hlow ih => exact (shown_unicodeEscape u).append ih
  | case4 u hhigh => exact shown_unicodeEscape u
  | case5 u t hhigh hlow ih => exact (shown_unicodeEscape u).append ih
  | case6 u t hhigh hlow ih => exact (shown_escape u).append ih

/-- A text that was quoted is shown. -/
theorem shown_quoted (t : Text) : (quoted t).Shown := by
  have hquote : Text.Shown "\"" := by decide
  exact (hquote.append (shown_escaped t)).append hquote

end Json

end UnitOfWork
