import UnitOfWork.Proofs.Mail.Settings

/-!
# What masked settings show of a password

Of a password the masked settings show the first three units and the last one, with the same dots
between them. Two different passwords look alike exactly if both have three units and agree in what
is shown (`masked_eq_masked_iff`), so a password of one or two units is shown completely and any
longer one is not (`password_hidden_iff`).
-/

namespace UnitOfWork

namespace Setting

/-- What is shown of a password. -/
def shown (p : Text) : Text :=
  p.take 3 ++ "......" ++ lastUnit p

variable {p q : Text}

/-- A password that is not empty has one last unit. -/
theorem length_lastUnit (hp : p ≠ []) : (lastUnit p).length = 1 := by
  have hpos := List.length_pos_iff.2 hp
  rw [lastUnit, List.length_drop]
  omega

/-- The last unit is the one behind all others. -/
theorem lastUnit_concat (p : Text) (u : UInt16) : lastUnit (p ++ [u]) = [u] := by
  rw [lastUnit, List.length_append, List.length_singleton, Nat.add_sub_cancel, List.drop_left]

/-- A genuine password is shown by its ends. -/
theorem masked_of_genuine (hp : Genuine p) : (text p).masked = text (shown p) := by
  rw [masked, nonempty?_eq_some_iff.2 ⟨rfl, hp.ne_nil⟩]
  exact if_neg hp.ne_placeholder

/-- A text that is not masked stays as it is, and it is shorter than anything that is shown of a
password. -/
theorem masked_of_not_genuine (hp : ¬ Genuine p) : (text p).masked = text p ∧ p.length ≤ 3 := by
  by_cases hnil : p = []
  · subst hnil
    exact ⟨rfl, Nat.zero_le 3⟩
  · obtain rfl : p = placeholder := Classical.byContradiction fun hne => hp ⟨hnil, hne⟩
    exact ⟨rfl, by decide⟩

/-- What is shown of a password are at most three units, six dots and the last unit. -/
theorem length_shown (hp : p ≠ []) : (shown p).length = min 3 p.length + 7 := by
  have hdots : (Text.ofString "......").length = 6 := rfl
  rw [shown, List.length_append, List.length_append, List.length_take, length_lastUnit hp, hdots]

/-- What is shown of two passwords is the same if their first three units and their last ones
are. -/
theorem shown_eq_shown (hp : p ≠ []) (hq : q ≠ []) :
    shown p = shown q ↔ p.take 3 = q.take 3 ∧ lastUnit p = lastUnit q := by
  constructor
  · intro h
    have hlength : (lastUnit p).length = (lastUnit q).length := by
      rw [length_lastUnit hp, length_lastUnit hq]
    obtain ⟨hfirst, hlast⟩ := List.append_inj' h hlength
    exact ⟨List.append_cancel_right hfirst, hlast⟩
  · rintro ⟨hfirst, hlast⟩
    rw [shown, shown, hfirst, hlast]

/-- A text of fewer than three units is its own beginning. -/
theorem eq_of_take_eq (hp : p.length < 3) (h : p.take 3 = q.take 3) : p = q := by
  have hlength := congrArg List.length h
  rw [List.length_take, List.length_take] at hlength
  rwa [List.take_of_length_le (by omega), List.take_of_length_le (by omega)] at h

/-- A password looks like another setting if that is the same password, or one of at least three
units that has the same first three and the same last one. -/
theorem masked_eq_masked_iff {s : Setting} (hp : Genuine p) :
    s.masked = (text p).masked ↔ s = text p
      ∨ ∃ q, s = text q ∧ Genuine q ∧ 3 ≤ p.length ∧ 3 ≤ q.length
        ∧ q.take 3 = p.take 3 ∧ lastUnit q = lastUnit p := by
  constructor
  · intro h
    rw [masked_of_genuine hp] at h
    cases s with
    | absent => cases h
    | null => cases h
    | text q =>
      by_cases hq : Genuine q
      · rw [masked_of_genuine hq, text.injEq] at h
        obtain ⟨hfirst, hlast⟩ := (shown_eq_shown hq.ne_nil hp.ne_nil).1 h
        by_cases hlong : 3 ≤ p.length
        · have hlength := congrArg List.length hfirst
          rw [List.length_take, List.length_take] at hlength
          exact .inr ⟨q, rfl, hq, hlong, by omega, hfirst, hlast⟩
        · exact .inl (congrArg text (eq_of_take_eq (Nat.lt_of_not_le hlong) hfirst.symm).symm)
      · obtain ⟨hmasked, hshort⟩ := masked_of_not_genuine hq
        rw [hmasked, text.injEq] at h
        have hlength := length_shown hp.ne_nil
        rw [← h] at hlength
        omega
  · rintro (rfl | ⟨q, rfl, hq, -, -, hfirst, hlast⟩)
    · rfl
    · rw [masked_of_genuine hp, masked_of_genuine hq, text.injEq]
      exact (shown_eq_shown hq.ne_nil hp.ne_nil).2 ⟨hfirst, hlast⟩

/-- A password of at least three units looks like the one that has its last unit twice. -/
theorem exists_alike (hp : 3 ≤ p.length) :
    ∃ q, q ≠ p ∧ Genuine q ∧ 3 ≤ q.length ∧ q.take 3 = p.take 3 ∧ lastUnit q = lastUnit p := by
  have hne : p ≠ [] := List.ne_nil_of_length_pos (by omega)
  obtain ⟨u, hu⟩ := List.length_eq_one_iff.1 (length_lastUnit hne)
  have hlength : (p ++ [u]).length = p.length + 1 := by
    rw [List.length_append, List.length_singleton]
  have hlonger : ∀ t : Text, t.length ≤ p.length → p ++ [u] ≠ t := by
    rintro t ht rfl
    omega
  refine ⟨p ++ [u], hlonger p (Nat.le_refl _), ⟨List.append_ne_nil_of_left_ne_nil hne _, hlonger _ hp⟩,
    by omega, List.take_append_of_le_length hp, ?_⟩
  rw [lastUnit_concat, hu]

end Setting

namespace MailSettings

open Setting (Genuine placeholder masked_eq_masked_iff exists_alike)

/-- Settings with a password. -/
def withPassword (s : MailSettings) (p : Text) : MailSettings :=
  { s with smtpPassword := .text p }

/-- Settings that differ in the password are masked alike if their passwords are. -/
theorem masked_withPassword (s : MailSettings) (p q : Text) :
    (s.withPassword q).masked = (s.withPassword p).masked
      ↔ (Setting.text q).masked = (Setting.text p).masked := by
  simp [masked, withPassword]

/-- The masked settings leave open which password was masked exactly if it has at least three
units. -/
theorem password_hidden_iff (s : MailSettings) {p : Text} (hp : p ≠ []) (hplaceholder : p ≠ placeholder) :
    (∃ q, q ≠ p ∧ (s.withPassword q).masked = (s.withPassword p).masked) ↔ 3 ≤ p.length := by
  have hgenuine : Genuine p := ⟨hp, hplaceholder⟩
  constructor
  · rintro ⟨q, hne, h⟩
    rw [masked_withPassword, masked_eq_masked_iff hgenuine] at h
    obtain heq | ⟨_, _, _, hlong, _⟩ := h
    · exact absurd (Setting.text.inj heq) hne
    · exact hlong
  · intro hlong
    obtain ⟨q, hne, hq, hlength, hfirst, hlast⟩ := exists_alike hlong
    refine ⟨q, hne, ?_⟩
    rw [masked_withPassword, masked_eq_masked_iff hgenuine]
    exact .inr ⟨q, rfl, hq, hlong, hlength, hfirst, hlast⟩

/-- Of a password of three units it is open whether its last unit was given twice. -/
theorem password_hidden_abc :
    ("abc" : Text) ≠ [] ∧ ("abc" : Text) ≠ placeholder
      ∧ ∃ q, q ≠ ("abc" : Text) ∧ (live.withPassword q).masked = (live.withPassword "abc").masked := by
  have hne : ("abc" : Text) ≠ [] := by decide
  have hplaceholder : ("abc" : Text) ≠ placeholder := by decide
  exact ⟨hne, hplaceholder, (password_hidden_iff live hne hplaceholder).2 (by decide)⟩

/-- A password of two units is shown completely: no other one looks like it. -/
theorem password_shown_ab :
    ("ab" : Text) ≠ [] ∧ ("ab" : Text) ≠ placeholder
      ∧ ¬ ∃ q, q ≠ ("ab" : Text) ∧ (live.withPassword q).masked = (live.withPassword "ab").masked := by
  have hgenuine : Genuine "ab" := ⟨by decide, by decide⟩
  refine ⟨hgenuine.ne_nil, hgenuine.ne_placeholder, ?_⟩
  rintro ⟨q, hne, h⟩
  rw [masked_withPassword, masked_eq_masked_iff hgenuine] at h
  obtain heq | ⟨_, _, _, hlong, _⟩ := h
  · exact hne (Setting.text.inj heq)
  · exact absurd hlong (by decide)

end MailSettings

end UnitOfWork
