import Mathlib.Data.List.DropRight
import Mathlib.Data.List.TakeWhile
import UnitOfWork.Text.Blank

/-!
# Trimmed texts

A text without blanks at its ends is left as it is when it is trimmed, and what trimming leaves is
such a text (`trim_trim`).
-/

namespace UnitOfWork.Text

variable {t : Text}

/-- Trimming drops the blanks in front and those behind. -/
theorem trim_eq (t : Text) : trim t = (t.dropWhile isBlank).rdropWhile isBlank :=
  rfl

/-- A text without blanks is trimmed already. -/
theorem trim_of_not_blank (h : ∀ u ∈ t, isBlank u = false) : trim t = t := by
  have hdrop (s : Text) (hs : ∀ u ∈ s, isBlank u = false) : s.dropWhile isBlank = s := by
    rw [List.dropWhile_eq_self_iff]
    intro hpos
    rw [hs _ (List.getElem_mem hpos)]
    exact Bool.false_ne_true
  rw [trim_eq, hdrop t h, List.rdropWhile, hdrop _ fun u hu => h u (List.mem_reverse.1 hu),
    List.reverse_reverse]

/-- Dropping blanks at the end leaves a beginning without blanks as it is. -/
theorem dropWhile_rdropWhile {s : Text} (h : s.dropWhile isBlank = s) :
    (s.rdropWhile isBlank).dropWhile isBlank = s.rdropWhile isBlank := by
  rw [List.dropWhile_eq_self_iff] at h ⊢
  intro hpos
  have hbeginning : s.rdropWhile isBlank <+: s := List.rdropWhile_prefix ..
  rw [hbeginning.getElem hpos]
  exact h (hpos.trans_le hbeginning.length_le)

/-- What was trimmed is not trimmed any further. -/
theorem trim_trim (t : Text) : trim (trim t) = trim t := by
  rw [trim_eq (trim t), trim_eq t, dropWhile_rdropWhile (List.dropWhile_idempotent _ t),
    List.rdropWhile_idempotent]

end UnitOfWork.Text
