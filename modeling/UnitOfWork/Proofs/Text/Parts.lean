import Mathlib.Data.List.Infix
import UnitOfWork.Text.Basic

/-!
# Parts of texts

What the tests for a beginning, an ending and a part say: a text begins with another if it goes on
after it, ends with another if it leads up to it, and includes another if it does both.
-/

namespace UnitOfWork.Text

variable {beginning ending part text rest : Text}

/-- What is left without a beginning is what stood behind it. -/
theorem dropBeginning?_eq_some_iff :
    dropBeginning? beginning text = some rest ↔ text = beginning ++ rest := by
  induction beginning generalizing text with
  | nil => exact ⟨fun h => Option.some.inj h, fun h => congrArg some h⟩
  | cons b bs ih =>
    cases text with
    | nil => exact ⟨nofun, nofun⟩
    | cons u us =>
      rw [dropBeginning?, List.cons_append, List.cons.injEq]
      by_cases hu : b = u
      · rw [if_pos hu, ih]
        exact (and_iff_right hu.symm).symm
      · rw [if_neg hu]
        exact ⟨nofun, fun h => absurd h.1.symm hu⟩

/-- A text starts with its prefixes. -/
theorem startsWith_iff : text.startsWith beginning = true ↔ beginning <+: text := by
  rw [startsWith, Option.isSome_iff_exists]
  exact exists_congr fun rest => dropBeginning?_eq_some_iff.trans eq_comm

/-- A text ends with its suffixes. -/
theorem endsWith_iff : text.endsWith ending = true ↔ ending <:+ text := by
  rw [endsWith, startsWith_iff, List.reverse_prefix]

/-- A text includes its infixes. -/
theorem includes_iff : includes part text = true ↔ part <:+: text := by
  induction text with
  | nil => rw [includes, List.isEmpty_iff, List.infix_nil]
  | cons u us ih => rw [includes, Bool.or_eq_true, startsWith_iff, ih, List.infix_cons_iff]

end UnitOfWork.Text
