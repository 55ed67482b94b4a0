import Mathlib.Data.List.TakeWhile
import UnitOfWork.Fault
import UnitOfWork.Proofs.Text.Parts

/-!
# What points at a missing role

A missing role or a refused password is told by the code of an error or by its message, whatever the
capitals. `isMissingRole_iff` says that a fault is taken for one exactly if one of the three signs
is there.
-/

namespace UnitOfWork

/-- A part of the first line of a text: what stands before it is on that line too. -/
theorem Text.infix_takeWhile_iff {p : UInt16 → Bool} {part text : Text} (hpart : ∀ u ∈ part, p u = true) :
    part <:+: text.takeWhile p
      ↔ ∃ before after : Text, text = before ++ part ++ after ∧ ∀ u ∈ before, p u = true := by
  constructor
  · rintro ⟨before, after, hline⟩
    refine ⟨before, after ++ text.dropWhile p, ?_, fun u hu => ?_⟩
    · rw [← List.append_assoc, hline, List.takeWhile_append_dropWhile]
    · refine List.mem_takeWhile_imp (l := text) ?_
      rw [← hline, List.append_assoc]
      exact List.mem_append_left _ hu
  · rintro ⟨before, after, rfl, hbefore⟩
    have hfirst : ∀ u ∈ before ++ part, p u = true := fun u hu =>
      (List.mem_append.1 hu).elim (hbefore u) (hpart u)
    rw [List.takeWhile_append_of_pos hfirst]
    exact ⟨before, _, rfl⟩

namespace Fault

/-- The message of an error in small letters. -/
def smallMessage? (f : Fault) : Option Text :=
  f.info?.map fun info => Text.lowerAscii info.message

/-- A sign of a missing role or a refused password. -/
inductive PointsAtRole (f : Fault) : Prop where
  | code (code : Text) (hcode : f.textCode? = some code) (h : code = "28P01" ∨ code = "28000")
  | password (before after : Text)
      (h : f.smallMessage? = some (before ++ "password authentication failed for user" ++ after))
  /-- The name of the role stands on one line with what is said of it. -/
  | role (before name after : Text)
      (h : f.smallMessage? = some (before ++ ("role \"" ++ name ++ "\" does not exist" ++ after)))
      (hline : ∀ u ∈ name, Text.isLineEnd u = false)

/-- A role that is told to be missing, at the beginning of a text. -/
theorem tellsMissingRole_here_iff {text : Text} :
    (match Text.dropBeginning? "role \"" text with
      | some rest => Text.includes "\" does not exist" (rest.takeWhile (!Text.isLineEnd ·))
      | none => false) = true
      ↔ ∃ name after : Text, text = "role \"" ++ name ++ "\" does not exist" ++ after
        ∧ ∀ u ∈ name, Text.isLineEnd u = false := by
  have hphrase : ∀ u ∈ Text.ofString "\" does not exist", (!Text.isLineEnd u) = true :=
    List.all_eq_true.1 (by decide +kernel)
  cases hrest : Text.dropBeginning? "role \"" text with
  | none =>
    refine ⟨nofun, ?_⟩
    rintro ⟨name, after, rfl, -⟩
    rw [List.append_assoc, List.append_assoc, Text.dropBeginning?_eq_some_iff.2 rfl] at hrest
    cases hrest
  | some rest =>
    obtain rfl := Text.dropBeginning?_eq_some_iff.1 hrest
    rw [Text.includes_iff, Text.infix_takeWhile_iff hphrase]
    simp only [List.append_assoc, List.append_cancel_left_eq, Bool.not_eq_true']

/-- A role that is told to be missing, anywhere in a text. -/
theorem tellsMissingRole_iff {text : Text} :
    tellsMissingRole text = true ↔ ∃ before name after : Text,
      text = before ++ ("role \"" ++ name ++ "\" does not exist" ++ after)
        ∧ ∀ u ∈ name, Text.isLineEnd u = false := by
  induction text with
  | nil =>
    refine ⟨nofun, ?_⟩
    rintro ⟨before, name, after, h, -⟩
    exact absurd (List.append_eq_nil_iff.1 h.symm).2 (List.cons_ne_nil _ _)
  | cons u us ih =>
    rw [tellsMissingRole, Bool.or_eq_true]
    refine (or_congr tellsMissingRole_here_iff ih).trans ⟨?_, ?_⟩
    · rintro (⟨name, after, h, hline⟩ | ⟨before, name, after, rfl, hline⟩)
      · exact ⟨[], name, after, h, hline⟩
      · exact ⟨u :: before, name, after, rfl, hline⟩
    · rintro ⟨before, name, after, h, hline⟩
      cases before with
      | nil => exact .inl ⟨name, after, h, hline⟩
      | cons v before =>
        rw [List.cons_append, List.cons.injEq] at h
        exact .inr ⟨before, name, after, h.2, hline⟩

/-- The codes of a refused login are two. -/
theorem mem_authFailureCodes_iff {code : Text} :
    authFailureCodes.contains code = true ↔ code = "28P01" ∨ code = "28000" := by
  simp [authFailureCodes]

/-- A fault is taken for a missing role or a refused password exactly if it shows a sign of that. -/
theorem isMissingRole_iff {f : Fault} : f.isMissingRole = true ↔ f.PointsAtRole := by
  unfold isMissingRole
  cases hinfo : f.info? with
  | none =>
    have hcode : f.textCode? = none := by rw [textCode?, code?, hinfo]; rfl
    have hmessage : f.smallMessage? = none := by rw [smallMessage?, hinfo]; rfl
    refine ⟨nofun, ?_⟩
    rintro (⟨_, h, -⟩ | ⟨_, _, h⟩ | ⟨_, _, _, h, -⟩)
    · exact absurd (hcode.symm.trans h) nofun
    · exact absurd (hmessage.symm.trans h) nofun
    · exact absurd (hmessage.symm.trans h) nofun
  | some info =>
    have hmessage : f.smallMessage? = some (Text.lowerAscii info.message) := by
      rw [smallMessage?, hinfo]; rfl
    simp only [Bool.or_eq_true, Text.includes_iff, tellsMissingRole_iff]
    constructor
    · rintro (hcode | ⟨before, after, h⟩ | ⟨before, name, after, h, hline⟩)
      · cases htext : f.textCode? with
        | none => rw [htext] at hcode; cases hcode
        | some code =>
          rw [htext] at hcode
          exact .code code htext (mem_authFailureCodes_iff.1 hcode)
      · exact .password before after (h ▸ hmessage)
      · exact .role before name after (h ▸ hmessage) hline
    · rintro (⟨code, hcode, h⟩ | ⟨before, after, h⟩ | ⟨before, name, after, h, hline⟩)
      · refine .inl ?_
        rw [hcode]
        exact mem_authFailureCodes_iff.2 h
      · exact .inr (.inl ⟨before, after, (Option.some.inj (hmessage.symm.trans h)).symm⟩)
      · exact .inr (.inr ⟨before, name, after, Option.some.inj (hmessage.symm.trans h), hline⟩)

end Fault

end UnitOfWork
