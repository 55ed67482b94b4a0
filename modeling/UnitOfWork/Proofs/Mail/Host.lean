import Mathlib.Data.List.TakeWhile
import UnitOfWork.Mail.Host
import UnitOfWork.Proofs.Number.Numerals

/-!
# Names and ports of mail hosts

A text is split at its last colon, if a port follows it and a name on one line stands before it.
There is one way to split a text like that (`split?_eq_some_iff`), so a host that is written with
its port is read back, whatever colons and digits its name holds, and any other text is a name
without a port (`ofText_named`).
-/

namespace UnitOfWork.MailHost

open Text (isDigit isLineEnd)

variable {t host digits : Text}

/-- A name that a port may follow. -/
structure IsName (host : Text) : Prop where
  ne_nil : host ≠ []
  oneLine : ∀ u ∈ host, isLineEnd u = false

/-- A port as it is written: a run of digits. -/
structure IsPort (digits : Text) : Prop where
  ne_nil : digits ≠ []
  digits : ∀ u ∈ digits, isDigit u = true

/-- A name with a port behind a colon. -/
def withPort (host digits : Text) : Text :=
  host ++ Text.unit ':' :: digits

/-- A decimal numeral is a port, with zeros in front too. -/
theorem IsPort.ofNat (zeros port : Nat) :
    IsPort (List.replicate zeros (Text.unit '0') ++ Text.ofNat port) := by
  refine ⟨List.append_ne_nil_of_right_ne_nil _ (Text.ofNat_ne_nil port), fun u hu => ?_⟩
  rcases List.mem_append.1 hu with hu | hu
  · exact Text.isDigit_of_mem_zeros hu
  · exact Text.isDigit_of_mem_ofNat hu

/-- What stands behind the last colon is digits only, so reading from the end stops at that
colon. -/
theorem span_reverse_withPort (hdigits : IsPort digits) (host : Text) :
    (withPort host digits).reverse.span isDigit = (digits.reverse, Text.unit ':' :: host.reverse) := by
  have hreverse : (withPort host digits).reverse = digits.reverse ++ Text.unit ':' :: host.reverse := by
    simp [withPort]
  rw [hreverse]
  refine Text.span_isDigit_append (fun u hu => hdigits.digits u (List.mem_reverse.1 hu)) fun u hu => ?_
  obtain rfl := Option.some.inj hu
  decide

/-- A text is split into a name and the digits of a port exactly if it is these two with a colon
between them. -/
theorem split?_eq_some_iff :
    split? t = some (host, digits) ↔ IsName host ∧ IsPort digits ∧ t = withPort host digits := by
  constructor
  · intro h
    have happend := List.takeWhile_append_dropWhile (p := isDigit) (l := t.reverse)
    rw [split?, List.span_eq_takeWhile_dropWhile] at h
    cases hrest : t.reverse.dropWhile isDigit with
    | nil => simp [hrest] at h
    | cons colon name =>
      simp only [hrest, Option.ite_none_right_eq_some, Option.some.injEq, Prod.mk.injEq] at h
      obtain ⟨⟨rfl, hrun, hname, hline⟩, rfl, rfl⟩ := h
      refine ⟨⟨by simpa using hname, by simpa using hline⟩, ⟨by simpa using hrun, fun u hu => ?_⟩, ?_⟩
      · exact List.mem_takeWhile_imp (List.mem_reverse.1 hu)
      · refine (List.reverse_eq_iff.1 happend.symm).trans ?_
        simp [hrest, withPort]
  · rintro ⟨hhost, hdigits, rfl⟩
    rw [split?, span_reverse_withPort hdigits]
    have hname : (host.reverse.any isLineEnd) = false := by
      simpa using hhost.oneLine
    simp [hname, hhost.ne_nil, hdigits.ne_nil]

/-- The number of a port is the one that its numeral writes, whatever zeros stand in front. -/
theorem portNumber_ofNat {port : Nat} (h : port < 2 ^ 53) (zeros : Nat) :
    portNumber (List.replicate zeros (Text.unit '0') ++ Text.ofNat port) = .finite port := by
  simp only [portNumber, Text.digitsValue_zeros_append, Text.digitsValue_ofNat]
  exact Numeral.scale_natCast h

/-- A name with a port in decimal behind it is read as the two, and a text that is no name with
digits behind a colon is a name with the port for submitting mail. -/
theorem ofText_named :
    (∀ (host : Text) (port zeros : Nat), IsName host → port < 2 ^ 53 →
        ofText (withPort host (List.replicate zeros (Text.unit '0') ++ Text.ofNat port))
          = ⟨host, .finite port⟩)
      ∧ ∀ t : Text, (¬ ∃ host digits, IsName host ∧ IsPort digits ∧ t = withPort host digits) →
          ofText t = ⟨t, .finite 587⟩ := by
  constructor
  · intro host port zeros hhost hport
    have hsplit := split?_eq_some_iff.2 ⟨hhost, IsPort.ofNat zeros port, rfl⟩
    rw [ofText, hsplit]
    simp only [portNumber_ofNat hport]
  · intro t ht
    have hsplit : split? t = none := by
      cases h : split? t with
      | none => rfl
      | some parts => exact absurd ⟨parts.1, parts.2, split?_eq_some_iff.1 h⟩ ht
    have hdefault : defaultPort = .finite 587 := Number.round_natCast (n := 587) (by decide)
    rw [ofText, hsplit]
    simp only [hdefault]

/-- A name that ends like a host with a port keeps its colons, and a colon that no digit follows
splits nothing. -/
theorem ofText_named_colons :
    IsName "::1:25" ∧ ofText "::1:25:0465" = ⟨"::1:25", .finite 465⟩
      ∧ ofText "mail:" = ⟨"mail:", .finite 587⟩ := by
  have hline : ("::1:25" : Text).any isLineEnd = false := by decide
  have hname : IsName "::1:25" :=
    ⟨by decide, fun u hu => Bool.eq_false_iff.2 (List.any_eq_false.1 hline u hu)⟩
  have hnone : ¬ ∃ host digits, IsName host ∧ IsPort digits
    ∧ ("mail:" : Text) = withPort host digits := by
    rintro ⟨host, digits, -, hdigits, heq⟩
    have hlast : digits.getLast hdigits.ne_nil = Text.unit ':' := by
      have := congrArg List.getLast? heq
      rw [withPort, List.getLast?_append_cons, List.getLast?_cons_of_ne_nil hdigits.ne_nil,
        List.getLast?_eq_some_getLast hdigits.ne_nil] at this
      exact (Option.some.inj this).symm
    have hdigit := hdigits.digits _ (List.getLast_mem hdigits.ne_nil)
    rw [hlast] at hdigit
    exact absurd hdigit (by decide)
  refine ⟨hname, ?_, ofText_named.2 "mail:" hnone⟩
  exact ofText_named.1 "::1:25" 465 1 hname (by decide)

end UnitOfWork.MailHost
