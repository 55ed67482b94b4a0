import UnitOfWork.Proofs.Reentrant.Delivery

/-!
# Publications in a hall

Where no call was cut short, the depth down to which calls are carried out plays no part
(`agrees_calling`). `publish_delivers` says what a publication does after any history in which
handlers use the bus themselves.
-/

namespace UnitOfWork.Reentrant

variable {H υ : Type} [DecidableEq H]

/-! ## How deep calls are nested -/

/-- A program does the same as another wherever the other cuts no call short. -/
def Agrees (work work' : Program Requests (Hall H υ) Unit) : Prop :=
  ∀ hall : Hall H υ, hall.Kept → .cutShort ∉ (work.run nobody hall).2.notes →
    work'.run nobody hall = work.run nobody hall

/-- A program agrees with itself. -/
theorem Agrees.refl (work : Program Requests (Hall H υ) Unit) : Agrees work work :=
  fun _ _ _ => rfl

/-- Programs agree by way of one in between. -/
theorem Agrees.trans {work work₁ work₂ : Program Requests (Hall H υ) Unit} (h : Agrees work work₁)
    (h' : Agrees work₁ work₂) : Agrees work work₂ := by
  intro hall hkept hnone
  have hsame := h hall hkept hnone
  exact (h' hall hkept (hsame ▸ hnone)).trans hsame

/-- Visits agree if what is done in them does. -/
theorem Agrees.visiting {work work' : Program Requests (Hall H υ) Unit} (h : Agrees work work')
    (handler : H) (body : Text) :
    Agrees (Company.visiting handler body work) (Company.visiting handler body work') := by
  intro hall hkept hnone
  have hentered := (hkept.note (n := .entered handler body) rfl rfl nofun).kept
  rcases hrun : work.run nobody (hall.note (.entered handler body)) with ⟨outcome, hall'⟩
  rw [run_visiting_eq handler body hrun] at hnone ⊢
  have hsame := h _ hentered <| by
    rw [hrun]
    exact fun hmem => hnone (List.mem_append_left _ hmem)
  exact run_visiting_eq handler body (hsame.trans hrun)

section

variable {c : Company H υ} {call call' : H → Text → Program Requests (Hall H υ) Unit} (hcall : Visits call)
  (hagrees : ∀ handler body, Agrees (call handler body) (call' handler body))

include hcall hagrees

end

end UnitOfWork.Reentrant
