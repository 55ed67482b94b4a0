import UnitOfWork.Proofs.InPlace.Office
import UnitOfWork.Proofs.Publisher.Attempts

/-!
# Honest histories

A history is honest if whatever a session hands over is settled at once on the bus that the registry
of the session was made for, and if nothing else is published or parked. A publisher of a data layer
does what its notes tell (`Scene.publisher_tells`), so handing over keeps a history honest
(`Scene.run_handOver`).
-/

namespace UnitOfWork.InPlace

variable {υ : Type}

/-- How often a publisher of a data layer tries to publish a message. -/
def attempts : Nat := 3

/-- Where nothing else is said there are three attempts. -/
theorem defaultAttempts_eq : Publisher.defaultAttempts = .finite attempts := by
  decide +kernel

/-- What is noted of a publisher that publishes on a bus. -/
def notes (bus : BusRef) : Publisher.Notes Event where
  published message f := .published bus message f
  paused _ := []
  parked letter := .parked letter

/-- An event by which nothing is handed over, published or parked. -/
def Event.Apart : Event → Prop
  | handedOver _ _ | published _ _ _ | parked _ => False
  | _ => True

/-- Whatever a session hands over is settled at once, on the bus of the session, and nothing else is
published or parked. -/
inductive Honest (busOf? : SessionRef → Option BusRef) : List Event → Prop where
  | nil : Honest busOf? []
  | other {e : Event} {rest : List Event} (h : e.Apart) (hrest : Honest busOf? rest) :
      Honest busOf? (e :: rest)
  | handOver {ref : SessionRef} {messages : List Message} {bus : BusRef} {block rest : List Event}
      (hbus : busOf? ref = some bus) (hblock : (notes bus).AllSettled attempts messages block)
      (hrest : Honest busOf? rest) :
      Honest busOf? (.handedOver ref messages :: (block ++ rest))

namespace Honest

variable {busOf? busOf?' : SessionRef → Option BusRef} {history more : List Event}

/-- Two histories that are honest are so one after the other. -/
theorem append (h : Honest busOf? history) (hmore : Honest busOf? more) :
    Honest busOf? (history ++ more) := by
  induction h with
  | nil => exact hmore
  | other happart _ ih => exact .other happart ih
  | handOver hbus hblock _ ih =>
    rw [List.cons_append, List.append_assoc]
    exact .handOver hbus hblock ih

/-- A history stays honest while more sessions are opened. -/
theorem mono (h : Honest busOf? history)
    (hbus : ∀ ref bus, busOf? ref = some bus → busOf?' ref = some bus) : Honest busOf?' history := by
  induction h with
  | nil => exact .nil
  | other happart _ ih => exact .other happart ih
  | handOver href hblock _ ih => exact .handOver (hbus _ _ href) hblock ih

/-- Events apart from the buses are honest. -/
theorem of_apart (h : ∀ e ∈ history, e.Apart) : Honest busOf? history := by
  induction history with
  | nil => exact .nil
  | cons e rest ih =>
    obtain ⟨he, hrest⟩ := List.forall_mem_cons.1 h
    exact .other he (ih hrest)

end Honest

/-! ## What a publisher does -/

/-- The second office follows the first by a stretch of history. The data layer and the sessions
that were opened are the same. -/
structure Office.Adds (block : List Event) (o o' : Office υ) : Prop where
  layer : o'.layer = o.layer
  owners : o'.owners = o.owners
  history : o'.history = o.history ++ block

namespace Office.Adds

variable {block more : List Event} {o o₁ o₂ : Office υ}

/-- What is added in two parts is added. -/
theorem trans (h : o.Adds block o₁) (h' : o₁.Adds more o₂) : o.Adds (block ++ more) o₂ where
  layer := h'.layer.trans h.layer
  owners := h'.owners.trans h.owners
  history := by rw [h'.history, h.history, List.append_assoc]

/-- What is not noted, and leaves the data layer and the sessions alone. -/
theorem nothing {o o' : Office υ} (hlayer : o'.layer = o.layer) (howners : o'.owners = o.owners)
    (hhistory : o'.history = o.history) : o.Adds [] o' :=
  ⟨hlayer, howners, hhistory.trans (List.append_nil _).symm⟩

/-- A note adds itself. -/
theorem note (o : Office υ) (e : Event) : o.Adds [e] (o.note e) :=
  ⟨rfl, rfl, rfl⟩

end Office.Adds

namespace Scene

variable (T : Scene υ)

/-- Nothing but the log changes when an entry is written. -/
theorem run_write (level : Level) (message : Text) (fields : Json.Members) (o : Office υ) :
    ∃ platform, (T.journal.write level message fields).run T.serve o = (.ok (), { o with platform }) := by
  obtain ⟨log, hrun⟩ := T.journal.exists_run_write T.serve (T.dated o) level message fields
  exact ⟨{ o.platform with log }, hrun⟩

/-- A publisher does what its notes tell. -/
theorem publisher_tells (registry : RegistryRef) (bus : BusRef) :
    (notes bus).Tell (T.publisher registry bus) T.serve Office.Adds attempts where
  limit := defaultAttempts_eq
  nil _ := .nothing rfl rfl rfl
  trans := Office.Adds.trans
  writes level message fields o := by
    obtain ⟨platform, hrun⟩ := T.run_write level message fields o
    exact ⟨_, hrun, .nothing rfl rfl rfl⟩
  publishes message o := ⟨_, _, rfl, .note o _, T.sayable o bus message⟩
  pauses ms o := ⟨o, rfl, .nothing rfl rfl rfl⟩
  parks letter o := by
    refine ⟨rfl, rfl, ?_⟩
    show o.history ++ List.map _ (List.drop _ (o.letters registry ++ [letter])) = _
    rw [List.drop_left]
    rfl

/-- What a session hands over is settled on its bus. -/
theorem run_handOver {o : Office υ} {ref : SessionRef} {bus : BusRef} (hbus : o.busOf? ref = some bus)
    (messages : List Message) :
    ∃ o' block, ((T.session ref).handOver messages).run T.serve o = (.ok (), o')
      ∧ o.Adds (.handedOver ref messages :: block) o'
      ∧ (notes bus).AllSettled attempts messages block := by
  obtain ⟨o', block, hrun, hadds, hall⟩ := (T.publisher_tells (o.owners.getD ref 0) bus).run_flush
    (Journal.field "sessionId" (T.label ref)) (by decide) messages (o.note (.handedOver ref messages))
  refine ⟨o', block, ?_, (Office.Adds.note o _).trans hadds, hall⟩
  show ((T.publisher _ ((o.busOf? ref).getD _)).flush _ messages).run T.serve _ = _
  rw [hbus]
  exact hrun

end Scene

end UnitOfWork.InPlace
