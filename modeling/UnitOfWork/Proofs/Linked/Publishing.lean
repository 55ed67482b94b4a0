import UnitOfWork.Proofs.Linked.Sessions

/-!
# Linked publishers

Two publishers that do the same about each message are linked (`Publisher.Linked.flush`). Where the
bus of a system is not compared, its publisher works by itself: a flush comes to an end, whatever
the bus does, and leaves nothing behind that shows (`Publisher.Aside.flush`).
-/

namespace UnitOfWork.Publisher

variable {S : Signature} {σ σ' : Type}

/-- Publishers that are linked. -/
structure Linked (L : SessionLink S σ σ') (P : Publisher S σ) (P' : Publisher S σ') : Prop where
  journal : L.Journals P.journal P'.journal
  maxAttempts_eq : P.maxAttempts = P'.maxAttempts
  publish : ∀ message,
    UnitOfWork.Linked L.toLink (fun _ _ => True) (P.publish message) (P'.publish message)
  sleep : ∀ ms, UnitOfWork.Linked L.toLink (fun _ _ => True) (P.sleep ms) (P'.sleep ms)
  letters : ∀ f f', L.Moves (P.deadLetters.update f) (P'.deadLetters.update f')

namespace Linked

variable {L : SessionLink S σ σ'} {P : Publisher S σ} {P' : Publisher S σ'} (h : Linked L P P')

include h

/-- Attempts to publish a message are linked, however many are left. -/
theorem tryFrom (origin origin' : Json.Members) (message : Message) (left attempt : Nat) :
    UnitOfWork.Linked L.toLink (fun _ _ => True) (P.tryFrom origin message left attempt)
      (P'.tryFrom origin' message left attempt) := by
  induction left generalizing attempt with
  | zero => exact .pure trivial
  | succ left ih =>
    refine (h.publish message).rescue fun f f' hf => ?_
    refine UnitOfWork.Linked.bind (.done (L.toError f f' hf)) fun e e' he => ?_
    rw [h.maxAttempts_eq]
    refine .ite (fun _ => ?_) fun _ => ?_
    · refine (h.journal.writeFault he ..).bind fun _ _ _ => ?_
      exact (h.sleep _).bind fun _ _ _ => ih (attempt + 1)
    · refine UnitOfWork.Linked.bind (V := fun _ _ => True) (.read fun _ _ _ => trivial) fun now now' _ => ?_
      refine (UnitOfWork.Linked.change (h.letters _ _)).bind fun _ _ _ => ?_
      exact (h.journal.writeFault he ..).bind fun _ _ _ => ih (attempt + 1)

/-- Flushes of the same batch are linked. -/
theorem flush (origin origin' : Json.Members) (messages : List Message) :
    UnitOfWork.Linked L.toLink (fun _ _ => True) (P.flush origin messages)
      (P'.flush origin' messages) := by
  induction messages with
  | nil => exact .pure trivial
  | cons message rest ih =>
    refine (h.journal.write ..).bind fun _ _ _ =>
      UnitOfWork.Linked.bind (V := fun _ _ => True) ?_ fun _ _ _ => ih
    rw [publishOrPark, publishOrPark, h.maxAttempts_eq]
    exact h.tryFrom origin origin' message _ 1

end Linked

/-- A publisher that works by itself, as long as the bus fails with what can be told. -/
structure Aside (L : SessionLink S σ σ') (P : Publisher S σ) : Prop where
  journal : L.WritesFirst P.journal
  publish : ∀ message (handler : Fault → Program S σ Unit),
    (∀ f, f.Sayable → UnitOfWork.Linked L.toLink (fun _ _ => True) (handler f)
      (Pure.pure () : Program S σ' Unit)) →
    UnitOfWork.Linked L.toLink (fun _ _ => True) ((P.publish message).rescue handler)
      (Pure.pure () : Program S σ' Unit)
  sleep : ∀ ms, UnitOfWork.Linked L.toLink (fun _ _ => True) (P.sleep ms)
    (Pure.pure () : Program S σ' Unit)
  letters : ∀ f, L.Moves (P.deadLetters.update f) id

namespace Aside

variable {L : SessionLink S σ σ'} {P : Publisher S σ} (h : Aside L P)

include h

/-- Attempts to publish a message come to an end by themselves, however many are left. -/
theorem tryFrom (origin : Json.Members) (message : Message) (left attempt : Nat) :
    UnitOfWork.Linked L.toLink (fun _ _ => True) (P.tryFrom origin message left attempt)
      (Pure.pure () : Program S σ' Unit) := by
  induction left generalizing attempt with
  | zero => exact .pure trivial
  | succ left ih =>
    refine h.publish message _ fun f hf => ?_
    obtain ⟨e, he, hsayable⟩ := hf.toError
    rw [he]
    show UnitOfWork.Linked L.toLink _ (if _ then _ else _) _
    split
    · exact (h.journal.writeFault hsayable ..).afterFirst ((h.sleep _).afterFirst (ih (attempt + 1)))
    · refine .actFirst (fun s s' hs => ⟨hs, L.first_refl s, L.second_refl s'⟩) fun s => ?_
      refine .actFirst (h.letters _) fun _ => ?_
      exact (h.journal.writeFault hsayable ..).afterFirst (ih (attempt + 1))

/-- A flush comes to an end. -/
theorem flush (origin : Json.Members) (messages : List Message) :
    UnitOfWork.Linked L.toLink (fun _ _ => True) (P.flush origin messages)
      (Pure.pure () : Program S σ' Unit) := by
  induction messages with
  | nil => exact .pure trivial
  | cons message rest ih =>
    exact (h.journal ..).afterFirst ((h.tryFrom origin message _ 1).afterFirst ih)

end Aside

end UnitOfWork.Publisher
