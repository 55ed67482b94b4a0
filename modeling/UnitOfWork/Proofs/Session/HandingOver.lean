import UnitOfWork.Proofs.Session.Holding
import UnitOfWork.Proofs.Session.Quiet

/-!
# What is held while messages are handed over

A commit that ends a transaction has given the connection back before it hands over. One that finds
no transaction active gives nothing back, so it may hand over while a connection is held.
`kept_at_handOver_iff` says exactly when: the last thing that was done with the connection is a
BEGIN or a COMMIT that failed, or a ROLLBACK.
-/

namespace UnitOfWork.Trial

variable {υ α : Type} {kinds : Action → Prop} {s s' : SessionState} {H P S block : List SessionEvent}

/-! ## What hands over, and where -/

/-- Where messages are handed over there is a batch. -/
theorem batches_ne_nil {messages : List Message} : batches (P ++ .handedOver messages :: S) ≠ [] := by
  simp [batches, SessionEvent.batch?]

/-- Only a commit that succeeds hands over, and that is the last thing it does: before it either
nothing is done with a connection, as no transaction is active, or the connection is given back. -/
theorem Does.hands {call : SessionCall} {f : Option Fault} (h : Does s call block f s') :
    batches block = []
      ∨ call = .commit ∧ f = none ∧ ∃ b, block = b ++ handing s.outbox.entries ∧ batches b = []
        ∧ (lastMove b = none ∧ s.activeConnection? = none
          ∨ ∃ c g, lastMove b = some (.released c g)) := by
  cases h with
  | connected h => exact .inl (batches_of_quiet h.quiet)
  | queried h => exact .inl (by rw [batches_append, batches_of_quiet h.quiet]; rfl)
  | notQueried h => exact .inl (batches_of_quiet h.quiet)
  | committed ho hc => exact .inr ⟨rfl, rfl, _, rfl, rfl, .inr ⟨_, _, rfl⟩⟩
  | flushed ho hc => exact .inr ⟨rfl, rfl, [], rfl, rfl, .inl ⟨rfl, hc⟩⟩
  | _ => exact .inl rfl

/-- Where nothing else is handed over, there is one place for it. -/
theorem eq_of_append_handing {b b' : List SessionEvent} {messages messages' : List Message}
    (hb : batches b = []) (hb' : batches b' = [])
    (h : b ++ handing messages ++ b' = P ++ .handedOver messages' :: S) :
    P = b ∧ messages' = messages ∧ S = b' := by
  induction b generalizing P with
  | nil =>
    cases messages with
    | nil =>
      rw [List.nil_append, handing, List.isEmpty_nil, if_pos rfl, List.nil_append] at h
      exact absurd (h ▸ hb') batches_ne_nil
    | cons m rest =>
      cases P with
      | nil =>
        cases h
        exact ⟨rfl, rfl, rfl⟩
      | cons e P =>
        have hrest : b' = P ++ .handedOver messages' :: S := (List.cons.inj h).2
        exact absurd (hrest ▸ hb') batches_ne_nil
  | cons x b ih =>
    cases P with
    | nil =>
      cases h
      cases hb
    | cons e P =>
      have hb₁ : batches b = [] := by
        rw [← List.singleton_append, batches_append] at hb
        exact (List.append_eq_nil_iff.1 hb).2
      obtain ⟨hx, hrest⟩ := List.cons.inj h
      obtain ⟨rfl, hmessages, hS⟩ := ih hb₁ hrest
      exact ⟨by rw [hx], hmessages, hS⟩

/-- When a step hands over, either nothing was done with a connection before and no transaction is
active, or the connection was given back last. -/
theorem SessionStep.before_handOver {a : Action} {messages : List Message}
    (h : SessionStep s a (P ++ .handedOver messages :: S) s') :
    lastMove P = none ∧ s.activeConnection? = none ∨ ∃ c g, lastMove P = some (.released c g) := by
  generalize hblock : P ++ .handedOver messages :: S = block at h
  have hsome : batches block ≠ [] := hblock ▸ batches_ne_nil
  cases h with
  | @called call inner f _ hdoes =>
    rcases hdoes.hands with hquiet | ⟨-, -, b, rfl, hb, hwhere⟩
    · rw [batches_append, batches_append, hquiet] at hsome
      exact absurd rfl hsome
    · have hb' : batches ([.called call] ++ b) = [] := by rw [batches_append, hb]; rfl
      have hplace : [.called call] ++ b ++ handing s.outbox.entries ++ [.settled call f]
          = P ++ .handedOver messages :: S := by rw [hblock]; simp
      obtain ⟨rfl, -, -⟩ := eq_of_append_handing hb' rfl hplace
      have hlast : lastMove ([.called call] ++ b) = lastMove b := by
        rw [lastMove_append]
        exact Option.or_none
      rw [hlast]
      exact hwhere
  | driven hdoes =>
    rcases hdoes.hands with hquiet | ⟨-, -, b, rfl, hb, hwhere⟩
    · exact absurd hquiet hsome
    · have hplace : b ++ handing s.outbox.entries ++ [] = P ++ .handedOver messages :: S := by
        rw [List.append_nil, hblock]
      obtain ⟨rfl, -, -⟩ := eq_of_append_handing hb rfl hplace
      exact hwhere
  | connected hconn => exact absurd (batches_of_quiet hconn.quiet) hsome
  | _ => exact absurd rfl hsome

/-! ## Where operations end -/

namespace SessionEvent

/-- The event never is the last thing that an operation does with a connection: one that was taken
is given a transaction, or the attempt at that fails, and one whose transaction was committed is
given back. -/
def Passing : SessionEvent → Prop
  | reserved (.ok _) | executed _ .commit none => True
  | _ => False

/-- The event leaves a connection in hand without a transaction on it. -/
def Strands (c : Connection) : SessionEvent → Prop
  | executed c' (.begin _) (some _) | executed c' .commit (some _) | executed c' .rollback _ => c' = c
  | _ => False

/-- What is held once nothing is passing and no transaction is active was left in hand. -/
theorem held_iff_strands {e : SessionEvent} {g : Grip} {c : Connection} (hg : e.grip? = some g)
    (hactive : g.active = false) (hpassing : ¬ e.Passing) : g.held = some c ↔ e.Strands c := by
  cases e with
  | executed c' statement f =>
    cases statement with
    | begin level =>
      cases f with
      | none => cases hg; cases hactive
      | some f => cases hg; exact Option.some_inj
    | commit =>
      cases f with
      | none => exact absurd trivial hpassing
      | some f => cases hg; exact Option.some_inj
    | rollback => cases hg; exact Option.some_inj
    | _ => cases hg
  | reserved r =>
    cases r with
    | ok c' => exact absurd trivial hpassing
    | error f => cases hg
  | released c' f =>
    cases hg
    exact ⟨nofun, False.elim⟩
  | _ => cases hg

end SessionEvent

/-- The last thing that is done with a connection is not passing. -/
def Rests (H : List SessionEvent) : Prop :=
  ∀ e, lastMove H = some e → ¬ e.Passing

/-- Two histories that end at rest do so one after the other. -/
theorem Rests.append {B : List SessionEvent} (h : Rests H) (hB : Rests B) : Rests (H ++ B) := by
  intro e he
  rw [lastMove_append, Option.or_eq_some_iff] at he
  rcases he with he | ⟨-, he⟩
  · exact hB e he
  · exact h e he

/-- Where nothing is done with a connection everything rests. -/
theorem rests_of_lastMove_eq_none (h : lastMove H = none) : Rests H := by
  intro e he
  rw [h] at he
  cases he

/-- A history rests after an event that moves the grip and is not passing. -/
theorem rests_snoc {e : SessionEvent} (hmove : e.grip?.isSome = true) (he : ¬ e.Passing) :
    Rests (H ++ [e]) := by
  intro e' he'
  rw [lastMove_append, lastMove_singleton, if_pos hmove] at he'
  cases he'
  exact he

/-- Connecting ends at rest, whatever fails. -/
theorem Connects.rests {r : Except Fault Connection} (h : Connects s block r s') : Rests block := by
  cases h with
  | stuck ho h hi => exact rests_snoc rfl id
  | began ho h hi => exact rests_snoc rfl id
  | _ => exact rests_of_lastMove_eq_none rfl

/-- Handing messages over does nothing with a connection. -/
theorem rests_handing (messages : List Message) : Rests (handing messages) := by
  cases messages <;> exact rests_of_lastMove_eq_none rfl

/-- A call ends at rest, whatever fails. -/
theorem Does.rests {call : SessionCall} {f : Option Fault} (h : Does s call block f s') :
    Rests block := by
  cases h with
  | connected h => exact h.rests
  | queried h => exact h.rests.append (rests_of_lastMove_eq_none rfl)
  | notQueried h => exact h.rests
  | @notCommitted c f ho hc => exact rests_snoc (H := []) rfl id
  | @committed c f ho hc =>
    exact (rests_snoc (H := [.executed c .commit none]) rfl id).append (rests_handing _)
  | flushed ho hc => exact rests_handing _
  | rolledBack ho hc => exact rests_snoc (H := []) rfl id
  | closedIdle ho hc hi => exact rests_snoc (H := []) rfl id
  | @closedActive c f g ho hc ha => exact rests_snoc (H := [.executed c .rollback f]) rfl id
  | _ => exact rests_of_lastMove_eq_none rfl

/-- The events of a step of a session end at rest. -/
theorem SessionStep.rests {a : Action} (h : SessionStep s a block s') : Rests block := by
  cases h with
  | called hdoes =>
    exact ((rests_of_lastMove_eq_none rfl).append hdoes.rests).append (rests_of_lastMove_eq_none rfl)
  | driven hdoes => exact hdoes.rests
  | connected hconn => exact hconn.rests
  | @executed c statement hplain f =>
    cases statement <;> first | exact rests_of_lastMove_eq_none rfl | cases hplain
  | _ => exact rests_of_lastMove_eq_none rfl

/-- Between two steps a history rests. -/
theorem Reachable.rests (h : Reachable kinds s H) : Rests H := by
  induction h with
  | start => exact rests_of_lastMove_eq_none rfl
  | step h hstep hkind hfresh ih => exact ih.append hstep.rests

/-! ## Whole histories -/

/-- Whenever messages are handed over, the history rests and no transaction is active. -/
theorem Reachable.at_handOver (h : Reachable kinds s H) {messages : List Message}
    (heq : H = P ++ .handedOver messages :: S) : Rests P ∧ (gripAfter P).active = false := by
  induction h generalizing P S with
  | start => simp at heq
  | @step s s' H block a h hstep hkind hfresh ih =>
    rcases append_eq_append_cons heq with ⟨S₀, hH, rfl⟩ | ⟨X, rfl, rfl⟩
    · exact ih hH
    · rcases hstep.before_handOver with ⟨hnone, hidle⟩ | ⟨c, g, hlast⟩
      · -- nothing was done with a connection in this step, so the history rests as it did before it
        refine ⟨h.rests.append (rests_of_lastMove_eq_none hnone), ?_⟩
        rw [gripAfter_append, gripFrom, hnone, h.gripAfter_eq]
        exact decide_eq_false (h.orderly.sound.idle hidle)
      · have hmove : lastMove (H ++ X) = some (.released c g) := by
          rw [lastMove_append, hlast, Option.some_or]
        refine ⟨fun e he => ?_, by rw [gripAfter, gripFrom, hmove]; rfl⟩
        rw [hmove] at he
        cases he
        exact id

/-- Whenever a session hands messages over, in every run of work and whatever fails, the session
keeps a connection exactly if the last thing that was done with one is a BEGIN or a COMMIT on it
that failed, or a ROLLBACK. -/
theorem kept_at_handOver_iff (w : Surroundings) {work : Work υ α} (hwork : work.Sayable) (own : υ)
    (ref : SessionRef) :
    ∀ P messages S, ((work.play w).run w.serve { own := own }).2.eventsOf ref
        = P ++ .handedOver messages :: S →
      ∀ c, Kept c P ↔ ∃ e, lastMove P = some e ∧ e.Strands c := by
  intro P messages S heq c
  have hreach := (Work.wellFormed w hwork (.start false own)).reachable ref
  rw [heq] at hreach
  obtain ⟨hrests, hidle⟩ := hreach.at_handOver rfl
  rw [gripAfter, gripFrom] at hidle
  rw [hreach.kept_iff, gripAfter, gripFrom]
  cases hlast : lastMove P with
  | none => simp
  | some e =>
    obtain ⟨g, hg⟩ := Option.isSome_iff_exists.1 (grip?_isSome_of_lastMove hlast)
    rw [hlast, Option.bind_some, hg, Option.getD_some] at hidle
    simpa [hg] using SessionEvent.held_iff_strands hg hidle (hrests e hlast)

/-- Work that ends its transaction with a call, then queues a message and commits. -/
def publishLate (ending : SessionCall) : Work Unit Unit :=
  .openSession fun ref =>
  .call ref .connection fun _ =>
  .call ref ending fun _ =>
  .call ref (.queueMessage "orders" (some (.str "late"))) fun _ =>
  .call ref .commit fun _ => .done (.ok ())

/-- What happens in the session of that work before it hands over. -/
def beforePublishLate (ending : SessionCall) (statement : Statement) (f : Option Fault) :
    List SessionEvent :=
  [.called .connection, .reserved (.ok ⟨1⟩), .executed ⟨1⟩ (.begin .readCommitted) none,
    .settled .connection none, .called ending, .executed ⟨1⟩ statement f, .settled ending f,
    .called (.queueMessage "orders" (some (.str "late"))),
    .settled (.queueMessage "orders" (some (.str "late"))) none, .called .commit]

/-- A connection on which COMMIT failed is still held when the next commit hands over. -/
theorem kept_after_failed_commit :
    let f : Fault := .error ⟨.connectionFailed, "gone"⟩
    let P := beforePublishLate .commit .commit (some f)
    (((publishLate .commit).play unfinishing).run unfinishing.serve { own := () }).2.eventsOf 0
        = P ++ .handedOver [⟨"orders", "late"⟩] :: [.settled .commit none]
      ∧ Kept ⟨1⟩ P := by
  intro f P
  have hwork : (publishLate .commit).Sayable := fun _ _ _ _ _ _ _ _ _ => settles_ok ()
  have hevents : (((publishLate .commit).play unfinishing).run unfinishing.serve
      { own := () }).2.eventsOf 0
      = P ++ .handedOver [⟨"orders", "late"⟩] :: [.settled .commit none] := rfl
  exact ⟨hevents, (kept_at_handOver_iff unfinishing hwork () 0 P _ _ hevents ⟨1⟩).2 ⟨_, rfl, rfl⟩⟩

/-- Nothing has to fail: after a rollback the connection is held while messages are handed over. -/
theorem kept_after_rollback :
    let P := beforePublishLate .rollback .rollback none
    (((publishLate .rollback).play .calm).run Surroundings.calm.serve { own := () }).2.eventsOf 0
        = P ++ .handedOver [⟨"orders", "late"⟩] :: [.settled .commit none]
      ∧ Kept ⟨1⟩ P :=
  ⟨rfl, by decide, rfl⟩

end UnitOfWork.Trial
