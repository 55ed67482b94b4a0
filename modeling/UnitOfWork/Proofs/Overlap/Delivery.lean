import UnitOfWork.Proofs.Overlap.Crowd
import UnitOfWork.Proofs.Trial.Calls

/-!
# Deliveries among other programs

While a commit delivers its messages, other programs take turns. `Delivering` says of what is left
of a program that it delivers messages and no more, so that it touches no session however long it
takes: each of its turns leaves such a rest (`Delivering.turn`), and what the publisher does with
messages is such a program (`Delivering.flush`). `Desk.Follows` is what a turn of any call on a
session does to the desk.
-/

namespace UnitOfWork.Trial

variable {υ α β : Type}

/-! ## What follows on a desk -/

/-- The second desk follows the first by a block of one session's events, which leaves that session
in a new state. Connections that are taken are new. What is published in between does not show. -/
structure Desk.Follows (ref : SessionRef) (block : List SessionEvent) (s : SessionState)
    (d d' : Desk υ) : Prop where
  session_eq : d'.sessions ref = s
  eventsOf_eq : d'.eventsOf ref = d.eventsOf ref ++ block
  connections_le : d.connections ≤ d'.connections
  fresh : ∀ c ∈ taken block, d.connections < c.number ∧ c.number ≤ d'.connections

/-- The connections that a session took were handed out by then. -/
def Desk.Numbered (ref : SessionRef) (d : Desk υ) : Prop :=
  ∀ c ∈ taken (d.eventsOf ref), c.number ≤ d.connections

namespace Desk.Follows

variable {ref : SessionRef} {b b' : List SessionEvent} {s s' : SessionState} {d d₁ d₂ : Desk υ}

/-- What a session takes part in follows for what shows of it. -/
theorem of_takes (h : d.Takes ref b s d₁) : d.Follows ref b s d₁ :=
  ⟨h.session_eq, h.eventsOf_eq, h.connections, h.fresh⟩

/-- A desk follows itself by no events. -/
theorem refl (d : Desk υ) (ref : SessionRef) : d.Follows ref [] (d.sessions ref) d :=
  .of_takes (.refl d ref)

/-- Nothing happens. -/
theorem stays (h : d.sessions ref = s) : d.Follows ref [] s d :=
  h ▸ .refl d ref

/-- Desks follow one after another by the blocks put together. -/
theorem trans (h : d.Follows ref b s d₁) (h' : d₁.Follows ref b' s' d₂) :
    d.Follows ref (b ++ b') s' d₂ := by
  refine ⟨h'.session_eq, ?_, Nat.le_trans h.connections_le h'.connections_le, fun c hc => ?_⟩
  · rw [h'.eventsOf_eq, h.eventsOf_eq, List.append_assoc]
  · have hle := h.connections_le
    have hle' := h'.connections_le
    rw [taken_append, List.mem_append] at hc
    rcases hc with hc | hc
    · have hnew := h.fresh c hc
      omega
    · have hnew := h'.fresh c hc
      omega

/-- A connection that is taken was not taken before, if connections are numbered in order. -/
theorem new (h : d.Follows ref b s d₁) (hd : d.Numbered ref) :
    ∀ c ∈ taken b, c ∉ taken (d.eventsOf ref) := by
  intro c hc hold
  have hle := hd c hold
  have hlt := (h.fresh c hc).1
  omega

/-- Connections stay numbered, since those that are taken are new and were handed out. -/
theorem numbered (h : d.Follows ref b s d₁) (hd : d.Numbered ref) : d₁.Numbered ref := by
  intro c hc
  rw [h.eventsOf_eq, taken_append, List.mem_append] at hc
  rcases hc with hc | hc
  · exact Nat.le_trans (hd c hc) h.connections_le
  · exact (h.fresh c hc).2

end Desk.Follows

/-- The second desk differs from the first in nothing that sessions have to do with. -/
structure Desk.Beside (d d' : Desk υ) : Prop where
  sessions_eq : d'.sessions = d.sessions
  connections_eq : d'.connections = d.connections
  eventsOf_eq : ∀ ref, d'.eventsOf ref = d.eventsOf ref

namespace Desk.Beside

variable {d d₁ d₂ : Desk υ}

/-- A desk differs in nothing from itself. -/
theorem refl (d : Desk υ) : d.Beside d :=
  ⟨rfl, rfl, fun _ => rfl⟩

/-- Desks that differ in nothing that matters, one after another, do so in the end. -/
theorem trans (h : d.Beside d₁) (h' : d₁.Beside d₂) : d.Beside d₂ :=
  ⟨h'.sessions_eq.trans h.sessions_eq, h'.connections_eq.trans h.connections_eq,
    fun ref => (h'.eventsOf_eq ref).trans (h.eventsOf_eq ref)⟩

/-- An event outside the sessions. -/
theorem note (d : Desk υ) {e : Event} (he : ∀ ref, e.of? ref = none) : d.Beside (d.note e) :=
  ⟨rfl, rfl, fun ref => by simp [Desk.note, Desk.eventsOf, sessionEvents, he]⟩

/-- A desk that differs in nothing that matters follows by no events of any session. -/
theorem follows (h : d.Beside d₁) (ref : SessionRef) : d.Follows ref [] (d.sessions ref) d₁ :=
  ⟨by rw [h.sessions_eq], by rw [h.eventsOf_eq, List.append_nil],
    Nat.le_of_eq h.connections_eq.symm, by simp⟩

end Desk.Beside

/-! ## Programs that deliver -/

/-- A program that delivers messages and no more: sessions have nothing to do with what it changes,
and all it asks for are publications and the waits between them. -/
inductive Delivering : Program Calls (Desk υ) α → Prop where
  | done (outcome : Except Fault α) : Delivering (.done outcome)
  | act {update : Desk υ → Desk υ} {next : Desk υ → Program Calls (Desk υ) α}
      (hupdate : ∀ d : Desk υ, d.Beside (update d)) (hnext : ∀ d, Delivering (next d)) :
      Delivering (.act update next)
  | publish {message : Message} {next : Except Fault Unit → Program Calls (Desk υ) α}
      (hnext : ∀ r, Delivering (next r)) : Delivering (.ask (.publish message) next)
  | pause {ms : Number} {next : Except Fault Unit → Program Calls (Desk υ) α}
      (hnext : ∀ r, Delivering (next r)) : Delivering (.ask (.pause ms) next)

namespace Delivering

variable {p : Program Calls (Desk υ) α}

/-- What comes after messages were delivered may deliver more. -/
theorem andThen {next : Except Fault α → Program Calls (Desk υ) β} (h : Delivering p)
    (hnext : ∀ r, Delivering (next r)) : Delivering (p.andThen next) := by
  induction h with
  | done outcome => exact hnext outcome
  | act hupdate _ ih => exact .act hupdate ih
  | publish _ ih => exact .publish ih
  | pause _ ih => exact .pause ih

/-- What goes on after a delivery that returned may deliver more. -/
theorem bind {next : α → Program Calls (Desk υ) β} (h : Delivering p)
    (hnext : ∀ a, Delivering (next a)) : Delivering (p >>= next) :=
  h.andThen fun
    | .ok a => hnext a
    | .error f => .done (.error f)

/-- Deliveries are rescued by deliveries. -/
theorem rescue {handler : Fault → Program Calls (Desk υ) α} (h : Delivering p)
    (hhandler : ∀ f, Delivering (handler f)) : Delivering (p.rescue handler) :=
  h.andThen fun
    | .ok a => .done (.ok a)
    | .error f => hhandler f

/-- Reading changes nothing. -/
theorem read (f : Desk υ → α) : Delivering (.read f : Program Calls (Desk υ) α) :=
  .act .refl fun _ => .done _

section

variable (w : Surroundings)

/-- A line in the log has nothing to do with sessions. -/
theorem write (level : Level) (message : Text) (fields : Json.Members) :
    Delivering (w.journal.write level message fields : Program Calls (Desk υ) Unit) := by
  refine .act (fun d => ?_) fun _ => .done _
  have hwritten : w.journal.written level message fields d
      = .ok { d with log := w.entered d.history level message fields d.log } := by
    simp [Journal.written, Surroundings.journal, Desk.logCell, w.write_eq_ok, Except.map]
  rw [hwritten]
  exact ⟨rfl, rfl, fun _ => rfl⟩

/-- A report on a fault has nothing to do with sessions. -/
theorem writeFault (level : Level) (message : Text) (fields : Json.Members) (f : Fault) :
    Delivering (w.journal.writeFault level message fields f : Program Calls (Desk υ) Unit) :=
  bind (.done f.report) fun _ => write w level message _

/-- Attempts to publish a message deliver and no more, however many are left. -/
theorem tryFrom (origin : Json.Members) (message : Message) (left attempt : Nat) :
    Delivering (w.publisher.tryFrom origin message left attempt : Program Calls (Desk υ) Unit) := by
  induction left generalizing attempt with
  | zero => exact .done _
  | succ left ih =>
    refine rescue (.publish .done) fun f => bind (.done f.toError) fun error => ?_
    dsimp only
    split
    · exact bind (writeFault w _ _ _ error) fun _ => bind (.pause .done) fun _ => ih _
    · refine bind (read _) fun now => bind ?_ fun _ => bind (writeFault w _ _ _ error) fun _ => ih _
      exact .act (fun _ => ⟨rfl, rfl, fun _ => rfl⟩) fun _ => .done _

/-- A flush delivers its messages and does nothing else. -/
theorem flush (origin : Json.Members) (messages : List Message) :
    Delivering (w.publisher.flush origin messages : Program Calls (Desk υ) Unit) := by
  induction messages with
  | nil => exact .done _
  | cons message rest ih =>
    exact bind (write w _ _ _) fun _ => bind (tryFrom w origin message _ _) fun _ => ih

/-- What is left of a delivery where it stops delivers, and so far it touched no session. -/
theorem halted (h : Delivering p) (d : Desk υ) :
    Delivering (Program.halted (p.advance d)).1 ∧ d.Beside (Program.halted (p.advance d)).2 := by
  induction h generalizing d with
  | done outcome => exact ⟨.done outcome, .refl d⟩
  | @act update next hupdate _ ih =>
    obtain ⟨hrest, hbeside⟩ := ih d (update d)
    exact ⟨hrest, (hupdate d).trans hbeside⟩
  | publish hnext _ => exact ⟨.publish hnext, .refl d⟩
  | pause hnext _ => exact ⟨.pause hnext, .refl d⟩

/-- A turn of a delivery leaves a delivery, and touches no session. -/
theorem turn (h : Delivering p) (d : Desk υ) :
    Delivering (p.turn w.serve d).1 ∧ d.Beside (p.turn w.serve d).2 := by
  cases h with
  | done outcome => exact ⟨.done outcome, .refl d⟩
  | @act update next hupdate hnext =>
    obtain ⟨hrest, hbeside⟩ := (hnext d).halted (update d)
    exact ⟨hrest, (hupdate d).trans hbeside⟩
  | @publish message next hnext =>
    obtain ⟨hrest, hbeside⟩ := (hnext (w.serve (.publish message) d).1).halted
      (w.serve (.publish message) d).2
    exact ⟨hrest, (Desk.Beside.note d fun _ => rfl).trans hbeside⟩
  | @pause ms next hnext =>
    obtain ⟨hrest, hbeside⟩ := (hnext (w.serve (.pause ms) d).1).halted (w.serve (.pause ms) d).2
    exact ⟨hrest, (Desk.Beside.note d fun _ => rfl).trans hbeside⟩

end

end Delivering

end UnitOfWork.Trial
