import UnitOfWork.Proofs.Serialized.Attempt
import UnitOfWork.Proofs.Session.Quiet

/-!
# Effects of an attempt

Work that keeps to its session and does not commit leaves it to the driver to commit. `Event.Quiet`
says that nothing is committed, handed over or published, and `Event.Continues` that no attempt
starts. Every step of such work is both, and so is every operation but a commit that succeeds; that
one ends one transaction at most and hands over what waits in the session (`Does.of_committed`).
-/

namespace UnitOfWork.Trial

variable {υ : Type} {ref : SessionRef} {s s' : SessionState} {block : List SessionEvent}

/-! ## Effects in a history -/

namespace Event

/-- The connection on which a transaction is committed in an event. -/
def commit? : Event → Option Connection
  | session _ e => e.commit?
  | _ => none

/-- The batch that is handed over in an event. -/
def batch? : Event → Option (List Message)
  | session _ e => e.batch?
  | _ => none

/-- The message that the bus is given in an event, whether or not it takes it. -/
def message? : Event → Option Message
  | published message _ => some message
  | _ => none

/-- Nothing is committed, handed over or published. -/
def Quiet (e : Event) : Prop :=
  e.commit? = none ∧ e.batch? = none ∧ e.message? = none

/-- No attempt starts, and no work ends. -/
def Continues : Event → Prop
  | opened _ | workBegan _ _ | workEnded _ _ _ => False
  | _ => True

/-- Nothing is delivered of no messages. -/
theorem not_delivers_nil {e : Event} : ¬ e.Delivers [] := by
  intro h
  cases e with
  | published m f => exact absurd h List.not_mem_nil
  | paused ms => exact h rfl
  | _ => exact h

/-- Publishing messages starts no attempt. -/
theorem Delivers.continues {messages : List Message} {e : Event} (h : e.Delivers messages) :
    e.Continues := by
  cases e <;> first | exact trivial | exact h.elim

end Event

/-- The connections on which transactions are committed, in order. -/
def commits (history : List Event) : List Connection :=
  history.filterMap Event.commit?

/-- The messages that are handed over, in order. -/
def handed (history : List Event) : List Message :=
  (history.filterMap Event.batch?).flatten

/-- The messages that the bus is given, in order. -/
def publishedOf (history : List Event) : List Message :=
  history.filterMap Event.message?

section

variable {history history' : List Event}

/-- The commits of two histories are those of both. -/
@[simp] theorem commits_append : commits (history ++ history') = commits history ++ commits history' :=
  List.filterMap_append

/-- What is handed over in two histories is handed over in the one or the other. -/
@[simp] theorem handed_append : handed (history ++ history') = handed history ++ handed history' := by
  simp [handed]

/-- What is published in two histories is published in the one or the other. -/
@[simp] theorem publishedOf_append :
    publishedOf (history ++ history') = publishedOf history ++ publishedOf history' :=
  List.filterMap_append

/-- A quiet history has no effects. -/
theorem no_effects (h : ∀ e ∈ history, e.Quiet) :
    commits history = [] ∧ handed history = [] ∧ publishedOf history = [] := by
  refine ⟨List.filterMap_eq_nil_iff.2 fun e he => (h e he).1, ?_,
    List.filterMap_eq_nil_iff.2 fun e he => (h e he).2.2⟩
  have hnone : history.filterMap Event.batch? = [] :=
    List.filterMap_eq_nil_iff.2 fun e he => (h e he).2.1
  rw [handed, hnone, List.flatten_nil]

end

/-! ## Calls without effects -/

/-- What is added without effects, once an attempt has started and before another one does. -/
abbrev Event.Idle (e : Event) : Prop :=
  e.Quiet ∧ e.Continues

/-- Where a block is quiet, nothing is delivered either. -/
theorem Desk.Takes.adds_idle {ref : SessionRef} {d d' : Desk υ} (h : d.Takes ref block s d')
    (hquiet : ∀ e ∈ block, e.Quiet) : d.Adds Event.Idle d' := by
  refine h.adds (fun e he => ⟨⟨(hquiet e he).1, (hquiet e he).2, rfl⟩, trivial⟩) fun e hdel => ?_
  rw [batches_of_quiet hquiet] at hdel
  exact absurd hdel Event.not_delivers_nil

/-- A driver's call is without effects, unless it is a commit that succeeds. -/
theorem Desk.Drives.adds_idle {ref : SessionRef} {call : SessionCall} {f : Option Fault}
    {d d' : Desk υ} (h : d.Drives ref call f d') (hcall : call = .commit → f ≠ none) :
    d.Adds Event.Idle d' := by
  obtain ⟨block, s, hdoes, htakes⟩ := h
  exact htakes.adds_idle (hdoes.quiet hcall)

/-! ## Work that keeps to its session -/

/-- Steps of one session only, and no commit among them. -/
def Label.Confined (ref : SessionRef) : Label → Prop
  | opens | on _ (.call .commit) | on _ (.drive _) => False
  | on r _ => r = ref

/-- Steps that set no isolation level. -/
def Label.KeepsIsolation : Label → Prop
  | on _ (.call (.setIsolation _)) | on _ (.drive (.setIsolation _)) => False
  | _ => True

/-- A step that is confined to a session is one of that session, and no commit. -/
theorem Label.Confined.eq {ref r : SessionRef} {a : Action} (h : Confined ref (.on r a)) :
    r = ref ∧ a ≠ .call .commit ∧ a ≠ .drive .commit := by
  cases a with
  | call c => cases c <;> first | exact ⟨h, nofun, nofun⟩ | exact h.elim
  | drive c => exact h.elim
  | savepoint | strand => exact ⟨h, nofun, nofun⟩

/-- Work that keeps to its session and does not commit has no effects. -/
theorem Walk.adds_idle {ref : SessionRef} {d d' : Desk υ} (h : Walk (Label.Confined ref) d d') :
    d.Adds Event.Idle d' := by
  induction h with
  | refl => exact .refl _
  | tail _ hstep ih =>
    refine ih.trans (hstep.adds (fun r a block s hrule hsession => ?_) (fun hopens => hopens.elim)
      fun _ => ⟨⟨rfl, rfl, rfl⟩, trivial⟩)
    have hquiet := hsession.quiet hrule.eq.2.1 hrule.eq.2.2
    refine ⟨fun e he => ⟨⟨(hquiet e he).1, (hquiet e he).2, rfl⟩, trivial⟩, fun e hdel => ?_⟩
    rw [batches_of_quiet hquiet] at hdel
    exact absurd hdel Event.not_delivers_nil

/-! ## The commit of an attempt -/

/-- A commit that succeeds ends one transaction at most, and hands over what waits. -/
theorem Does.of_committed (h : Does s .commit block none s') :
    (block.filterMap SessionEvent.commit?).length ≤ 1 ∧ (batches block).flatten = s.outbox.entries := by
  have hhanding : ∀ messages, (handing messages).filterMap SessionEvent.commit? = [] := by
    intro messages
    cases messages <;> rfl
  cases h with
  | committed ho hc =>
    rw [List.filterMap_append, hhanding, batches_append]
    exact ⟨Nat.le_refl 1, flatten_batches_handing _⟩
  | flushed ho hc =>
    rw [hhanding]
    exact ⟨Nat.zero_le 1, flatten_batches_handing _⟩

/-- What is read off a session's events alone is read off the part of the history that is the
session's, where there are but deliveries beside it. -/
theorem filterMap_eq_sessionEvents {γ : Type} {history : List Event} {messages : List Message}
    {read : Event → Option γ} {readSession : SessionEvent → Option γ}
    (hall : ∀ e ∈ history, (∃ e', e = .session ref e') ∨ e.Delivers messages)
    (hsame : ∀ e, read (.session ref e) = readSession e)
    (hnone : ∀ e : Event, e.Delivers messages → read e = none) :
    history.filterMap read = (sessionEvents ref history).filterMap readSession := by
  rw [sessionEvents, List.filterMap_filterMap]
  refine List.filterMap_congr fun e he => ?_
  rcases hall e he with ⟨e', rfl⟩ | hdel
  · rw [hsame, Event.of?_session]
    rfl
  · rw [hnone e hdel, hdel.of?_eq_none]
    rfl

/-- What a block of a session adds to the history: its commits, its batches, and deliveries of
these. -/
theorem Desk.Takes.effects {d d' : Desk υ} (h : d.Takes ref block s d') :
    ∃ more, d'.history = d.history ++ more ∧ (∀ e ∈ more, e.Continues)
      ∧ commits more = block.filterMap SessionEvent.commit?
      ∧ handed more = (batches block).flatten
      ∧ publishedOf more ⊆ (batches block).flatten := by
  obtain ⟨more, hmore, hsession, hall⟩ := h.history
  refine ⟨more, hmore, fun e he => ?_, ?_, ?_, fun m hm => ?_⟩
  · rcases hall e he with ⟨e', rfl⟩ | hdel
    · trivial
    · exact hdel.continues
  · rw [← hsession]
    refine filterMap_eq_sessionEvents hall (fun _ => rfl) fun e hdel => ?_
    cases e <;> first | rfl | exact hdel.elim
  · rw [← hsession]
    refine congrArg List.flatten (filterMap_eq_sessionEvents hall (fun _ => rfl) fun e hdel => ?_)
    cases e <;> first | rfl | exact hdel.elim
  · obtain ⟨e, he, hmessage⟩ := List.mem_filterMap.1 hm
    rcases hall e he with ⟨e', rfl⟩ | hdel
    · cases hmessage
    · cases e with
      | published message f =>
        cases hmessage
        exact hdel
      | _ => cases hmessage

end UnitOfWork.Trial
