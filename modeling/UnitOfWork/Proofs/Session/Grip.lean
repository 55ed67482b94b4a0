import Mathlib.Data.List.Basic
import UnitOfWork.Proofs.Trial.Playing

/-!
# What a session holds

A `Grip` is what matters of a session's state for its connections: the one that it holds, and
whether a transaction is active on it. `Moves` are the events that lead from one grip to the next,
and `Tracked` ties a grip to the whole history: which transactions have ended, and which connections
were given back. Every operation is a path of moves (`Does.path`), so a session's state always
tracks its history (`Reachable.tracked`).
-/

namespace UnitOfWork.Trial

variable {H P S : List SessionEvent} {c : Connection}

/-! ## Notions about histories -/

namespace SessionEvent

/-- A transaction begins on a connection (`true`), or an attempt is made to end one (`false`). -/
def mark? (c : Connection) : SessionEvent → Option Bool
  | executed c' (.begin _) none => if c' = c then some true else none
  | executed c' .commit _ | executed c' .rollback _ => if c' = c then some false else none
  | _ => none

/-- A connection is given back, whether or not that fails. -/
def returns (c : Connection) : SessionEvent → Bool
  | released c' _ => c' = c
  | _ => false

end SessionEvent

/-- The beginnings and endings on a connection, in order. -/
def marks (c : Connection) (history : List SessionEvent) : List Bool :=
  history.filterMap (·.mark? c)

/-- Every transaction that began on a connection was followed by exactly one attempt to end it. -/
def Ended (c : Connection) (history : List SessionEvent) : Prop :=
  ∃ n, marks c history = (List.replicate n [true, false]).flatten

/-- A transaction began on a connection that no attempt was made to end yet; those before it were
ended. -/
def Begun (c : Connection) (history : List SessionEvent) : Prop :=
  ∃ n, marks c history = (List.replicate n [true, false]).flatten ++ [true]

/-- How often a connection was given back. -/
def returned (c : Connection) (history : List SessionEvent) : Nat :=
  history.countP (·.returns c)

/-- A connection was taken and not given back. -/
def Kept (c : Connection) (history : List SessionEvent) : Prop :=
  c ∈ taken history ∧ returned c history = 0

/-- The marks of a connection in two histories are those of both. -/
@[simp] theorem marks_append (c : Connection) (h h' : List SessionEvent) :
    marks c (h ++ h') = marks c h ++ marks c h' :=
  List.filterMap_append

/-- How often a connection is given back in two histories adds up. -/
@[simp] theorem returned_append (c : Connection) (h h' : List SessionEvent) :
    returned c (h ++ h') = returned c h + returned c h' :=
  List.countP_append

/-- An event marks a connection once or not at all. -/
theorem marks_singleton (c : Connection) (e : SessionEvent) :
    marks c [e] = (e.mark? c).toList := by
  cases h : e.mark? c <;> simp [marks, h]

/-- An event gives a connection back once or not at all. -/
theorem returned_singleton (c : Connection) (e : SessionEvent) :
    returned c [e] = if e.returns c then 1 else 0 := by
  simp [returned, List.countP_cons]

/-- Where every transaction has ended another one may begin. -/
theorem Ended.begins (h : Ended c H) {e : SessionEvent} (he : e.mark? c = some true) :
    Begun c (H ++ [e]) := by
  obtain ⟨n, hn⟩ := h
  exact ⟨n, by rw [marks_append, hn, marks_singleton, he]; rfl⟩

/-- The transaction that has begun last may end. -/
theorem Begun.ends (h : Begun c H) {e : SessionEvent} (he : e.mark? c = some false) :
    Ended c (H ++ [e]) := by
  obtain ⟨n, hn⟩ := h
  refine ⟨n + 1, ?_⟩
  rw [marks_append, hn, marks_singleton, he, List.replicate_succ', List.flatten_append]
  simp

/-- What does not mark a connection leaves its transactions ended. -/
theorem ended_snoc {e : SessionEvent} (he : e.mark? c = none) : Ended c (H ++ [e]) ↔ Ended c H := by
  simp [Ended, marks_singleton, he]

/-- What does not mark a connection leaves its transaction begun. -/
theorem begun_snoc {e : SessionEvent} (he : e.mark? c = none) : Begun c (H ++ [e]) ↔ Begun c H := by
  simp [Begun, marks_singleton, he]

/-! ## Grips -/

/-- The connection that a session holds, and whether a transaction is active on it. -/
structure Grip where
  held : Option Connection
  active : Bool

/-- The grip of a session's state. -/
def Grip.ofState (s : SessionState) : Grip :=
  ⟨s.connection, s.transaction = .active⟩

/-- An event that concerns no connection in a way that a grip is about. -/
def SessionEvent.Idle : SessionEvent → Prop
  | executed _ statement _ => statement.Plain
  | reserved (.ok _) | released _ _ => False
  | _ => True

/-- An event leads from one grip to another. -/
inductive Moves : Grip → SessionEvent → Grip → Prop where
  | idle (g : Grip) {e : SessionEvent} (he : e.Idle) : Moves g e g
  | takes (c : Connection) : Moves ⟨none, false⟩ (.reserved (.ok c)) ⟨some c, false⟩
  | fails (c : Connection) (level : Isolation) (f : Fault) :
      Moves ⟨some c, false⟩ (.executed c (.begin level) (some f)) ⟨some c, false⟩
  | begins (c : Connection) (level : Isolation) :
      Moves ⟨some c, false⟩ (.executed c (.begin level) none) ⟨some c, true⟩
  | commits (c : Connection) (f : Option Fault) :
      Moves ⟨some c, true⟩ (.executed c .commit f) ⟨some c, false⟩
  | rollsBack (c : Connection) (f : Option Fault) :
      Moves ⟨some c, true⟩ (.executed c .rollback f) ⟨some c, false⟩
  | returns (c : Connection) (f : Option Fault) :
      Moves ⟨some c, false⟩ (.released c f) ⟨none, false⟩

/-- A block of events leads from one grip to another. -/
inductive Path : Grip → List SessionEvent → Grip → Prop where
  | nil (g : Grip) : Path g [] g
  | cons {g g₁ g' : Grip} {e : SessionEvent} {rest : List SessionEvent} (h : Moves g e g₁)
      (hrest : Path g₁ rest g') : Path g (e :: rest) g'

/-- A single event is a path. -/
theorem Moves.path {g g' : Grip} {e : SessionEvent} (h : Moves g e g') : Path g [e] g' :=
  .cons h (.nil g')

/-- Paths that meet are one path. -/
theorem Path.append {g g₁ g' : Grip} {b b' : List SessionEvent} (h : Path g b g₁)
    (h' : Path g₁ b' g') : Path g (b ++ b') g' := by
  induction h with
  | nil g => exact h'
  | cons hm _ ih => exact .cons hm (ih h')

/-! ## Grips and histories -/

/-- What a history says of the connection that is held: it is kept, and every other that was taken
was given back once. -/
structure Holds (held : Option Connection) (H : List SessionEvent) : Prop where
  kept : ∀ c, held = some c → Kept c H
  once : ∀ c ∈ taken H, held ≠ some c → returned c H = 1
  strange : ∀ c ∉ taken H, returned c H = 0

/-- A grip agrees with a history. -/
structure Tracked (g : Grip) (H : List SessionEvent) : Prop where
  begun : ∀ c, g.active = true → g.held = some c → Begun c H
  ended : ∀ c, (g.active = true → g.held ≠ some c) → Ended c H
  holds : Holds g.held H

/-- Where no transaction is active, each was ended. -/
theorem Tracked.of_idle {held : Option Connection} (hended : ∀ c, Ended c H) (hholds : Holds held H) :
    Tracked ⟨held, false⟩ H :=
  ⟨nofun, fun c _ => hended c, hholds⟩

/-- Where nothing is active, the transactions of every connection have ended. -/
theorem Tracked.ended_of_idle {held : Option Connection} (h : Tracked ⟨held, false⟩ H)
    (c : Connection) : Ended c H :=
  h.ended c nofun

/-- A session that was just opened holds nothing, as its history says. -/
theorem Tracked.start : Tracked ⟨none, false⟩ [] :=
  .of_idle (fun _ => ⟨0, rfl⟩) ⟨nofun, by simp, fun _ _ => rfl⟩

/-- What is kept is held. -/
theorem Holds.of_kept {held : Option Connection} (h : Holds held H) (hc : Kept c H) :
    held = some c := by
  by_contra hne
  have hone := h.once c hc.1 hne
  rw [hc.2] at hone
  cases hone

/-- What neither takes nor returns a connection leaves the one that is held. -/
theorem Holds.quiet {held : Option Connection} (h : Holds held H) {e : SessionEvent}
    (ht : e.taken? = none) (hr : ∀ c, e.returns c = false) : Holds held (H ++ [e]) := by
  have htaken : taken (H ++ [e]) = taken H := by simp [ht]
  have hret : ∀ c, returned c (H ++ [e]) = returned c H := by simp [returned_singleton, hr]
  constructor
  · intro c hc
    rw [Kept, htaken, hret]
    exact h.kept c hc
  · intro c hc hne
    rw [htaken] at hc
    rw [hret]
    exact h.once c hc hne
  · intro c hc
    rw [htaken] at hc
    rw [hret]
    exact h.strange c hc

/-- A connection that is taken is held from then on. -/
theorem Holds.takes (h : Holds none H) (hnew : c ∉ taken H) :
    Holds (some c) (H ++ [.reserved (.ok c)]) := by
  have htaken : taken (H ++ [.reserved (.ok c)]) = taken H ++ [c] := by simp [SessionEvent.taken?]
  have hret : ∀ c', returned c' (H ++ [.reserved (.ok c)]) = returned c' H := by
    simp [returned_singleton, SessionEvent.returns]
  constructor
  · intro c' hc'
    cases hc'
    rw [Kept, htaken, hret]
    exact ⟨by simp, h.strange c hnew⟩
  · intro c' hc' hne
    have hold : c' ∈ taken H := by
      rw [htaken, List.mem_append, List.mem_singleton] at hc'
      exact hc'.resolve_right fun heq => hne (heq ▸ rfl)
    rw [hret]
    exact h.once c' hold (Option.some_ne_none c').symm
  · intro c' hc'
    rw [htaken, List.mem_append, not_or] at hc'
    rw [hret]
    exact h.strange c' hc'.1

/-- A connection that is given back is held no more. -/
theorem Holds.returns (h : Holds (some c) H) (f : Option Fault) :
    Holds none (H ++ [.released c f]) := by
  have htaken : taken (H ++ [.released c f]) = taken H := by simp [SessionEvent.taken?]
  have hret : ∀ c', returned c' (H ++ [.released c f])
      = returned c' H + if c = c' then 1 else 0 := by
    simp [returned_singleton, SessionEvent.returns]
  constructor
  · intro c' hc'
    cases hc'
  · intro c' hc' _
    rw [htaken] at hc'
    rw [hret]
    by_cases heq : c = c'
    · subst heq
      rw [(h.kept c rfl).2, if_pos rfl]
    · rw [if_neg heq, h.once c' hc' fun heq' => heq (Option.some.inj heq')]
  · intro c' hc'
    rw [htaken] at hc'
    have hne : c ≠ c' := fun heq => hc' (heq ▸ (h.kept c rfl).1)
    rw [hret, if_neg hne, h.strange c' hc']

/-- An event that concerns no connection. -/
theorem Tracked.quiet {g : Grip} (h : Tracked g H) {e : SessionEvent} (hm : ∀ c, e.mark? c = none)
    (ht : e.taken? = none) (hr : ∀ c, e.returns c = false) : Tracked g (H ++ [e]) where
  begun c ha hc := (begun_snoc (hm c)).2 (h.begun c ha hc)
  ended c hc := (ended_snoc (hm c)).2 (h.ended c hc)
  holds := h.holds.quiet ht hr

/-- A transaction that begins on the connection that is held. -/
theorem Tracked.begins (h : Tracked ⟨some c, false⟩ H) (level : Isolation) :
    Tracked ⟨some c, true⟩ (H ++ [.executed c (.begin level) none]) where
  begun c' _ hc' := by
    cases hc'
    exact (h.ended_of_idle c).begins (if_pos rfl)
  ended c' hc' := by
    have hne : c ≠ c' := fun heq => hc' rfl (congrArg some heq)
    exact (ended_snoc (by simp [SessionEvent.mark?, hne])).2 (h.ended_of_idle c')
  holds := h.holds.quiet rfl fun _ => rfl

/-- An attempt to end the transaction on the connection that is held. -/
theorem Tracked.ends (h : Tracked ⟨some c, true⟩ H) {e : SessionEvent}
    (hm : ∀ c', e.mark? c' = if c = c' then some false else none) (ht : e.taken? = none)
    (hr : ∀ c, e.returns c = false) : Tracked ⟨some c, false⟩ (H ++ [e]) where
  begun := nofun
  ended c' _ := by
    by_cases heq : c = c'
    · subst heq
      exact (h.begun c rfl rfl).ends (by rw [hm, if_pos rfl])
    · refine (ended_snoc (by rw [hm, if_neg heq])).2 (h.ended c' fun _ hc' => heq ?_)
      exact Option.some.inj hc'
  holds := h.holds.quiet ht hr

/-- A move keeps a grip in agreement with the history, if it takes no connection twice. -/
theorem Tracked.move {g g' : Grip} {e : SessionEvent} (h : Tracked g H) (hm : Moves g e g')
    (hnew : (taken (H ++ [e])).Nodup) : Tracked g' (H ++ [e]) := by
  cases hm with
  | idle _ he =>
    cases e with
    | executed c statement f =>
      cases statement <;> first | exact h.quiet (fun _ => rfl) rfl fun _ => rfl | cases he
    | reserved r =>
      cases r with
      | ok c => cases he
      | error f => exact h.quiet (fun _ => rfl) rfl fun _ => rfl
    | released c f => cases he
    | _ => exact h.quiet (fun _ => rfl) rfl fun _ => rfl
  | takes c =>
    have hnotin : c ∉ taken H := by
      rw [taken_append, List.nodup_append] at hnew
      exact fun hc => hnew.2.2 c hc c (by simp [SessionEvent.taken?]) rfl
    exact .of_idle (fun c' => (ended_snoc rfl).2 (h.ended_of_idle c')) (h.holds.takes hnotin)
  | fails c level f => exact h.quiet (fun _ => rfl) rfl fun _ => rfl
  | begins c level => exact h.begins level
  | commits c f => exact h.ends (fun _ => rfl) rfl fun _ => rfl
  | rollsBack c f => exact h.ends (fun _ => rfl) rfl fun _ => rfl
  | returns c f =>
    exact .of_idle (fun c' => (ended_snoc rfl).2 (h.ended_of_idle c')) (h.holds.returns f)

end UnitOfWork.Trial
