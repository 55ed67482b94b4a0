import UnitOfWork.Proofs.Session.Grip

/-!
# Transactions are bracketed

`Bracketed` says of a session's history that every transaction is begun and ended once on a
connection that is held, that no connection is given back before that, or twice, that no two are
held at a time, and that closing never fails and leaves no connection behind. `Reachable.bracketed`
shows it of every history, and `transactions_bracketed` of every run of work, whatever fails on the
way.
-/

namespace UnitOfWork.Trial

variable {υ α : Type} {kinds : Action → Prop} {H P : List SessionEvent} {s s' : SessionState}

/-! ## What may follow a history -/

/-- An event may follow a history. -/
def Allowed (P : List SessionEvent) : SessionEvent → Prop
  | .executed _ (.begin _) _ => ∀ c, Ended c P
  | .executed c .commit _ | .executed c .rollback _ => Begun c P
  | .released c _ => Ended c P ∧ Kept c P
  | _ => True

/-- At most one connection is kept. -/
def Alone (P : List SessionEvent) : Prop :=
  ∀ c c', Kept c P → Kept c' P → c = c'

/-- Every event of a history may follow the ones before it. -/
def Guarded (H : List SessionEvent) : Prop :=
  ∀ P e S, H = P ++ e :: S → Allowed P e ∧ Alone P

/-- Before anything happens nothing has to be allowed. -/
theorem Guarded.nil : Guarded [] := by
  intro P e S h
  simp at h

/-- A history stays guarded by an event that may follow it, where one connection at most is kept. -/
theorem Guarded.snoc {e : SessionEvent} (h : Guarded H) (he : Allowed H e) (ha : Alone H) :
    Guarded (H ++ [e]) := by
  intro P e' S heq
  rcases List.eq_nil_or_concat S with rfl | ⟨S', x, rfl⟩
  · obtain ⟨rfl, hx⟩ := List.append_inj' heq rfl
    cases hx
    exact ⟨he, ha⟩
  · rw [List.concat_eq_append, ← List.cons_append, ← List.append_assoc] at heq
    exact h P e' S' (List.append_inj' heq rfl).1

/-- A session whose grip agrees with its history keeps one connection at most. -/
theorem Tracked.alone {g : Grip} (h : Tracked g H) : Alone H := by
  intro c c' hc hc'
  have heq := h.holds.of_kept hc
  rw [h.holds.of_kept hc'] at heq
  exact (Option.some.inj heq).symm

/-- What moves the grip of a session is allowed after the history that led there. -/
theorem Moves.allowed {g g' : Grip} {e : SessionEvent} (hm : Moves g e g') (h : Tracked g H) :
    Allowed H e := by
  cases hm with
  | idle _ he =>
    cases e with
    | executed c statement f => cases statement <;> trivial
    | released c f => cases he
    | _ => trivial
  | takes c => trivial
  | fails c level f => exact h.ended_of_idle
  | begins c level => exact h.ended_of_idle
  | commits c f => exact h.begun c rfl rfl
  | rollsBack c f => exact h.begun c rfl rfl
  | returns c f => exact ⟨h.ended_of_idle c, h.holds.kept c rfl⟩

/-- A path that takes no connection twice keeps grip and history in agreement, and every event on it
may follow the ones before it. -/
theorem Path.tracked {g g' : Grip} {block : List SessionEvent} (hpath : Path g block g')
    (h : Tracked g H) (hguarded : Guarded H) (hnew : (taken (H ++ block)).Nodup) :
    Tracked g' (H ++ block) ∧ Guarded (H ++ block) := by
  induction hpath generalizing H with
  | nil g =>
    rw [List.append_nil]
    exact ⟨h, hguarded⟩
  | @cons g g₁ g' e rest hm _ ih =>
    rw [List.append_cons] at hnew ⊢
    have hnew₁ : (taken (H ++ [e])).Nodup := by
      rw [taken_append] at hnew
      exact (List.nodup_append.1 hnew).1
    exact ih (h.move hm hnew₁) (hguarded.snoc (hm.allowed h) h.alone) hnew

/-! ## Operations are paths -/

/-- Coming to hold a connection is a path to a grip on it, with nothing active. -/
theorem Attaches.path {block : List SessionEvent} {c : Connection} (h : Attaches s block c s')
    (hi : s.transaction ≠ .active) : Path (.ofState s) block ⟨some c, false⟩ := by
  cases h with
  | kept hc =>
    have hg : Grip.ofState s = ⟨some c, false⟩ := by simp [Grip.ofState, hc, hi]
    rw [hg]
    exact .nil _
  | borrowed hc =>
    have hg : Grip.ofState s = ⟨none, false⟩ := by simp [Grip.ofState, hc, hi]
    rw [hg]
    exact (Moves.takes c).path

/-- Connecting is a path to the grip of the state that it leaves, whatever fails. -/
theorem Connects.path {block : List SessionEvent} {r : Except Fault Connection}
    (h : Connects s block r s') : Path (.ofState s) block (.ofState s') := by
  cases h with
  | closed h => exact .nil _
  | refused ho h => exact (Moves.idle _ (by trivial)).path
  | kept ho h ha => exact .nil _
  | @stuck _ c _ f ho h hi =>
    have hg : Grip.ofState s' = ⟨some c, false⟩ := by
      simp [h.eq, Grip.ofState, SessionState.withConnection, hi]
    rw [hg]
    exact (h.path hi).append (Moves.fails c s.isolation f).path
  | @began _ c _ ho h hi =>
    rw [h.eq]
    exact (h.path hi).append (Moves.begins c s.isolation).path

/-- Handing over concerns no connection. -/
theorem path_handing (g : Grip) (messages : List Message) : Path g (handing messages) g := by
  cases messages with
  | nil => exact .nil g
  | cons m rest => exact (Moves.idle g (by trivial)).path

/-- An active connection is held and active. -/
theorem Grip.ofState_of_activeConnection? {c : Connection} (h : s.activeConnection? = some c) :
    Grip.ofState s = ⟨some c, true⟩ := by
  obtain ⟨ha, hc⟩ := SessionState.activeConnection?_eq_some h
  simp [Grip.ofState, ha, hc]

/-- A call is a path to the grip of the state that it leaves, whatever fails. -/
theorem Does.path {call : SessionCall} {block : List SessionEvent} {f : Option Fault}
    (h : Does s call block f s') (hs : s.Sound) : Path (.ofState s) block (.ofState s') := by
  cases h with
  | barred h hc => exact .nil _
  | isolated ho hi => exact .nil _
  | notIsolated ho ha => exact .nil _
  | connected h => exact h.path
  | queried h => exact h.path.append (Moves.idle _ (by trivial)).path
  | notQueried h => exact h.path
  | queued ho hb => exact .nil _
  | notQueued ho hb => exact .nil _
  | @notCommitted c f ho hc =>
    rw [Grip.ofState_of_activeConnection? hc]
    obtain ⟨-, hconn⟩ := SessionState.activeConnection?_eq_some hc
    have hg : Grip.ofState (s.withTransaction .rolledBack).dropMessages = ⟨some c, false⟩ := by
      simp [Grip.ofState, SessionState.withTransaction, SessionState.dropMessages, hconn]
    rw [hg]
    exact (Moves.commits c _).path
  | @committed c f ho hc =>
    rw [Grip.ofState_of_activeConnection? hc]
    exact ((Moves.commits c none).path.append (Moves.returns c f).path).append (path_handing _ _)
  | flushed ho hc =>
    have hg : Grip.ofState (s.withTransaction .committed).dropMessages = .ofState s := by
      simp [Grip.ofState, SessionState.withTransaction, SessionState.dropMessages, hs.idle hc]
    rw [hg]
    exact path_handing _ _
  | @rolledBack c f ho hc =>
    rw [Grip.ofState_of_activeConnection? hc]
    obtain ⟨-, hconn⟩ := SessionState.activeConnection?_eq_some hc
    have hg : Grip.ofState (s.dropMessages.withTransaction .rolledBack) = ⟨some c, false⟩ := by
      simp [Grip.ofState, SessionState.withTransaction, SessionState.dropMessages, hconn]
    rw [hg]
    exact (Moves.rollsBack c f).path
  | cleared ho hc => exact .nil _
  | closedAgain h => exact .nil _
  | closedBare ho hc =>
    have hg : Grip.ofState s.shut = .ofState s := by
      simp [Grip.ofState, SessionState.shut, hs.idle_of_bare hc]
    rw [hg]
    exact .nil _
  | @closedIdle c f ho hc hi =>
    have hg : Grip.ofState s = ⟨some c, false⟩ := by simp [Grip.ofState, hc, hi]
    rw [hg]
    exact (Moves.returns c f).path
  | @closedActive c f g ho hc ha =>
    have hg : Grip.ofState s = ⟨some c, true⟩ := by simp [Grip.ofState, hc, ha]
    rw [hg]
    exact (Moves.rollsBack c f).path.append (Moves.returns c g).path

/-- Every step of a session is a path of its grip. -/
theorem SessionStep.path {a : Action} {block : List SessionEvent} (h : SessionStep s a block s')
    (hs : s.Sound) : Path (.ofState s) block (.ofState s') := by
  cases h with
  | called hdoes =>
    exact ((Moves.idle _ (by trivial)).path.append (hdoes.path hs)).append
      (Moves.idle _ (by trivial)).path
  | driven hdoes => exact hdoes.path hs
  | connected hconn => exact hconn.path
  | counted => exact .nil _
  | executed c hplain f => exact (Moves.idle _ (by exact hplain)).path
  | bodyBegan => exact (Moves.idle _ (by trivial)).path
  | bodyReturned => exact (Moves.idle _ (by trivial)).path
  | bodyFailed f => exact (Moves.idle (.ofState s) (by trivial)).path
  | bodyStranded f => exact (Moves.idle _ (by trivial)).path

/-! ## Whole histories -/

/-- The state of a session agrees with its history, and every event may follow the ones before
it. -/
theorem Reachable.tracked (h : Reachable kinds s H) : Tracked (.ofState s) H ∧ Guarded H := by
  induction h with
  | start => exact ⟨.start, .nil⟩
  | step h hstep hkind hfresh ih => exact (hstep.path h.orderly.sound).tracked ih.1 ih.2 hfresh

/-- A closed session gave back every connection that it ever took, once. -/
theorem Reachable.returned_of_closed (h : Reachable kinds s H) (hclosed : s.closed = true)
    {c : Connection} (hc : c ∈ taken H) : returned c H = 1 := by
  have hbare := h.orderly.bare_of_closed hclosed
  refine h.tracked.1.holds.once c hc ?_
  simp [Grip.ofState, hbare]

/-! ## Closing -/

/-- A closed session takes no connection and stays as it is. -/
theorem Connects.of_closed {block : List SessionEvent} {r : Except Fault Connection}
    (h : Connects s block r s') (hclosed : s.closed = true) : block = [] ∧ s' = s := by
  cases h with
  | closed h => exact ⟨rfl, rfl⟩
  | refused ho h => rw [ho] at hclosed; cases hclosed
  | kept ho h ha => rw [ho] at hclosed; cases hclosed
  | stuck ho h hi => rw [ho] at hclosed; cases hclosed
  | began ho h hi => rw [ho] at hclosed; cases hclosed

/-- A call of a closed session takes no connection and changes nothing. -/
theorem Does.of_closed {call : SessionCall} {block : List SessionEvent} {f : Option Fault}
    (h : Does s call block f s') (hclosed : s.closed = true) : taken block = [] ∧ s' = s := by
  cases h with
  | barred h hc => exact ⟨rfl, rfl⟩
  | connected h =>
    obtain ⟨rfl, hs⟩ := h.of_closed hclosed
    exact ⟨rfl, hs⟩
  | queried h =>
    obtain ⟨rfl, hs⟩ := h.of_closed hclosed
    exact ⟨rfl, hs⟩
  | notQueried h =>
    obtain ⟨rfl, hs⟩ := h.of_closed hclosed
    exact ⟨rfl, hs⟩
  | closedAgain h => exact ⟨rfl, rfl⟩
  | _ => simp_all

/-- Coming to hold a connection calls nothing. -/
theorem Attaches.not_called {block : List SessionEvent} {c : Connection}
    (h : Attaches s block c s') (call : SessionCall) : .called call ∉ block := by
  cases h <;> simp

/-- Connecting calls nothing. -/
theorem Connects.not_called {block : List SessionEvent} {r : Except Fault Connection}
    (h : Connects s block r s') (call : SessionCall) : .called call ∉ block := by
  cases h with
  | stuck ho h hi => simpa using h.not_called call
  | began ho h hi => simpa using h.not_called call
  | _ => simp

/-- What an operation does includes no call. -/
theorem Does.not_called {call : SessionCall} {block : List SessionEvent} {f : Option Fault}
    (h : Does s call block f s') (call' : SessionCall) : .called call' ∉ block := by
  have hhanding : ∀ messages, .called call' ∉ handing messages := fun messages => by
    cases messages <;> simp [handing]
  cases h with
  | connected h => exact h.not_called call'
  | queried h => simpa using h.not_called call'
  | notQueried h => exact h.not_called call'
  | committed ho hc => simpa using hhanding _
  | flushed ho hc => exact hhanding _
  | _ => simp

/-- Closing does not fail and leaves the session closed. -/
theorem Does.close {block : List SessionEvent} {f : Option Fault} (h : Does s .close block f s') :
    f = none ∧ s'.closed = true := by
  cases h with
  | barred h hc => exact absurd rfl hc
  | closedAgain h => exact ⟨rfl, h⟩
  | closedBare ho hc => exact ⟨rfl, rfl⟩
  | closedIdle ho hc hi => exact ⟨rfl, rfl⟩
  | closedActive ho hc ha => exact ⟨rfl, rfl⟩

/-- Every call of `close` ends without a fault, when every connection was given back once. -/
def ClosesWell (H : List SessionEvent) : Prop :=
  ∀ P S, H = P ++ .called .close :: S →
    ∃ B S', S = B ++ .settled .close none :: S' ∧ (∀ call, .called call ∉ B)
      ∧ ∀ c ∈ taken H, returned c (P ++ B) = 1

/-- A place in two histories in a row is in the first or in the second. -/
theorem append_eq_append_cons {X S : List SessionEvent} {e : SessionEvent}
    (h : H ++ X = P ++ e :: S) :
    (∃ S₀, H = P ++ e :: S₀ ∧ S = S₀ ++ X) ∨ ∃ X₀, P = H ++ X₀ ∧ X = X₀ ++ e :: S := by
  rcases List.append_eq_append_iff.1 h with ⟨X₀, hP, hX⟩ | ⟨S₀, hH, hS⟩
  · exact .inr ⟨X₀, hP, hX⟩
  · cases S₀ with
    | nil => exact .inr ⟨[], by simpa using hH.symm, by simpa using hS.symm⟩
    | cons e' S₀ =>
      rw [List.cons_append, List.cons.injEq] at hS
      obtain ⟨rfl, hS⟩ := hS
      exact .inl ⟨S₀, hH, hS⟩

/-- What follows a closing takes no connection, so that the closing still ended well. -/
theorem ClosesWell.append {X : List SessionEvent} (h : ClosesWell H)
    (hcalled : ∀ S X₀, X = X₀ ++ .called .close :: S →
      ∃ B S', S = B ++ .settled .close none :: S' ∧ (∀ call, .called call ∉ B)
        ∧ ∀ c ∈ taken (H ++ X), returned c (H ++ X₀ ++ B) = 1)
    (htaken : .called .close ∈ H → taken X = []) : ClosesWell (H ++ X) := by
  intro P S heq
  rcases append_eq_append_cons heq with ⟨S₀, hH, rfl⟩ | ⟨X₀, rfl, hX⟩
  · obtain ⟨B, S', rfl, hB, hret⟩ := h P S₀ hH
    refine ⟨B, S' ++ X, by simp, hB, fun c hc => hret c ?_⟩
    rw [taken_append, htaken (by simp [hH]), List.append_nil] at hc
    exact hc
  · exact hcalled S X₀ hX

/-- A step of a closed session takes no connection and leaves it closed. -/
theorem SessionStep.of_closed {a : Action} {block : List SessionEvent}
    (h : SessionStep s a block s') (hclosed : s.closed = true) :
    taken block = [] ∧ s'.closed = true := by
  cases h with
  | called hdoes =>
    obtain ⟨htaken, rfl⟩ := hdoes.of_closed hclosed
    exact ⟨by simp [SessionEvent.taken?, htaken], hclosed⟩
  | driven hdoes =>
    obtain ⟨htaken, rfl⟩ := hdoes.of_closed hclosed
    exact ⟨htaken, hclosed⟩
  | connected hconn =>
    obtain ⟨rfl, rfl⟩ := hconn.of_closed hclosed
    exact ⟨rfl, hclosed⟩
  | counted => exact ⟨rfl, hclosed⟩
  | executed c hplain f => exact ⟨rfl, hclosed⟩
  | bodyBegan => exact ⟨rfl, hclosed⟩
  | bodyReturned => exact ⟨rfl, hclosed⟩
  | bodyFailed f => exact ⟨rfl, hclosed⟩
  | bodyStranded f => exact ⟨rfl, hclosed⟩

/-- A step either calls an operation, and then that is its first event, or includes no call. -/
theorem SessionStep.called_cases {a : Action} {block : List SessionEvent}
    (h : SessionStep s a block s') :
    (∃ call inner f, Does s call inner f s'
      ∧ block = [.called call] ++ inner ++ [.settled call f])
      ∨ ∀ call, .called call ∉ block := by
  cases h with
  | called hdoes => exact .inl ⟨_, _, _, hdoes, rfl⟩
  | driven hdoes => exact .inr hdoes.not_called
  | connected hconn => exact .inr hconn.not_called
  | _ => exact .inr fun call => by simp

/-- A session in which `close` was called is closed. -/
theorem Reachable.closed_of_called (h : Reachable kinds s H) (hcalled : .called .close ∈ H) :
    s.closed = true := by
  induction h with
  | start => cases hcalled
  | step h hstep hkind hfresh ih =>
    rcases List.mem_append.1 hcalled with hold | hnew
    · exact (hstep.of_closed (ih hold)).2
    · rcases hstep.called_cases with ⟨call, inner, f, hdoes, rfl⟩ | hnone
      · simp only [List.mem_append, List.mem_singleton, SessionEvent.called.injEq, reduceCtorEq,
          or_false] at hnew
        rcases hnew with rfl | hinner
        · exact hdoes.close.2
        · exact absurd hinner (hdoes.not_called _)
      · exact absurd hnew (hnone _)

/-- Closing ends well whenever it is called. -/
theorem Reachable.closesWell (h : Reachable kinds s H) : ClosesWell H := by
  induction h with
  | start => exact fun P S heq => by simp at heq
  | @step s s' H block a h hstep hkind hfresh ih =>
    have hnext := Reachable.step h hstep hkind hfresh
    refine ih.append (fun S X₀ hX => ?_) fun hcalled =>
      (hstep.of_closed (h.closed_of_called hcalled)).1
    rcases hstep.called_cases with ⟨call, inner, f, hdoes, rfl⟩ | hnone
    · cases X₀ with
      | nil =>
        -- this very call: it has closed the session, so everything has been given back
        simp only [List.cons_append, List.nil_append, List.cons.injEq,
          SessionEvent.called.injEq] at hX
        obtain ⟨rfl, hS⟩ := hX
        obtain ⟨rfl, hclosed⟩ := hdoes.close
        refine ⟨inner, [], hS.symm, hdoes.not_called, fun c hc => ?_⟩
        have hret := hnext.returned_of_closed hclosed hc
        simp only [returned_append, returned_singleton, SessionEvent.returns] at hret
        simpa using hret
      | cons e X₀ =>
        simp only [List.cons_append, List.nil_append, List.cons.injEq] at hX
        have hmem : .called .close ∈ inner ++ [.settled call f] := by simp [hX.2]
        simp only [List.mem_append, List.mem_singleton, reduceCtorEq, or_false] at hmem
        exact absurd hmem (hdoes.not_called _)
    · exact absurd (by simp [hX]) (hnone .close)

/-! ## Bracketed histories -/

/-- Transactions and connections of a history are well bracketed. -/
structure Bracketed (H : List SessionEvent) : Prop where
  /-- BEGIN is executed only when every transaction of the session has ended. -/
  begins : ∀ P S c level f, H = P ++ .executed c (.begin level) f :: S → ∀ c', Ended c' P
  /-- COMMIT is executed only on a connection on which a transaction has begun and not ended. -/
  commits : ∀ P S c f, H = P ++ .executed c .commit f :: S → Begun c P
  /-- So is ROLLBACK. -/
  rollsBack : ∀ P S c f, H = P ++ .executed c .rollback f :: S → Begun c P
  /-- A connection is given back only when every transaction on it has ended. -/
  returns : ∀ P S c f, H = P ++ .released c f :: S → Ended c P
  /-- There are never two connections that were taken and not given back. -/
  alone : ∀ P S, H = P ++ S → ∀ c c', Kept c P → Kept c' P → c = c'
  /-- No connection is given back twice. -/
  once : ∀ c, returned c H ≤ 1
  /-- Every call of `close` ends without a fault; by then every connection was given back once. -/
  closes : ∀ P S, H = P ++ .called .close :: S →
    ∃ B S', S = B ++ .settled .close none :: S' ∧ (∀ call, .called call ∉ B)
      ∧ ∀ c ∈ taken H, returned c (P ++ B) = 1

/-- Every history of a session is well bracketed. -/
theorem Reachable.bracketed (h : Reachable kinds s H) : Bracketed H := by
  obtain ⟨htracked, hguarded⟩ := h.tracked
  constructor
  · intro P S c level f heq
    exact (hguarded P _ S heq).1
  · intro P S c f heq
    exact (hguarded P _ S heq).1
  · intro P S c f heq
    exact (hguarded P _ S heq).1
  · intro P S c f heq
    exact (hguarded P _ S heq).1.1
  · intro P S heq
    cases S with
    | nil =>
      rw [List.append_nil] at heq
      exact heq ▸ htracked.alone
    | cons e S => exact (hguarded P e S heq).2
  · intro c
    by_cases hc : c ∈ taken H
    · by_cases hheld : s.connection = some c
      · rw [(htracked.holds.kept c hheld).2]
        exact Nat.zero_le 1
      · exact Nat.le_of_eq (htracked.holds.once c hc hheld)
    · rw [htracked.holds.strange c hc]
      exact Nat.zero_le 1
  · exact h.closesWell

/-- Transactions are bracketed and no connection leaks, in every run of work over sessions, whatever
fails on the way and whatever the work throws. -/
theorem transactions_bracketed (w : Surroundings) (work : Work υ α) (own : υ) (ref : SessionRef) :
    Bracketed (((work.play w).run w.serve { own := own }).2.eventsOf ref) :=
  ((work.formedBy w (.start _ own)).reachable ref).bracketed

/-- Work that tries to commit and then closes its session. -/
def commitAndClose : Work Unit Unit :=
  .openSession fun ref =>
  .call ref .connection fun _ =>
  .call ref .commit fun _ =>
  .call ref .close fun _ => .done (.ok ())

/-- Surroundings in which no transaction can be committed and no connection given back. -/
def unfinishing : Surroundings :=
  .failing ⟨.connectionFailed, "gone"⟩ fun _ request =>
    match request with
    | .execute _ _ .commit | .release _ _ => true
    | _ => false

/-- The transaction ends though it cannot be committed, and the connection is given back once. -/
theorem bracketed_commitAndClose :
    let H := ((commitAndClose.play unfinishing).run unfinishing.serve { own := () }).2.eventsOf 0
    Bracketed H ∧ marks ⟨1⟩ H = [true, false] ∧ returned ⟨1⟩ H = 1 := by
  exact ⟨transactions_bracketed unfinishing commitAndClose () 0, by decide +kernel, by decide +kernel⟩

end UnitOfWork.Trial
