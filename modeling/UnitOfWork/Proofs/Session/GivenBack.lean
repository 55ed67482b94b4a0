import UnitOfWork.Proofs.Session.Holding

/-!
# Statements after a connection was given back

An operation executes statements only on the connection that the session holds at that moment. A
savepoint keeps its connection in hand across its body, which may end the transaction and give the
connection back; the statement that ends the savepoint is executed on it all the same.
`executed_after_return_iff` says that this is the only way in which a statement is executed on a
connection that was given back.
-/

namespace UnitOfWork

/-- The statement that ends a savepoint after its body. -/
def Statement.ending (n : Nat) : Option Fault → Statement
  | none => releaseSavepoint n
  | some _ => rollbackTo n

namespace Trial

variable {υ α : Type} {s s' : SessionState} {H P S block : List SessionEvent}
  {c : Connection}

/-! ## Statements on the connection that is held -/

/-- Every statement in a block is executed on the connection that is held, from a grip on. -/
def OnHeld (g : Grip) (block : List SessionEvent) : Prop :=
  ∀ P c st f S, block = P ++ .executed c st f :: S → (gripFrom g P).held = some c

/-- Where nothing is executed, all that is executed is so on what is held. -/
theorem onHeld_of_none {g : Grip} (h : ∀ c st f, .executed c st f ∉ block) : OnHeld g block := by
  intro P c st f S heq
  exact absurd (by simp [heq]) (h c st f)

/-- Two blocks that execute on what is held do so one after the other. -/
theorem OnHeld.append {g : Grip} {b b' : List SessionEvent} (h : OnHeld g b)
    (h' : OnHeld (gripFrom g b) b') : OnHeld g (b ++ b') := by
  intro P c st f S heq
  rcases append_eq_append_cons heq with ⟨S₀, hb, rfl⟩ | ⟨X, rfl, hb'⟩
  · exact h P c st f S₀ hb
  · rw [gripFrom_append]
    exact h' X c st f S hb'

/-- One statement, on the connection that is held. -/
theorem onHeld_executed {g : Grip} {st : Statement} {f : Option Fault} (h : g.held = some c) :
    OnHeld g [.executed c st f] := by
  intro P c' st' f' S heq
  cases P with
  | nil =>
    cases heq
    exact h
  | cons e P => simp at heq

/-- Coming to hold a connection executes nothing. -/
theorem Attaches.onHeld {g : Grip} (h : Attaches s block c s') : OnHeld g block := by
  cases h <;> exact onHeld_of_none (by simp)

/-- A transaction begins on the connection that is held by then. -/
theorem Connects.onHeld {r : Except Fault Connection} (h : Connects s block r s') :
    OnHeld (.ofState s) block := by
  cases h with
  | stuck ho h hi =>
    refine h.onHeld.append (onHeld_executed ?_)
    rw [← (h.path hi).eq_gripFrom]
  | began ho h hi =>
    refine h.onHeld.append (onHeld_executed ?_)
    rw [← (h.path hi).eq_gripFrom]
  | _ => exact onHeld_of_none (by simp)

/-- A session holds the connection that it was asked for. -/
theorem Connects.held (h : Connects s block (.ok c) s') : s'.connection = some c := by
  cases h with
  | kept ho h ha => exact h
  | began ho h hi =>
    rw [h.eq]
    rfl

/-- Giving a connection back executes nothing. -/
theorem onHeld_released (g : Grip) (c : Connection) (f : Option Fault) :
    OnHeld g [.released c f] :=
  onHeld_of_none (by simp)

/-- Handing messages over executes nothing. -/
theorem onHeld_handing (g : Grip) (messages : List Message) : OnHeld g (handing messages) :=
  onHeld_of_none fun c st f => by cases messages <;> simp [handing]

/-- An operation executes statements only on the connection that the session holds. -/
theorem Does.onHeld {call : SessionCall} {f : Option Fault} (h : Does s call block f s') :
    OnHeld (.ofState s) block := by
  cases h with
  | connected h => exact h.onHeld
  | queried h =>
    refine h.onHeld.append (onHeld_executed ?_)
    rw [← h.path.eq_gripFrom]
    exact h.held
  | notQueried h => exact h.onHeld
  | notCommitted ho hc => exact onHeld_executed (SessionState.activeConnection?_eq_some hc).2
  | @committed c f ho hc =>
    have hcommit : OnHeld (.ofState s) [.executed c .commit none] :=
      onHeld_executed (SessionState.activeConnection?_eq_some hc).2
    exact (hcommit.append (onHeld_released _ c f)).append (onHeld_handing _ _)
  | flushed ho hc => exact onHeld_handing _ _
  | rolledBack ho hc => exact onHeld_executed (SessionState.activeConnection?_eq_some hc).2
  | @closedActive c f g ho hc ha =>
    have hrollback : OnHeld (.ofState s) [.executed c .rollback f] := onHeld_executed hc
    exact hrollback.append (onHeld_released _ c g)
  | closedIdle ho hc hi => exact onHeld_released _ _ _
  | _ => exact onHeld_of_none (by simp)

/-! ## Statements that have their reason -/

/-- The reason for which a statement is executed on a connection after a history: the connection is
held, or a savepoint on it ends, which was begun when it was held. -/
inductive Reason (P : List SessionEvent) (c : Connection) : Statement → Prop where
  | held {st : Statement} (h : (gripAfter P).held = some c) : Reason P c st
  | ends {P₀ B : List SessionEvent} {n : Nat} {r : Option Fault} (h : (gripAfter P₀).held = some c)
      (hP : P = P₀ ++ .executed c (.savepoint n) none :: .bodyBegan :: (B ++ [.bodyEnded r])) :
      Reason P c (.ending n r)

/-- Every statement of a history has its reason. -/
def Reasoned (H : List SessionEvent) : Prop :=
  ∀ P c st f S, H = P ++ .executed c st f :: S → Reason P c st

/-- A history stays reasoned by a block each statement of which has its reason. -/
theorem Reasoned.append (h : Reasoned H)
    (hblock : ∀ P c st f S, block = P ++ .executed c st f :: S → Reason (H ++ P) c st) :
    Reasoned (H ++ block) := by
  intro P c st f S heq
  rcases append_eq_append_cons heq with ⟨S₀, hH, rfl⟩ | ⟨X, rfl, hX⟩
  · exact h P c st f S₀ hH
  · exact hblock X c st f S hX

/-- A statement on the connection that is held needs no other reason. -/
theorem Reasoned.onHeld (h : Reasoned H) (hblock : OnHeld (gripAfter H) block) :
    Reasoned (H ++ block) :=
  h.append fun P c st f S heq => .held (gripAfter_append.symm ▸ hblock P c st f S heq)

/-- A statement that has its reason keeps a history reasoned. -/
theorem Reasoned.executed {st : Statement} (h : Reasoned H) (hreason : Reason H c st)
    (f : Option Fault) : Reasoned (H ++ [.executed c st f]) := by
  refine h.append fun P c' st' f' S heq => ?_
  cases P with
  | nil =>
    cases heq
    rwa [List.append_nil]
  | cons e P => simp at heq

/-! ## Desks -/

/-- A desk on which every statement of every session has its reason. -/
structure Desk.Reasoned (d : Desk υ) : Prop where
  wellFormed : d.WellFormed false
  reasoned : ∀ ref, Trial.Reasoned (d.eventsOf ref)

/-- The work executes statements only through operations of sessions. -/
def Work.KeepsToSessions : Work υ α → Prop
  | done _ => True
  | act _ next => ∀ own, (next own).KeepsToSessions
  | consult _ next => ∀ r, (next r).KeepsToSessions
  | openSession next => ∀ ref, (next ref).KeepsToSessions
  | look _ next => ∀ s, (next s).KeepsToSessions
  | use _ _ _ _ => False
  | call _ _ next => ∀ r, (next r).KeepsToSessions
  | savepoint _ body next => body.KeepsToSessions ∧ ∀ r, (next r).KeepsToSessions

/-- Steps only add to the history of a session. -/
theorem Walk.eventsOf_eq {rule : Label → Prop} {d d' : Desk υ} (h : Walk rule d d')
    (ref : SessionRef) : ∃ B, d'.eventsOf ref = d.eventsOf ref ++ B := by
  have hadds : d.Adds (fun _ => True) d' := by
    induction h with
    | refl => exact .refl d
    | tail _ hstep ih =>
      exact ih.trans (hstep.adds (fun _ _ _ _ _ _ => ⟨fun _ _ => trivial, fun _ _ => trivial⟩)
        (fun _ _ => trivial) fun _ => trivial)
  obtain ⟨more, hmore, -⟩ := hadds
  exact ⟨sessionEvents ref more, by rw [Desk.eventsOf, hmore, sessionEvents_append, Desk.eventsOf]⟩

namespace Desk.Reasoned

variable {d d₁ d' : Desk υ} {ref : SessionRef}

/-- A desk on which no session has gone through anything is reasoned as before. -/
theorem of_same (h : d.Reasoned) (hwell : d'.WellFormed false)
    (he : ∀ ref, d'.eventsOf ref = d.eventsOf ref) : d'.Reasoned :=
  ⟨hwell, fun ref => he ref ▸ h.reasoned ref⟩

/-- A block of one session's events in which every statement has its reason. -/
theorem takes (h : d.Reasoned) (hwell : d'.WellFormed false) (htakes : d.Takes ref block s d')
    (hblock : Trial.Reasoned (d.eventsOf ref ++ block)) : d'.Reasoned := by
  refine ⟨hwell, fun r => ?_⟩
  by_cases hr : r = ref
  · subst hr
    rw [htakes.eventsOf_eq]
    exact hblock
  · rw [htakes.eventsOf_of_ne hr]
    exact h.reasoned r

/-- What happens on the connection that the session holds. -/
theorem onHeld (h : d.Reasoned) (hblock : OnHeld (.ofState (d.sessions ref)) block) :
    Trial.Reasoned (d.eventsOf ref ++ block) := by
  refine (h.reasoned ref).onHeld ?_
  rw [(h.wellFormed.reachable ref).gripAfter_eq]
  exact hblock

/-- A savepoint is executed on the connection that the session holds. -/
theorem marks {n : Nat} {f : Option Fault} (h : d.Reasoned) (hmarks : Marks ref d c n f d₁)
    (ho : ref < d.opened) :
    d₁.Reasoned ∧ ∃ P₀, d₁.eventsOf ref = P₀ ++ [.executed c (.savepoint n) f]
      ∧ (gripAfter P₀).held = some c := by
  have hwell : d₁.WellFormed false := h.wellFormed.regular (hmarks.walk ref trivial ho)
  obtain @⟨block, _, s, _, d₀, _, hconn, hobtains, hmarks⟩ := hmarks
  have hheld : (gripAfter (d.eventsOf ref ++ block)).held = some c := by
    rw [gripAfter_append, (h.wellFormed.reachable ref).gripAfter_eq, ← hconn.path.eq_gripFrom]
    exact hconn.held
  have htakes := hobtains.trans hmarks
  have hreason : Reason _ c (.savepoint (s.savepoints + 1)) := .held hheld
  have hreasoned := (h.onHeld hconn.onHeld).executed hreason f
  rw [List.append_assoc] at hreasoned
  refine ⟨h.takes hwell htakes hreasoned, d.eventsOf ref ++ block, ?_, hheld⟩
  rw [htakes.eventsOf_eq, List.append_assoc]

/-- A body begins where every statement has its reason. -/
theorem began {n : Nat} (h : d.Reasoned) (hmarks : Marks ref d c n none d₁) (ho : ref < d.opened) :
    (d₁.note (.session ref .bodyBegan)).Reasoned :=
  (h.marks hmarks ho).1.takes (h.wellFormed.regular (hmarks.walk_began ref trivial ho))
    (.note d₁ ref rfl) ((h.marks hmarks ho).1.onHeld (onHeld_of_none (by simp)))

/-- The statement that ends a savepoint has its reason, whatever the body did. -/
theorem ended {n : Nat} {r f : Option Fault} {B : List SessionEvent} {d₂ : Desk υ} (h : d.Reasoned)
    (hmarks : Marks ref d c n none d₁) (ho : ref < d.opened) (h₂ : d₂.Reasoned)
    (hB : d₂.eventsOf ref = (d₁.note (.session ref .bodyBegan)).eventsOf ref ++ B)
    (hends : (d₂.note (.session ref (.bodyEnded r))).Takes ref [.executed c (.ending n r) f] s d')
    (hwell : d'.WellFormed false) : d'.Reasoned := by
  obtain ⟨-, P₀, hP₀, hheld⟩ := h.marks hmarks ho
  have htakes := (Desk.Takes.note d₂ ref (e := .bodyEnded r) rfl).trans hends
  refine h₂.takes hwell htakes ?_
  rw [← List.append_assoc]
  refine (h₂.onHeld (onHeld_of_none (by simp))).executed (.ends (B := B) hheld ?_) f
  rw [hB, (Desk.Takes.note d₁ ref (e := .bodyBegan) rfl).eventsOf_eq, hP₀]
  simp

end Desk.Reasoned

/-- A call executes statements only on the connection that the session holds. -/
theorem Desk.Reasoned.called {d d' : Desk υ} {ref : SessionRef} {call : SessionCall}
    {f : Option Fault} (h : d.Reasoned) (ho : ref < d.opened)
    (hdoes : Does (d.sessions ref) call block f s)
    (htakes : d.Takes ref ([.called call] ++ block ++ [.settled call f]) s d') : d'.Reasoned := by
  have hstep : DeskStep Label.Regular d d' := .session (by trivial) ho (.called hdoes) htakes
  refine h.takes (h.wellFormed.regular (.single hstep)) htakes (h.onHeld ?_)
  exact ((onHeld_of_none (by simp)).append (b := [.called call]) hdoes.onHeld).append
    (onHeld_of_none (by simp))

/-- A savepoint around a body in which every statement has its reason. -/
theorem Desk.Reasoned.saves {w : Surroundings} {ref : SessionRef} {body : Program Calls (Desk υ) α}
    {r : Except Fault α} {d d' : Desk υ} (h : d.Reasoned) (ho : ref < d.opened)
    (hsaves : Saves w ref body d r d')
    (hwalks : Walks w Label.Regular (ref + 1) body)
    (hbody : ∀ d₁ : Desk υ, d₁.Reasoned → (body.run w.serve d₁).2.Reasoned) : d'.Reasoned := by
  have hwell : d'.WellFormed false :=
    h.wellFormed.regular (hsaves.walk ref trivial h.wellFormed.orderly ho hwalks)
  have hinside : ∀ {c n d₁ d₂} {r : Except Fault α}, Marks ref d c n none d₁ →
      body.run w.serve (d₁.note (.session ref .bodyBegan)) = (r, d₂) →
      d₂.Reasoned ∧ ∃ B, d₂.eventsOf ref
        = (d₁.note (.session ref .bodyBegan)).eventsOf ref ++ B := by
    intro c n d₁ d₂ r hmarks hrun
    have hbegan := h.began hmarks ho
    have h₂ := hbody _ hbegan
    have hwalk : Walk Label.Regular d _ := hmarks.walk_began ref trivial ho
    obtain ⟨r', d₂', hrun', -, hwalk'⟩ :=
      hwalks _ hbegan.wellFormed.orderly (Nat.le_trans ho hwalk.opened_le)
    rw [hrun] at h₂ hrun'
    cases hrun'
    exact ⟨h₂, hwalk'.eventsOf_eq ref⟩
  cases hsaves with
  | refused hconn htakes => exact h.takes hwell htakes (h.onHeld hconn.onHeld)
  | unmarked hmarks => exact (h.marks hmarks ho).1
  | returned hmarks hrun hends =>
    obtain ⟨h₂, B, hB⟩ := hinside hmarks hrun
    exact h.ended (r := none) hmarks ho h₂ hB hends hwell
  | @failed c n f g d₁ d₂ _ hmarks hrun hf hends =>
    obtain ⟨h₂, B, hB⟩ := hinside hmarks hrun
    exact h.ended (r := some f) hmarks ho h₂ hB hends hwell
  | stranded hmarks hrun hf =>
    obtain ⟨hr, -, -⟩ := hmarks.walk_body ref trivial h.wellFormed.orderly ho hwalks hrun
    exact absurd (settles_error.1 (settles_of_regular hr)) hf

/-- Work that keeps to its sessions executes no statement without a reason. -/
theorem Work.reasoned (w : Surroundings) {work : Work υ α} (h : work.Sayable)
    (hkeeps : work.KeepsToSessions) {d : Desk υ} (hd : d.Reasoned) :
    ((work.play w).run w.serve d).2.Reasoned := by
  induction work generalizing d with
  | done outcome => exact hd
  | act update next ih =>
    exact ih d.own (h _) (hkeeps _)
      (hd.of_same (hd.wellFormed.of_same rfl (Nat.le_refl _) rfl fun _ => rfl) fun _ => rfl)
  | consult question next ih =>
    obtain ⟨r, hr, hserve⟩ := w.serve_consult question d
    rw [Work.play, Program.run_ask, hserve]
    exact ih r (h r hr) (hkeeps r) (hd.of_same (hd.wellFormed.note fun _ => rfl) fun ref => by
      simp [Desk.note, Desk.eventsOf, sessionEvents, Event.of?])
  | openSession next ih =>
    exact ih d.opened (h _) (hkeeps _) (hd.of_same hd.wellFormed.openSession fun ref => by
      simp [Desk.openSession, Desk.note, Desk.eventsOf, sessionEvents, Event.of?])
  | look ref next ih => exact ih (d.sessions ref) (h _) (hkeeps _) hd
  | use ref c text next ih => exact hkeeps.elim
  | call ref call next ih =>
    rw [Work.play, Program.run_andThen]
    by_cases ho : ref < d.opened
    · obtain ⟨r, block, s, d', hrun, hr, hdoes, htakes⟩ :=
        w.run_calling ref d call (hd.wellFormed.orderly ref).sound
      rw [run_onceOpened_of_lt ho, hrun]
      exact ih r (h r hr) (hkeeps r) (hd.called ho hdoes htakes)
    · rw [run_onceOpened_of_not_lt ho]
      exact ih _ (h _ (settles_of_isError rfl)) (hkeeps _) hd
  | savepoint ref body next ihbody ih =>
    rw [Work.play, Program.run_andThen]
    by_cases ho : ref < d.opened
    · have hwalks : Walks w Label.Regular (ref + 1) (body.play w) := Work.walks_regular h.1 _
      obtain ⟨r, d', hrun, hr, hsaves⟩ :=
        w.run_savepoint ref d (hd.wellFormed.orderly ref).sound (body.play w)
      rw [run_onceOpened_of_lt ho, hrun]
      exact ih r (h.2 r hr) (hkeeps.2 r)
        (hd.saves ho hsaves hwalks fun d₁ hd₁ => ihbody h.1 hkeeps.1 hd₁)
    · rw [run_onceOpened_of_not_lt ho]
      exact ih _ (h.2 _ (settles_of_isError rfl)) (hkeeps.2 _) hd

/-- The statement ends a savepoint on a connection, and the body of the savepoint gave the
connection back. -/
def EndsReturned (P : List SessionEvent) (c : Connection) (st : Statement) : Prop :=
  ∃ n r P₀ B, st = .ending n r ∧ returned c B ≠ 0
    ∧ P = P₀ ++ .executed c (.savepoint n) none :: .bodyBegan :: (B ++ [.bodyEnded r])

/-- Only a body can give a connection back while its savepoint lasts. -/
theorem returned_around {B : List SessionEvent} {c' : Connection} {n : Nat} {r : Option Fault} :
    returned c (P ++ .executed c' (.savepoint n) none :: .bodyBegan :: (B ++ [.bodyEnded r]))
      = returned c P + returned c B := by
  simp [returned, SessionEvent.returns]

/-- In every run of work that keeps to its sessions, whatever fails, a statement is executed on a
connection that was given back exactly if it ends a savepoint whose body gave the connection
back. -/
theorem executed_after_return_iff (w : Surroundings) {work : Work υ α} (hwork : work.Sayable)
    (hkeeps : work.KeepsToSessions) (own : υ) (ref : SessionRef) :
    ∀ P c st f S, ((work.play w).run w.serve { own := own }).2.eventsOf ref
        = P ++ .executed c st f :: S →
      (returned c P ≠ 0 ↔ EndsReturned P c st) := by
  intro P c st f S heq
  have hstart : ({ own := own } : Desk υ).Reasoned :=
    ⟨Desk.WellFormed.start false own, fun _ P c st f S h => by simp [Desk.eventsOf] at h⟩
  obtain ⟨hwell, hreasoned⟩ := Work.reasoned w hwork hkeeps hstart
  have hreach := hwell.reachable ref
  rw [heq] at hreach
  constructor
  · intro hret
    cases hreasoned ref P c st f S heq with
    | held h => exact absurd (hreach.kept_iff.2 h).2 hret
    | @ends P₀ B n r h hP =>
      subst hP
      rw [List.append_assoc] at hreach
      rw [returned_around, (hreach.kept_iff.2 h).2, Nat.zero_add] at hret
      exact ⟨n, r, P₀, B, rfl, hret, rfl⟩
  · rintro ⟨n, r, P₀, B, rfl, hB, rfl⟩
    rw [returned_around]
    omega

/-- Work that ends its transaction within a savepoint. -/
def endInside (ending : SessionCall) (outcome : Except Fault Unit) : Work Unit Unit :=
  .openSession fun ref =>
  .savepoint ref (.call ref ending fun _ => .done outcome) fun r => .done r

/-- A session that is closed within a savepoint whose body then fails: the transaction is rolled
back to the savepoint on the connection that was given back. -/
theorem rollbackTo_after_close :
    let f : Fault := .error ⟨.connectionFailed, "gone"⟩
    let P₀ : List SessionEvent :=
      [.reserved (.ok ⟨1⟩), .executed ⟨1⟩ (.begin .readCommitted) none]
    let B : List SessionEvent :=
      [.called .close, .executed ⟨1⟩ .rollback none, .released ⟨1⟩ none, .settled .close none]
    let P := P₀ ++ .executed ⟨1⟩ (.savepoint 1) none :: .bodyBegan :: (B ++ [.bodyEnded (some f)])
    (((endInside .close (.error f)).play .calm).run Surroundings.calm.serve
        { own := () }).2.eventsOf 0 = P ++ .executed ⟨1⟩ (.rollbackTo 1) none :: []
      ∧ returned ⟨1⟩ P ≠ 0 := by
  intro f P₀ B P
  have hf : f.Sayable := Fault.sayable_of_isError rfl
  have hwork : (endInside .close (.error f)).Sayable :=
    fun _ => ⟨fun _ _ => settles_error.2 hf, fun _ hr => hr⟩
  have hkeeps : (endInside .close (.error f)).KeepsToSessions :=
    fun _ => ⟨fun _ => trivial, fun _ => trivial⟩
  have hevents : (((endInside .close (.error f)).play .calm).run Surroundings.calm.serve
      { own := () }).2.eventsOf 0 = P ++ .executed ⟨1⟩ (.rollbackTo 1) none :: [] := rfl
  exact ⟨hevents, (executed_after_return_iff .calm hwork hkeeps () 0 P _ _ _ _ hevents).2
    ⟨1, some f, P₀, B, rfl, by decide, rfl⟩⟩

/-- A commit within a savepoint gives the connection back, on which RELEASE SAVEPOINT is executed
then. -/
theorem releaseSavepoint_after_commit :
    let P : List SessionEvent :=
      [.reserved (.ok ⟨1⟩), .executed ⟨1⟩ (.begin .readCommitted) none,
        .executed ⟨1⟩ (.savepoint 1) none, .bodyBegan, .called .commit, .executed ⟨1⟩ .commit none,
        .released ⟨1⟩ none, .settled .commit none, .bodyEnded none]
    (((endInside .commit (.ok ())).play .calm).run Surroundings.calm.serve
        { own := () }).2.eventsOf 0 = P ++ .executed ⟨1⟩ (.releaseSavepoint 1) none :: []
      ∧ returned ⟨1⟩ P = 1 :=
  ⟨rfl, by decide⟩

end Trial

end UnitOfWork
