import Mathlib.Logic.Relation
import UnitOfWork.Proofs.Trial.Work

/-!
# Steps and reachable sessions

A session changes step by step: with the calls of work, the statements and bodies of savepoints, and
the calls of a driver, which are not noted as calls. `SessionStep` lists these steps and `Reachable`
relates the states that a session can be in to what happened in it by then, by steps of the kinds
that are allowed. `Walk` is a sequence of steps of a whole desk under a rule that says which steps
are taken. An invariant of sessions is proved once for every step, and then holds along every walk.
-/

namespace UnitOfWork

/-- A statement that neither begins nor ends a transaction. -/
def Statement.Plain : Statement → Prop
  | begin _ | commit | rollback => False
  | savepoint _ | releaseSavepoint _ | rollbackTo _ | other _ => True

namespace Trial

variable {υ : Type} {s s' : SessionState} {H block : List SessionEvent}

/-! ## The steps of a session -/

/-- The kinds of steps. -/
inductive Action where
  /-- Work calls an operation. -/
  | call (c : SessionCall)
  /-- A driver calls an operation. -/
  | drive (c : SessionCall)
  /-- A part of a savepoint, or a statement of the work. -/
  | savepoint
  /-- The body of a savepoint fails with what cannot be told, so that the savepoint stays open. -/
  | strand

/-- The kinds of steps of work whose faults can be told, and of a driver if there is one. -/
def Action.Within (driver : Bool) : Action → Prop
  | call _ | savepoint => True
  | drive _ => driver = true
  | strand => False

variable {kinds : Action → Prop}

/-- What a step of a session does: its events and the state that it leaves. -/
inductive SessionStep (s : SessionState) : Action → List SessionEvent → SessionState → Prop where
  | called {call : SessionCall} {block : List SessionEvent} {f : Option Fault} {s' : SessionState}
      (hdoes : Does s call block f s') :
      SessionStep s (.call call) ([.called call] ++ block ++ [.settled call f]) s'
  | driven {call : SessionCall} {block : List SessionEvent} {f : Option Fault} {s' : SessionState}
      (hdoes : Does s call block f s') : SessionStep s (.drive call) block s'
  | connected {block : List SessionEvent} {r : Except Fault Connection} {s' : SessionState}
      (hconn : Connects s block r s') : SessionStep s .savepoint block s'
  | counted : SessionStep s .savepoint [] s.countSavepoint
  | executed (c : Connection) {statement : Statement} (hplain : statement.Plain)
      (f : Option Fault) : SessionStep s .savepoint [.executed c statement f] s
  | bodyBegan : SessionStep s .savepoint [.bodyBegan] s
  | bodyReturned : SessionStep s .savepoint [.bodyEnded none] s
  | bodyFailed (f : Fault) : SessionStep s .savepoint [.bodyEnded (some f)] s.dropMessages
  | bodyStranded (f : Fault) : SessionStep s .strand [.bodyEnded (some f)] s

/-- No connection that is taken in a block was taken before. -/
def Fresh (history block : List SessionEvent) : Prop :=
  (taken (history ++ block)).Nodup

/-- A session can be in a state after a history, by steps of the kinds that are allowed. -/
inductive Reachable (kinds : Action → Prop) : SessionState → List SessionEvent → Prop where
  | start : Reachable kinds {} []
  | step {s s' : SessionState} {H block : List SessionEvent} {a : Action}
      (h : Reachable kinds s H) (hstep : SessionStep s a block s') (hkind : kinds a)
      (hfresh : Fresh H block) : Reachable kinds s' (H ++ block)

/-! ## States that hang together -/

/-- What a state says of itself: an active transaction has its connection, and a closed session
has nothing. -/
structure Orderly (s : SessionState) : Prop where
  sound : s.Sound
  idle_of_closed : s.closed = true → s.transaction = .inactive
  bare_of_closed : s.closed = true → s.connection = none
  empty_of_closed : s.closed = true → s.outbox.entries = []

/-- An open session that is sound hangs together. -/
theorem Orderly.of_open {s : SessionState} (ho : s.closed = false) (hs : s.Sound) : Orderly s :=
  ⟨hs, by simp [ho], by simp [ho], by simp [ho]⟩

/-- An open session without an active transaction hangs together. -/
theorem Orderly.of_idle {s : SessionState} (ho : s.closed = false) (hi : s.transaction ≠ .active) :
    Orderly s :=
  .of_open ho fun ha => absurd ha hi

/-- A session that was just opened hangs together. -/
theorem Orderly.start : Orderly {} :=
  .of_idle rfl nofun

/-- Dropping its messages keeps a session together. -/
theorem Orderly.dropMessages {s : SessionState} (hs : Orderly s) : Orderly s.dropMessages :=
  ⟨hs.sound, hs.idle_of_closed, hs.bare_of_closed, fun _ => rfl⟩

/-- Counting a savepoint keeps a session together. -/
theorem Orderly.countSavepoint {s : SessionState} (hs : Orderly s) : Orderly s.countSavepoint :=
  ⟨hs.sound, hs.idle_of_closed, hs.bare_of_closed, hs.empty_of_closed⟩

/-- Coming to hold a connection sets the connection and nothing else. -/
theorem Attaches.eq {s s' : SessionState} {block : List SessionEvent} {c : Connection}
    (h : Attaches s block c s') : s' = s.withConnection (some c) := by
  cases h with
  | kept h => rw [SessionState.withConnection, ← h]
  | borrowed h => rfl

/-- Connecting keeps a session together, whatever fails. -/
theorem Connects.orderly {s s' : SessionState} {block : List SessionEvent}
    {r : Except Fault Connection} (h : Connects s block r s') (hs : Orderly s) : Orderly s' := by
  cases h with
  | closed h => exact hs
  | refused ho h => exact hs
  | kept ho h ha => exact hs
  | stuck ho h hi =>
    rw [h.eq]
    exact .of_idle ho hi
  | began ho h hi =>
    rw [h.eq]
    exact .of_open ho fun _ => ⟨_, rfl⟩

/-- A call keeps a session together, whatever fails. -/
theorem Does.orderly {s s' : SessionState} {call : SessionCall} {block : List SessionEvent}
    {f : Option Fault} (h : Does s call block f s') (hs : Orderly s) : Orderly s' := by
  cases h with
  | barred h hc => exact hs
  | isolated ho hi => exact .of_idle ho hi
  | notIsolated ho ha => exact hs
  | connected h => exact h.orderly hs
  | queried h => exact h.orderly hs
  | notQueried h => exact h.orderly hs
  | queued ho hb => exact .of_open ho hs.sound
  | notQueued ho hb => exact hs
  | notCommitted ho hc => exact .of_idle ho nofun
  | committed ho hc => exact .of_idle ho nofun
  | flushed ho hc => exact .of_idle ho nofun
  | rolledBack ho hc => exact .of_idle ho nofun
  | cleared ho hc => exact hs.dropMessages
  | closedAgain h => exact hs
  | closedBare ho hc => exact ⟨nofun, fun _ => rfl, fun _ => hc, fun _ => rfl⟩
  | closedIdle ho hc hi => exact ⟨nofun, fun _ => rfl, fun _ => rfl, fun _ => rfl⟩
  | closedActive ho hc ha => exact ⟨nofun, fun _ => rfl, fun _ => rfl, fun _ => rfl⟩

/-- Every step of a session keeps it together. -/
theorem SessionStep.orderly {a : Action} (h : SessionStep s a block s') (hs : Orderly s) :
    Orderly s' := by
  cases h with
  | called hdoes => exact hdoes.orderly hs
  | driven hdoes => exact hdoes.orderly hs
  | connected hconn => exact hconn.orderly hs
  | counted => exact hs.countSavepoint
  | executed c hplain f => exact hs
  | bodyBegan => exact hs
  | bodyReturned => exact hs
  | bodyFailed f => exact hs.dropMessages
  | bodyStranded f => exact hs

/-- A session that steps lead to hangs together. -/
theorem Reachable.orderly (h : Reachable kinds s H) : Orderly s := by
  induction h with
  | start => exact .start
  | step h hstep hkind hfresh ih => exact hstep.orderly ih

/-- No connection is taken twice. -/
theorem Reachable.taken_nodup (h : Reachable kinds s H) : (taken H).Nodup := by
  cases h with
  | start => exact List.nodup_nil
  | step h hstep hkind hfresh => exact hfresh

/-! ## The steps of a desk -/

/-- What a rule decides about: whether a session is opened, and which steps a session takes. -/
inductive Label where
  | opens
  | on (ref : SessionRef) (a : Action)

/-- Every savepoint whose body ran is closed. -/
def Label.Closes : Label → Prop
  | on _ .strand => False
  | _ => True

/-- No driver takes part, and every savepoint whose body ran is closed. -/
def Label.Regular : Label → Prop
  | on _ (.drive _) | on _ .strand => False
  | _ => True

/-- Work whose faults can be told is within every kind of steps. -/
theorem Label.Regular.within {ref : SessionRef} {a : Action} (h : Regular (.on ref a))
    (driver : Bool) : a.Within driver := by
  cases a with
  | call c => trivial
  | drive c => exact h.elim
  | savepoint => trivial
  | strand => exact h.elim

/-- Such work leaves no savepoint open. -/
theorem Label.Regular.closes {l : Label} (h : l.Regular) : l.Closes := by
  cases l with
  | opens => trivial
  | on ref a => cases a <;> trivial

/-- A step that leaves no savepoint open is one of work or of a driver. -/
theorem Label.Closes.within {ref : SessionRef} {a : Action} (h : Closes (.on ref a)) :
    a.Within true := by
  cases a with
  | call c => trivial
  | drive c => rfl
  | savepoint => trivial
  | strand => exact h.elim

/-- A step of a desk under a rule. -/
inductive DeskStep (rule : Label → Prop) (d : Desk υ) : Desk υ → Prop where
  | session {ref : SessionRef} {a : Action} {block : List SessionEvent} {s : SessionState}
      {d' : Desk υ} (hrule : rule (.on ref a)) (ho : ref < d.opened)
      (hstep : SessionStep (d.sessions ref) a block s) (htakes : d.Takes ref block s d') :
      DeskStep rule d d'
  | opens (hrule : rule .opens) : DeskStep rule d d.openSession.2
  | kept (own : υ) (log : Log) : DeskStep rule d { d with own := own, log := log }
  | consulted (question : Json) : DeskStep rule d (d.note (.consulted question))

/-- A desk follows another by steps under a rule. -/
abbrev Walk (rule : Label → Prop) : Desk υ → Desk υ → Prop :=
  Relation.ReflTransGen (DeskStep rule)

/-- All sessions of a desk hang together. -/
def Desk.Orderly (d : Desk υ) : Prop :=
  ∀ ref, Trial.Orderly (d.sessions ref)

section

variable {rule : Label → Prop} {d d' : Desk υ}

/-- A desk stays together if the session that made a step does. -/
theorem Desk.Takes.orderly {ref : SessionRef} (htakes : d.Takes ref block s d')
    (h : d.Orderly) (hs : Trial.Orderly s) : d'.Orderly := by
  intro r
  by_cases hr : r = ref
  · subst hr
    rw [htakes.session_eq]
    exact hs
  · rw [htakes.session_of_ne hr]
    exact h r

/-- A step under a rule is one under every rule that allows more. -/
theorem DeskStep.mono {rule' : Label → Prop} (h : DeskStep rule d d') (hrule : ∀ l, rule l → rule' l) :
    DeskStep rule' d d' := by
  cases h with
  | session hr ho hstep htakes => exact .session (hrule _ hr) ho hstep htakes
  | opens hr => exact .opens (hrule _ hr)
  | kept own log => exact .kept own log
  | consulted question => exact .consulted question

/-- Steps under a rule are steps under every rule that allows more. -/
theorem Walk.mono {rule' : Label → Prop} (h : Walk rule d d') (hrule : ∀ l, rule l → rule' l) :
    Walk rule' d d' :=
  Relation.ReflTransGen.mono (fun _ _ hstep => DeskStep.mono hstep hrule) _ _ h

/-- A step keeps all sessions of a desk together. -/
theorem DeskStep.orderly (h : DeskStep rule d d') (hd : d.Orderly) : d'.Orderly := by
  cases h with
  | session hrule ho hstep htakes => exact htakes.orderly hd (hstep.orderly (hd _))
  | opens hrule => exact hd
  | kept own log => exact hd
  | consulted question => exact hd

/-- A step only ever opens more sessions. -/
theorem DeskStep.opened_le (h : DeskStep rule d d') : d.opened ≤ d'.opened := by
  cases h with
  | session hrule ho hstep htakes => exact Nat.le_of_eq htakes.opened.symm
  | opens hrule => exact Nat.le_succ _
  | kept own log => exact Nat.le_refl _
  | consulted question => exact Nat.le_refl _

/-- Steps keep all sessions of a desk together. -/
theorem Walk.orderly (h : Walk rule d d') (hd : d.Orderly) : d'.Orderly := by
  induction h with
  | refl => exact hd
  | tail _ hstep ih => exact hstep.orderly ih

/-- However many steps are taken, the sessions that were opened stay so. -/
theorem Walk.opened_le (h : Walk rule d d') : d.opened ≤ d'.opened := by
  induction h with
  | refl => exact Nat.le_refl _
  | tail _ hstep ih => exact Nat.le_trans ih hstep.opened_le

end

/-! ## Desks with reachable sessions -/

/-- All sessions of a desk are reachable by steps of the kinds that are allowed, those that were not
opened are untouched, and connections are numbered as they were handed out. -/
structure Desk.FormedBy (kinds : Action → Prop) (d : Desk υ) : Prop where
  reachable : ∀ ref, Reachable kinds (d.sessions ref) (d.eventsOf ref)
  unopened : ∀ ref, d.opened ≤ ref → d.sessions ref = {} ∧ d.eventsOf ref = []
  numbered : ∀ ref, ∀ c ∈ taken (d.eventsOf ref), c.number ≤ d.connections

/-- A desk is well formed: by work whose faults can be told, and by a driver if there is one. -/
abbrev Desk.WellFormed (driver : Bool) (d : Desk υ) : Prop :=
  d.FormedBy (Action.Within driver)

/-- A desk on which nothing has happened. -/
theorem Desk.FormedBy.start (kinds : Action → Prop) (own : υ) :
    ({ own := own } : Desk υ).FormedBy kinds :=
  ⟨fun _ => .start, fun _ _ => ⟨rfl, rfl⟩, fun _ _ h => absurd h List.not_mem_nil⟩

/-- A desk on which nothing has happened is well formed. -/
theorem Desk.WellFormed.start (driver : Bool) (own : υ) :
    ({ own := own } : Desk υ).WellFormed driver :=
  Desk.FormedBy.start _ own

namespace Desk.FormedBy

variable {d d' : Desk υ} {ref : SessionRef}

/-- The sessions of a desk that is formed by steps hang together. -/
theorem orderly (h : d.FormedBy kinds) : d.Orderly :=
  fun ref => (h.reachable ref).orderly

/-- A connection that a session takes is new to it. -/
theorem fresh (h : d.FormedBy kinds) (htakes : d.Takes ref block s d') :
    Fresh (d.eventsOf ref) block := by
  rw [Fresh, taken_append, List.nodup_append]
  refine ⟨(h.reachable ref).taken_nodup, htakes.ordered.imp fun hlt heq => ?_, fun c hc c' hc' heq => ?_⟩
  · rw [heq] at hlt
    exact Nat.lt_irrefl _ hlt
  · have hold := h.numbered ref c hc
    have hnew := (htakes.fresh c' hc').1
    rw [heq] at hold
    omega

/-- A step of one session keeps a desk formed so. -/
theorem takes (h : d.FormedBy kinds) (ho : ref < d.opened) (htakes : d.Takes ref block s d')
    (hreach : Reachable kinds s (d.eventsOf ref ++ block)) : d'.FormedBy kinds := by
  refine ⟨fun r => ?_, fun r hr => ?_, fun r c hc => ?_⟩
  · by_cases hr : r = ref
    · subst hr
      rw [htakes.session_eq, htakes.eventsOf_eq]
      exact hreach
    · rw [htakes.session_of_ne hr, htakes.eventsOf_of_ne hr]
      exact h.reachable r
  · rw [htakes.opened] at hr
    have hne : r ≠ ref := Nat.ne_of_gt (Nat.lt_of_lt_of_le ho hr)
    rw [htakes.session_of_ne hne, htakes.eventsOf_of_ne hne]
    exact h.unopened r hr
  · by_cases hr : r = ref
    · subst hr
      rw [htakes.eventsOf_eq, taken_append, List.mem_append] at hc
      rcases hc with hc | hc
      · exact Nat.le_trans (h.numbered r c hc) htakes.connections
      · exact (htakes.fresh c hc).2
    · rw [htakes.eventsOf_of_ne hr] at hc
      exact Nat.le_trans (h.numbered r c hc) htakes.connections

/-- What no session takes part in keeps a desk formed so. -/
theorem of_same (h : d.FormedBy kinds) (hs : d'.sessions = d.sessions)
    (ho : d.opened ≤ d'.opened) (hc : d'.connections = d.connections)
    (he : ∀ ref, d'.eventsOf ref = d.eventsOf ref) : d'.FormedBy kinds := by
  refine ⟨fun r => ?_, fun r hr => ?_, fun r c hr => ?_⟩
  · rw [hs, he]
    exact h.reachable r
  · rw [hs, he]
    exact h.unopened r (Nat.le_trans ho hr)
  · rw [hc]
    exact h.numbered r c (he r ▸ hr)

/-- What is noted beside the sessions keeps a desk formed so. -/
theorem note (h : d.FormedBy kinds) {e : Event} (he : ∀ ref, e.of? ref = none) :
    (d.note e).FormedBy kinds :=
  h.of_same rfl (Nat.le_refl _) rfl fun ref => by
    simp [Desk.note, Desk.eventsOf, sessionEvents, he]

/-- Opening a session keeps a desk formed so. -/
theorem openSession (h : d.FormedBy kinds) : d.openSession.2.FormedBy kinds := by
  have hcounted : ({ d with opened := d.opened + 1 } : Desk υ).FormedBy kinds :=
    h.of_same rfl (Nat.le_succ _) rfl fun _ => rfl
  exact hcounted.note fun _ => rfl

/-- A step keeps a desk formed so, if the rule lets sessions take only steps of the kinds that are
allowed. -/
theorem step {rule : Label → Prop} (h : d.FormedBy kinds) (hstep : DeskStep rule d d')
    (hkinds : ∀ ref a, rule (.on ref a) → kinds a) : d'.FormedBy kinds := by
  cases hstep with
  | session hrule ho hstep htakes =>
    exact h.takes ho htakes ((h.reachable _).step hstep (hkinds _ _ hrule) (h.fresh htakes))
  | opens hrule => exact h.openSession
  | kept own log => exact h.of_same rfl (Nat.le_refl _) rfl fun _ => rfl
  | consulted question => exact h.note fun _ => rfl

/-- Steps of the kinds that are allowed keep a desk formed so. -/
theorem walk {rule : Label → Prop} (h : d.FormedBy kinds) (hwalk : Walk rule d d')
    (hkinds : ∀ ref a, rule (.on ref a) → kinds a) : d'.FormedBy kinds := by
  induction hwalk with
  | refl => exact h
  | tail _ hstep ih => exact ih.step hstep hkinds

end Desk.FormedBy

/-- Steps of work keep a desk well formed, with or without a driver besides. -/
theorem Desk.FormedBy.regular {driver : Bool} {d d' : Desk υ} (h : d.FormedBy (Action.Within driver))
    (hwalk : Walk Label.Regular d d') : d'.WellFormed driver :=
  h.walk hwalk fun _ _ hrule => hrule.within driver

/-! ## What is added to a history -/

/-- The second desk's history is the first's with some events of a kind after it. -/
def Desk.Adds (p : Event → Prop) (d d' : Desk υ) : Prop :=
  ∃ more, d'.history = d.history ++ more ∧ ∀ e ∈ more, p e

section

variable {p q : Event → Prop} {rule : Label → Prop} {d d₁ d₂ : Desk υ}

/-- Where nothing happens nothing is added. -/
theorem Desk.Adds.refl (d : Desk υ) : d.Adds p d :=
  ⟨[], by simp, by simp⟩

/-- What is added in two parts is of the kind of both. -/
theorem Desk.Adds.trans (h : d.Adds p d₁) (h' : d₁.Adds p d₂) : d.Adds p d₂ := by
  obtain ⟨more, hmore, hp⟩ := h
  obtain ⟨more', hmore', hp'⟩ := h'
  refine ⟨more ++ more', by rw [hmore', hmore, List.append_assoc], fun e he => ?_⟩
  exact (List.mem_append.1 he).elim (hp e) (hp' e)

/-- What is added is also of every wider kind. -/
theorem Desk.Adds.mono (h : d.Adds p d₁) (hpq : ∀ e, p e → q e) : d.Adds q d₁ := by
  obtain ⟨more, hmore, hp⟩ := h
  exact ⟨more, hmore, fun e he => hpq e (hp e he)⟩

/-- A note adds itself. -/
theorem Desk.Adds.note (d : Desk υ) {e : Event} (he : p e) : d.Adds p (d.note e) :=
  ⟨[e], rfl, by simpa using he⟩

/-- Besides a block of one session's events there are only deliveries of the batches in it. -/
theorem Desk.Takes.adds {ref : SessionRef} (h : d.Takes ref block s d₁)
    (hblock : ∀ e ∈ block, p (.session ref e))
    (hdelivers : ∀ e : Event, e.Delivers (batches block).flatten → p e) : d.Adds p d₁ := by
  obtain ⟨more, hmore, hsession, hall⟩ := h.history
  refine ⟨more, hmore, fun e he => ?_⟩
  rcases hall e he with ⟨e', rfl⟩ | hdel
  · refine hblock e' ?_
    rw [← hsession]
    exact List.mem_filterMap.2 ⟨_, he, Event.of?_session ref e'⟩
  · exact hdelivers e hdel

/-- What the steps of sessions add, a step of a desk adds. -/
theorem DeskStep.adds (h : DeskStep rule d d₁)
    (hsession : ∀ ref a block s, rule (.on ref a) → SessionStep (d.sessions ref) a block s →
      (∀ e ∈ block, p (.session ref e)) ∧ ∀ e : Event, e.Delivers (batches block).flatten → p e)
    (hopens : rule .opens → ∀ ref, p (.opened ref)) (hconsulted : ∀ question, p (.consulted question)) :
    d.Adds p d₁ := by
  cases h with
  | session hrule ho hstep htakes =>
    obtain ⟨hblock, hdelivers⟩ := hsession _ _ _ _ hrule hstep
    exact htakes.adds hblock hdelivers
  | opens hrule => exact .note _ (hopens hrule _)
  | kept own log => exact .refl d
  | consulted question => exact .note _ (hconsulted question)

end

end Trial

end UnitOfWork
