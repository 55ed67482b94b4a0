import UnitOfWork.Proofs.Session.Nesting

/-!
# Calls of savepoints

`SavepointCall` says what a call of a savepoint around a body of work comes to: the body runs if the
savepoint was taken, its outcome decides how the savepoint is closed, and its fault is the outcome
of the call whether or not rolling back succeeds. `savepoints_nest` says this of each call that a
run comes to, in the bodies of savepoints too, and that the savepoints of every session nest.
-/

namespace UnitOfWork.Trial

variable {υ α : Type} {s s' : SessionState} {block : List SessionEvent} {c : Connection} {n : Nat}

/-! ## Transactions that stay open -/

/-- Steps that neither end the transaction of a session nor close it. -/
def Label.Spares (ref : SessionRef) : Label → Prop
  | on r (.call .commit) | on r (.call .rollback) | on r (.call .close) => r ≠ ref
  | _ => True

/-- The connection that a session is asked for has a transaction. -/
theorem Connects.active (h : Connects s block (.ok c) s') : s'.transaction = .active := by
  cases h with
  | kept ho h ha => exact ha
  | began ho h hi => rfl

/-- Connecting leaves an active transaction active. -/
theorem Connects.keepsActive {r : Except Fault Connection} (h : Connects s block r s')
    (ha : s.transaction = .active) : s'.transaction = .active := by
  cases h with
  | closed h => exact ha
  | refused ho h => exact ha
  | kept ho h ha => exact ha
  | stuck ho h hi => exact absurd ha hi
  | began ho h hi => rfl

/-- An active transaction ends by a commit, a rollback or a close only. -/
theorem Does.keepsActive {call : SessionCall} {f : Option Fault} (h : Does s call block f s')
    (hcommit : call ≠ .commit) (hrollback : call ≠ .rollback) (hclose : call ≠ .close)
    (ha : s.transaction = .active) : s'.transaction = .active := by
  cases h with
  | connected h => exact h.keepsActive ha
  | queried h => exact h.keepsActive ha
  | notQueried h => exact h.keepsActive ha
  | notCommitted | committed | flushed => exact absurd rfl hcommit
  | rolledBack | cleared => exact absurd rfl hrollback
  | closedAgain | closedBare | closedIdle | closedActive => exact absurd rfl hclose
  | _ => exact ha

/-- A step that spares the transaction keeps it active. -/
theorem DeskStep.keepsActive {d d' : Desk υ} {ref : SessionRef}
    (h : DeskStep (fun l => l.Regular ∧ l.Spares ref) d d')
    (ha : (d.sessions ref).transaction = .active) : (d'.sessions ref).transaction = .active := by
  cases h with
  | @session r a block s _ hrule ho hstep htakes =>
    by_cases hr : r = ref
    · subst hr
      rw [htakes.session_eq]
      cases hstep with
      | @called call block f s hdoes =>
        refine hdoes.keepsActive ?_ ?_ ?_ ha <;> rintro rfl <;> exact hrule.2 rfl
      | driven hdoes => exact hrule.1.elim
      | connected hconn => exact hconn.keepsActive ha
      | counted => exact ha
      | executed c hplain f => exact ha
      | bodyBegan => exact ha
      | bodyReturned => exact ha
      | bodyFailed f => exact ha
      | bodyStranded f => exact hrule.1.elim
    · rw [htakes.session_of_ne (Ne.symm hr)]
      exact ha
  | opens hrule => exact ha
  | kept own log => exact ha
  | consulted question => exact ha

/-- Steps that spare a session leave its transaction active. -/
theorem Walk.keepsActive {d d' : Desk υ} {ref : SessionRef}
    (h : Walk (fun l => l.Regular ∧ l.Spares ref) d d')
    (ha : (d.sessions ref).transaction = .active) : (d'.sessions ref).transaction = .active := by
  induction h with
  | refl => exact ha
  | tail _ hstep ih => exact hstep.keepsActive ih

/-- A body of a savepoint that spares the transaction leaves it active. -/
theorem Marks.active_of_spares {w : Surroundings} {d d₁ d₂ : Desk υ} {ref : SessionRef}
    {body : Work υ α} {r : Except Fault α} (h : Marks ref d c n none d₁) (hd : d.Orderly)
    (hbody : body.Sayable) (hspares : body.Obeys (Label.Spares ref))
    (hrun : (body.play w).run w.serve (d₁.note (.session ref .bodyBegan)) = (r, d₂)) :
    (d₂.sessions ref).transaction = .active := by
  have hwalk := (Work.walk_of_run hbody hspares (h.orderly_began hd) hrun).2
  obtain ⟨hconn, hobtains, hmarks⟩ := h
  refine hwalk.keepsActive ?_
  show (d₁.sessions ref).transaction = .active
  rw [hmarks.session_eq]
  exact hconn.active

/-! ## Calls -/

/-- What a call of a savepoint around a body of work comes to: its outcome and the desk that it
leaves. -/
inductive SavepointCall (w : Surroundings) (ref : SessionRef) (body : Work υ α) (d : Desk υ) :
    Except Fault α → Desk υ → Prop where
  | unopened (ho : ¬ ref < d.opened) : SavepointCall w ref body d (.error unopenedFault) d
  /-- The session has no connection to give. -/
  | refused {block : List SessionEvent} {f : Fault} {s : SessionState} {d' : Desk υ}
      (hconn : Connects (d.sessions ref) block (.error f) s) (htakes : d.Takes ref block s d') :
      SavepointCall w ref body d (.error f) d'
  /-- The savepoint cannot be taken. -/
  | unmarked {c : Connection} {n : Nat} {f : Fault} {d' : Desk υ}
      (hmarks : Marks ref d c n (some f) d') : SavepointCall w ref body d (.error f) d'
  /-- The savepoint is taken and the body runs. -/
  | ran {c : Connection} {n : Nat} {result r : Except Fault α} {g : Option Fault} {s : SessionState}
      {d₁ d₂ d' : Desk υ} (hmarks : Marks ref d c n none d₁)
      (hbody : (body.play w).run w.serve (d₁.note (.session ref .bodyBegan)) = (result, d₂))
      (hends : (d₂.note (.session ref (.bodyEnded (Fault.of? result)))).Takes ref
        [.executed c (.ending n (Fault.of? result)) g] s d')
      (hfailed : ∀ f, result = .error f → r = .error f
        ∧ (d'.sessions ref).outbox.entries = []
        ∧ (body.Obeys (Label.Spares ref) → (d'.sessions ref).transaction = .active))
      (hreturned : ∀ a, result = .ok a → r = (Fault.toResult g).map fun _ => a) :
      SavepointCall w ref body d r d'

/-- Each call of a savepoint that a run of a work from a desk comes to has a property, in the bodies
of savepoints too. -/
def Work.EachSavepoint (w : Surroundings) (p : SessionRef → Work υ α → Desk υ → Prop) :
    Work υ α → Desk υ → Prop
  | done _, _ => True
  | act update next, d => (next d.own).EachSavepoint w p { d with own := update d.own }
  | consult question next, d =>
    (next (w.serve (.consult question) d).1).EachSavepoint w p (w.serve (.consult question) d).2
  | openSession next, d => (next d.openSession.1).EachSavepoint w p d.openSession.2
  | look ref next, d => (next (d.sessions ref)).EachSavepoint w p d
  | use ref c text next, d =>
    ∀ r d', (onceOpened ref ((w.session ref).execute c (.other text))).run w.serve d = (r, d') →
      (next r).EachSavepoint w p d'
  | call ref c next, d =>
    ∀ r d', (onceOpened ref (w.calling ref c)).run w.serve d = (r, d') →
      (next r).EachSavepoint w p d'
  | savepoint ref body next, d =>
    p ref body d
      ∧ (∀ c n d₁, Marks ref d c n none d₁ →
          body.EachSavepoint w p (d₁.note (.session ref .bodyBegan)))
      ∧ ∀ r d', (onceOpened ref ((w.session ref).savepoint (inBody ref (body.play w)))).run w.serve d
          = (r, d') → (next r).EachSavepoint w p d'

section

variable {w : Surroundings} {d d' : Desk υ} {ref : SessionRef} {r : Except Fault α}

/-- What a savepoint comes to is a call in one of its cases, if the body throws what can be told. -/
theorem Saves.call {body : Work υ α} (h : Saves w ref (body.play w) d r d') (hd : d.Orderly)
    (hbody : body.Sayable) : SavepointCall w ref body d r d' := by
  cases h with
  | refused hconn htakes => exact .refused hconn htakes
  | unmarked hmarks => exact .unmarked hmarks
  | @returned c n a g d₁ d₂ _ hmarks hrun hends =>
    refine .ran hmarks hrun hends nofun fun b hb => ?_
    cases hb
    rfl
  | @failed c n f g d₁ d₂ _ hmarks hrun hf hends =>
    refine .ran hmarks hrun hends (fun f' hf' => ?_) nofun
    cases hf'
    rw [hends.session_eq]
    exact ⟨rfl, rfl, fun hspares => hmarks.active_of_spares hd hbody hspares hrun⟩
  | stranded hmarks hrun hf =>
    have hsettled := (Work.walk_regular hbody (hmarks.orderly_began hd) hrun).1
    exact absurd (settles_error.1 hsettled) hf

/-- A call of a savepoint comes to an end. -/
theorem exists_savepointCall {body : Work υ α} (hbody : body.Sayable) (hd : d.Orderly) :
    ∃ r d', (onceOpened ref ((w.session ref).savepoint (inBody ref (body.play w)))).run w.serve d
        = (r, d') ∧ SavepointCall w ref body d r d' := by
  by_cases ho : ref < d.opened
  · obtain ⟨r, d', hrun, -, hsaves⟩ := w.run_savepoint ref d (hd ref).sound (body.play w)
    exact ⟨r, d', (run_onceOpened_of_lt ho _).trans hrun, hsaves.call hd hbody⟩
  · exact ⟨_, d, run_onceOpened_of_not_lt ho _, .unopened ho⟩

/-- A program that goes by steps leaves a desk that hangs together. -/
theorem Walks.orderly_of_run {p : Program Calls (Desk υ) α} (h : Walks w Label.Regular 0 p)
    (hd : d.Orderly) (hrun : p.run w.serve d = (r, d')) : Settles r ∧ d'.Orderly := by
  obtain ⟨r', d'', hrun', hr, hwalk⟩ := h d hd (Nat.zero_le _)
  rw [hrun] at hrun'
  cases hrun'
  exact ⟨settles_of_regular hr, hwalk.orderly hd⟩

end

/-- What every call of a savepoint has on a desk that hangs together, each call of a run has. -/
theorem Work.eachSavepoint {w : Surroundings} {p : SessionRef → Work υ α → Desk υ → Prop}
    (hp : ∀ ref body d, body.Sayable → d.Orderly → p ref body d) {work : Work υ α}
    (h : work.Sayable) {d : Desk υ} (hd : d.Orderly) : work.EachSavepoint w p d := by
  induction work generalizing d with
  | done outcome => trivial
  | act update next ih => exact ih d.own (h _) hd
  | consult question next ih =>
    obtain ⟨r, hr, hserve⟩ := w.serve_consult question d
    rw [EachSavepoint, hserve]
    exact ih r (h r hr) hd
  | openSession next ih => exact ih d.opened (h _) hd
  | look ref next ih => exact ih (d.sessions ref) (h _) hd
  | use ref c text next ih =>
    intro r d' hrun
    obtain ⟨hr, hd'⟩ := (Walks.onceOpened
      (walks_execute ref trivial c (.other text) trivial)).orderly_of_run hd hrun
    exact ih r (h r hr) hd'
  | call ref call next ih =>
    intro r d' hrun
    obtain ⟨hr, hd'⟩ := (Walks.onceOpened (walks_calling ref trivial)).orderly_of_run hd hrun
    exact ih r (h r hr) hd'
  | savepoint ref body next ihbody ih =>
    refine ⟨hp ref body d h.1 hd, fun c n d₁ hmarks => ihbody h.1 (hmarks.orderly_began hd),
      fun r d' hrun => ?_⟩
    obtain ⟨hr, hd'⟩ := (Walks.onceOpened (walks_savepoint ref trivial
      (Work.walks_regular h.1 _))).orderly_of_run hd hrun
    exact ih r (h.2 r hr) hd'

/-- Whatever work does that throws only what can be told, and whatever statements fail, in each
session no name of a savepoint is used twice, and every savepoint that is taken is closed by one
statement after its body, the inner ones first. Every call comes to what `SavepointCall` says. -/
theorem savepoints_nest (w : Surroundings) {work : Work υ α} (h : work.Sayable) (own : υ) :
    (∀ ref, let H := ((work.play w).run w.serve { own := own }).2.eventsOf ref
      ((numbers H).map savepointName).Nodup ∧ Nested H ∧ (closings H).Perm (takings H))
    ∧ work.EachSavepoint w (fun ref body d => ∃ r d',
        (onceOpened ref ((w.session ref).savepoint (inBody ref (body.play w)))).run w.serve d = (r, d')
          ∧ SavepointCall w ref body d r d') { own := own } := by
  have hstart : ({ own := own } : Desk υ).Orderly := fun _ => .start
  refine ⟨fun ref => ?_, Work.eachSavepoint (fun _ _ _ => exists_savepointCall) h hstart⟩
  obtain ⟨block, hevents, hspans⟩ := Work.nests w h hstart ref
  obtain ⟨k, -, hnumbers⟩ := hspans.numbered
  rw [show _ = block from hevents]
  refine ⟨?_, hspans.nested, hspans.nested.closings_perm⟩
  rw [hnumbers]
  exact List.Nodup.map savepointName_injective (List.nodup_range' ..)

/-- Two savepoints, one in the other. The inner body queues a message and fails, which the outer
body catches. -/
def twoSavepoints : Work Unit Unit :=
  .openSession fun ref =>
    .savepoint ref
      (.savepoint ref
        (.call ref (.queueMessage "chat" (some (.str "hello"))) fun _ =>
          .done (.error (.named "Error" "out of stock")))
        fun _ => .done (.ok ()))
      fun r => .done r

/-- Rolling back to the inner savepoint fails too; its body's fault is caught all the same, and the
outer savepoint is released. -/
theorem savepoints_nest_caught :
    let w := Surroundings.failing ⟨.application none .null, "lost"⟩ fun _ request =>
      match request with
      | .execute _ _ (.rollbackTo _) => true
      | _ => false
    let d' := ((twoSavepoints.play w).run w.serve { own := () }).2
    ((numbers (d'.eventsOf 0)).map savepointName).Nodup ∧ Nested (d'.eventsOf 0)
      ∧ takings (d'.eventsOf 0) = [(⟨1⟩, 1), (⟨1⟩, 2)]
      ∧ closings (d'.eventsOf 0) = [(⟨1⟩, 2), (⟨1⟩, 1)]
      ∧ (d'.sessions 0).outbox.entries = [] ∧ (d'.sessions 0).transaction = .active := by
  intro w d'
  have hsayable : twoSavepoints.Sayable :=
    fun ref => ⟨⟨fun _ _ => settles_of_isError rfl, fun _ _ => settles_ok ()⟩, fun _ hr => hr⟩
  obtain ⟨hnames, hnested, -⟩ := (savepoints_nest w hsayable ()).1 0
  exact ⟨hnames, hnested, by decide +kernel, by decide +kernel, by decide +kernel, by decide +kernel⟩

/-- A body that throws what log entries cannot tell: the call does not fail with what was thrown,
the savepoint is not closed, and the message waits on. -/
theorem unclosed_without_text :
    let e : Fault := .value (some (.obj [("toString", .ofNat 1)]))
    let work : Work Unit Unit := .openSession fun ref =>
      .savepoint ref
        (.call ref (.queueMessage "chat" (some (.str "hello"))) fun _ => .done (.error e))
        fun r => .done r
    let x := (work.play .calm).run Surroundings.calm.serve { own := () }
    x.1 = .error .noPlainText ∧ e ≠ .noPlainText
      ∧ takings (x.2.eventsOf 0) = [(⟨1⟩, 1)] ∧ closings (x.2.eventsOf 0) = []
      ∧ (x.2.sessions 0).outbox.entries = [⟨"chat", "hello"⟩] := by
  intro e work x
  exact ⟨rfl, nofun, by decide +kernel, by decide +kernel, by decide +kernel⟩

end UnitOfWork.Trial
