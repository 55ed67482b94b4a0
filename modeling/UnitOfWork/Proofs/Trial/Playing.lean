import UnitOfWork.Proofs.Trial.Reachable
import UnitOfWork.Proofs.Trial.Savepoints

/-!
# Work goes by steps

`Walks` says of a program that it takes a desk from one state to the next by steps under a rule. It
passes through every way of putting programs together, so `Work.walks` is an induction over the tree
of a work: whatever work does and whatever fails on the way, its run is a walk under the rule that
the work obeys. Work that throws what cannot be told leaves savepoints open, which the rule has to
allow then; of other work every fault can be told.
-/

namespace UnitOfWork.Trial

variable {υ α β : Type}

/-! ## Rules -/

/-- The work takes only steps that a rule allows. -/
def Work.Obeys (rule : Label → Prop) : Work υ α → Prop
  | done _ => True
  | act _ next => ∀ own, (next own).Obeys rule
  | consult _ next => ∀ r, (next r).Obeys rule
  | openSession next => rule .opens ∧ ∀ ref, (next ref).Obeys rule
  | look _ next => ∀ s, (next s).Obeys rule
  | use ref _ _ next => rule (.on ref .savepoint) ∧ ∀ r, (next r).Obeys rule
  | call ref c next => rule (.on ref (.call c)) ∧ ∀ r, (next r).Obeys rule
  | savepoint ref body next =>
    rule (.on ref .savepoint) ∧ body.Obeys rule ∧ ∀ r, (next r).Obeys rule

/-- Work obeys a rule that allows opening sessions, calls, and savepoints. -/
theorem Work.obeys_of {rule : Label → Prop} (hopens : rule .opens)
    (hcall : ∀ ref c, rule (.on ref (.call c))) (hsavepoint : ∀ ref, rule (.on ref .savepoint))
    (work : Work υ α) : work.Obeys rule := by
  induction work with
  | done outcome => trivial
  | act update next ih => exact ih
  | consult question next ih => exact ih
  | openSession next ih => exact ⟨hopens, ih⟩
  | look ref next ih => exact ih
  | use ref c text next ih => exact ⟨hsavepoint ref, ih⟩
  | call ref c next ih => exact ⟨hcall ref c, ih⟩
  | savepoint ref body next ihbody ih => exact ⟨hsavepoint ref, ihbody, ih⟩

/-- Work drives nothing. -/
theorem Work.obeys_regular (work : Work υ α) : work.Obeys Label.Regular :=
  work.obeys_of trivial (fun _ _ => trivial) fun _ => trivial

/-- Work that obeys two rules takes only steps that both allow. -/
theorem Work.Obeys.and {rule rule' : Label → Prop} {work : Work υ α} (h : work.Obeys rule)
    (h' : work.Obeys rule') : work.Obeys fun l => rule l ∧ rule' l := by
  induction work with
  | done outcome => trivial
  | act update next ih => exact fun own => ih own (h own) (h' own)
  | consult question next ih => exact fun r => ih r (h r) (h' r)
  | openSession next ih => exact ⟨⟨h.1, h'.1⟩, fun ref => ih ref (h.2 ref) (h'.2 ref)⟩
  | look ref next ih => exact fun s => ih s (h s) (h' s)
  | use ref c text next ih => exact ⟨⟨h.1, h'.1⟩, fun r => ih r (h.2 r) (h'.2 r)⟩
  | call ref c next ih => exact ⟨⟨h.1, h'.1⟩, fun r => ih r (h.2 r) (h'.2 r)⟩
  | savepoint ref body next ihbody ih =>
    exact ⟨⟨h.1, h'.1⟩, ihbody h.2.1 h'.2.1, fun r => ih r (h.2.2 r) (h'.2.2 r)⟩

/-! ## Programs that go by steps -/

/-- The rule lets savepoints stay open. -/
def MayStrand (rule : Label → Prop) : Prop :=
  ∀ ref, rule (.on ref .strand)

variable (w : Surroundings) (rule : Label → Prop)

/-- The program goes by steps under a rule, from desks on which some number of sessions were opened.
What it fails with can be told, unless the rule lets savepoints stay open. -/
def Walks (opened : Nat) (p : Program Calls (Desk υ) α) : Prop :=
  ∀ d : Desk υ, d.Orderly → opened ≤ d.opened →
    ∃ r d', p.run w.serve d = (r, d') ∧ (MayStrand rule ∨ Settles r) ∧ Walk rule d d'

namespace Walks

variable {w rule} {n : Nat} {p : Program Calls (Desk υ) α}

/-- A program that has ended takes no step. -/
theorem done {r : Except Fault α} (hr : MayStrand rule ∨ Settles r) :
    Walks w rule n (.done r : Program Calls (Desk υ) α) :=
  fun d _ _ => ⟨r, d, rfl, hr, .refl⟩

/-- What follows a program goes by steps wherever the program leaves off. -/
theorem andThen {next : Except Fault α → Program Calls (Desk υ) β} (hp : Walks w rule n p)
    (hnext : ∀ r, MayStrand rule ∨ Settles r → Walks w rule n (next r)) :
    Walks w rule n (p.andThen next) := by
  intro d hd hn
  obtain ⟨r, d₁, hrun, hr, hwalk⟩ := hp d hd hn
  obtain ⟨r', d₂, hrun', hr', hwalk'⟩ :=
    hnext r hr d₁ (hwalk.orderly hd) (Nat.le_trans hn hwalk.opened_le)
  refine ⟨r', d₂, ?_, hr', hwalk.trans hwalk'⟩
  rw [Program.run_andThen, hrun, hrun']

/-- A program that looks at the desk first goes by steps if it does for every look. -/
theorem look {next : Desk υ → Program Calls (Desk υ) α} (h : ∀ d, Walks w rule n (next d)) :
    Walks w rule n (.act id next) :=
  fun d hd hn => h d d hd hn

/-- A program over a session that must have been opened. -/
theorem onceOpened {ref : SessionRef} (hp : Walks w rule (ref + 1) p) :
    Walks w rule n (onceOpened ref p) := by
  intro d hd hn
  by_cases ho : ref < d.opened
  · rw [run_onceOpened_of_lt ho]
    exact hp d hd ho
  · rw [run_onceOpened_of_not_lt ho]
    exact ⟨_, d, rfl, .inr (settles_of_isError rfl), .refl⟩

/-- A program that is one step of a session. -/
theorem of_step {ref : SessionRef} {a : Action} (hrule : rule (.on ref a))
    (h : ∀ d : Desk υ, d.Orderly → ∃ r block s d', p.run w.serve d = (r, d') ∧ Settles r
      ∧ SessionStep (d.sessions ref) a block s ∧ d.Takes ref block s d') :
    Walks w rule (ref + 1) p := by
  intro d hd hn
  obtain ⟨r, block, s, d', hrun, hr, hstep, htakes⟩ := h d hd
  exact ⟨r, d', hrun, .inr hr, .single (.session hrule hn hstep htakes)⟩

end Walks

/-! ## Operations go by steps -/

section

variable {w rule} (ref : SessionRef)

/-- A call walks under a rule that allows it. -/
theorem walks_calling {call : SessionCall} (hrule : rule (.on ref (.call call))) :
    Walks w rule (ref + 1) (w.calling ref call : Program Calls (Desk υ) (Option Connection)) := by
  refine .of_step hrule fun d hd => ?_
  obtain ⟨r, block, s, d', hrun, hr, hdoes, htakes⟩ := w.run_calling ref d call (hd ref).sound
  exact ⟨r, _, s, d', hrun, hr, .called hdoes, htakes⟩

/-- A statement that neither begins nor ends a transaction. -/
theorem walks_execute (hrule : rule (.on ref .savepoint)) (c : Connection) (statement : Statement)
    (hplain : statement.Plain) :
    Walks w rule (ref + 1) ((w.session ref : Session Calls (Desk υ)).execute c statement) := by
  refine .of_step hrule fun d _ => ?_
  obtain ⟨f, d', hrun, hf, htakes⟩ := w.takes_execute ref d c statement
  exact ⟨_, _, _, d', hrun, hf, .executed c hplain f, htakes⟩

/-- A statement that neither begins nor ends a transaction is a step. -/
theorem DeskStep.executes {d d' : Desk υ} {c : Connection} {statement : Statement}
    {f : Option Fault} {s : SessionState} (hrule : rule (.on ref .savepoint)) (ho : ref < d.opened)
    (hplain : statement.Plain) (hs : d.sessions ref = s)
    (htakes : d.Takes ref [.executed c statement f] s d') : DeskStep rule d d' := by
  subst hs
  exact .session hrule ho (.executed c hplain f) htakes

/-- A savepoint is taken in steps. -/
theorem Marks.walk {d d' : Desk υ} {c : Connection} {n : Nat} {f : Option Fault}
    (h : Marks ref d c n f d') (hrule : rule (.on ref .savepoint)) (ho : ref < d.opened) :
    Walk rule d d' := by
  obtain @⟨_, _, s, _, d₁, _, hconn, hobtains, hmarks⟩ := h
  obtain rfl := hobtains.session_eq
  have ho₁ : ref < d₁.opened := hobtains.opened ▸ ho
  refine ((Relation.ReflTransGen.single (.session hrule ho (.connected hconn) hobtains)).tail
    (.session hrule ho₁ .counted (.after d₁ _ d₁.log rfl))).tail ?_
  exact .executes ref hrule ho₁ (by trivial) (Desk.after_sessions ..) (hmarks.of_after _ d₁.log)

/-- A body begins after its savepoint was taken. -/
theorem Marks.walk_began {d d₁ : Desk υ} {c : Connection} {n : Nat} {f : Option Fault}
    (h : Marks ref d c n f d₁) (hrule : rule (.on ref .savepoint)) (ho : ref < d.opened) :
    Walk rule d (d₁.note (.session ref .bodyBegan)) := by
  have hwalk := h.walk ref hrule ho
  exact hwalk.tail (.session hrule (Nat.lt_of_lt_of_le ho hwalk.opened_le) .bodyBegan
    (.note d₁ ref rfl))

/-- A body that goes by steps does so after its savepoint was taken. -/
theorem Marks.walk_body {d d₁ d₂ : Desk υ} {c : Connection} {n : Nat} {f : Option Fault}
    (h : Marks ref d c n f d₁) (hrule : rule (.on ref .savepoint)) (hd : d.Orderly)
    (ho : ref < d.opened) {body : Program Calls (Desk υ) α} (hbody : Walks w rule (ref + 1) body)
    {r : Except Fault α} (hrun : body.run w.serve (d₁.note (.session ref .bodyBegan)) = (r, d₂)) :
    (MayStrand rule ∨ Settles r) ∧ Walk rule d d₂ ∧ ref < d₂.opened := by
  have hbegan := h.walk_began ref hrule ho
  have ho₁ := Nat.lt_of_lt_of_le ho hbegan.opened_le
  obtain ⟨r', d₂', hrun', hr, hwalk⟩ := hbody _ (hbegan.orderly hd) ho₁
  rw [hrun] at hrun'
  cases hrun'
  exact ⟨hr, hbegan.trans hwalk, Nat.lt_of_lt_of_le ho₁ hwalk.opened_le⟩

/-- A savepoint goes by steps if its body does. -/
theorem Saves.walk {d d' : Desk υ} {body : Program Calls (Desk υ) α} {r : Except Fault α}
    (h : Saves w ref body d r d') (hrule : rule (.on ref .savepoint)) (hd : d.Orderly)
    (ho : ref < d.opened) (hbody : Walks w rule (ref + 1) body) : Walk rule d d' := by
  cases h with
  | refused hconn htakes => exact .single (.session hrule ho (.connected hconn) htakes)
  | unmarked hmarks => exact hmarks.walk ref hrule ho
  | @returned c n a f d₁ d₂ _ hmarks hrun hends =>
    obtain ⟨-, hwalk, ho₂⟩ := hmarks.walk_body ref hrule hd ho hbody hrun
    exact (hwalk.tail (.session hrule ho₂ .bodyReturned (.note d₂ ref rfl))).tail
      (.executes ref hrule ho₂ (by trivial) rfl hends)
  | @failed c n f g d₁ d₂ _ hmarks hrun hf hends =>
    obtain ⟨-, hwalk, ho₂⟩ := hmarks.walk_body ref hrule hd ho hbody hrun
    -- the messages go with the body, before the statement is executed
    have hpassed := hends.of_after (d₂.sessions ref).dropMessages d₂.log
    rw [Desk.note_session, Desk.after_connections, Desk.after_after, List.append_nil] at hpassed
    exact (hwalk.tail (.session hrule ho₂ (.bodyFailed f) (.after d₂ _ d₂.log rfl))).tail
      (.executes ref hrule ho₂ (by trivial) (Desk.after_sessions ..) hpassed)
  | @stranded c n f d₁ d₂ hmarks hrun hf =>
    obtain ⟨hr, hwalk, ho₂⟩ := hmarks.walk_body ref hrule hd ho hbody hrun
    have hstrand := hr.resolve_right (mt settles_error.1 hf)
    exact hwalk.tail (.session (hstrand ref) ho₂ (.bodyStranded f) (.note d₂ ref rfl))

/-- A savepoint goes by steps if its body does. What it fails with can be told in any case. -/
theorem walks_savepoint (hrule : rule (.on ref .savepoint)) {body : Program Calls (Desk υ) α}
    (hbody : Walks w rule (ref + 1) body) :
    Walks w rule (ref + 1) ((w.session ref).savepoint (inBody ref body)) := by
  intro d hd ho
  obtain ⟨r, d', hrun, hr, hsaves⟩ := w.run_savepoint ref d (hd ref).sound body
  exact ⟨r, d', hrun, .inr hr, hsaves.walk ref hrule hd ho hbody⟩

end

/-- Whatever work does, it goes by steps under the rule that it obeys. -/
theorem Work.walks {w : Surroundings} {rule : Label → Prop} {work : Work υ α}
    (h : MayStrand rule ∨ work.Sayable) (hrule : work.Obeys rule) (n : Nat) :
    Walks w rule n (work.play w) := by
  -- what comes next throws what can be told, if it gets what can be told
  have hnext : ∀ {β : Type} {p : Except Fault β → Prop} {r : Except Fault β},
      (MayStrand rule ∨ ∀ r, Settles r → p r) → (MayStrand rule ∨ Settles r) → MayStrand rule ∨ p r :=
    fun h hr => h.elim .inl fun h => hr.imp_right (h _)
  induction work generalizing n with
  | done outcome => exact .done h
  | act update next ih =>
    intro d hd hn
    obtain ⟨r, d', hrun, hr, hwalk⟩ :=
      ih d.own (h.imp_right (· _)) (hrule _) n { d with own := update d.own } hd hn
    exact ⟨r, d', hrun, hr, hwalk.head (.kept (update d.own) d.log)⟩
  | consult question next ih =>
    intro d hd hn
    obtain ⟨r, hr, hserve⟩ := w.serve_consult question d
    rw [Work.play, Program.run_ask, hserve]
    obtain ⟨r', d', hrun, hr', hwalk⟩ :=
      ih r (hnext h (.inr hr)) (hrule r) n (d.note (.consulted question)) hd hn
    exact ⟨r', d', hrun, hr', hwalk.head (.consulted question)⟩
  | openSession next ih =>
    intro d hd hn
    obtain ⟨r, d', hrun, hr, hwalk⟩ := ih d.opened (h.imp_right (· _)) (hrule.2 _) n d.openSession.2 hd
      (Nat.le_trans hn (Nat.le_succ _))
    exact ⟨r, d', hrun, hr, hwalk.head (.opens hrule.1)⟩
  | look ref next ih =>
    exact .look fun d => ih (d.sessions ref) (h.imp_right (· _)) (hrule _) n
  | use ref c text next ih =>
    exact (Walks.onceOpened (walks_execute ref hrule.1 c (.other text) trivial)).andThen fun r hr =>
      ih r (hnext h hr) (hrule.2 r) n
  | call ref call next ih =>
    exact (Walks.onceOpened (walks_calling ref hrule.1)).andThen fun r hr =>
      ih r (hnext h hr) (hrule.2 r) n
  | savepoint ref body next ihbody ih =>
    have hbody := ihbody (h.imp_right And.left) hrule.2.1
    exact (Walks.onceOpened (walks_savepoint ref hrule.1 (hbody _))).andThen fun r hr =>
      ih r (hnext (h.imp_right And.right) hr) (hrule.2.2 r) n

/-- Work whose faults can be told goes by steps and leaves no savepoint open. -/
theorem Work.walks_regular {w : Surroundings} {work : Work υ α} (h : work.Sayable) (n : Nat) :
    Walks w Label.Regular n (work.play w) :=
  Work.walks (.inr h) work.obeys_regular n

/-- Where no savepoint stays open, what a program fails with can be told. -/
theorem settles_of_regular {r : Except Fault α} (h : MayStrand Label.Regular ∨ Settles r) :
    Settles r :=
  h.resolve_left fun hstrand => hstrand 0

/-- Work whose faults can be told leaves no savepoint open on its way, whatever else a rule asks of
it. -/
theorem Work.walk_of_run {w : Surroundings} {rule : Label → Prop} {work : Work υ α}
    (h : work.Sayable) (hrule : work.Obeys rule) {d d' : Desk υ} {r : Except Fault α}
    (hd : d.Orderly) (hrun : (work.play w).run w.serve d = (r, d')) :
    Settles r ∧ Walk (fun l => l.Regular ∧ rule l) d d' := by
  obtain ⟨r', d'', hrun', hr, hwalk⟩ :=
    Work.walks (.inr h) (work.obeys_regular.and hrule) 0 d hd (Nat.zero_le _)
  rw [hrun] at hrun'
  cases hrun'
  exact ⟨hr.resolve_left fun hstrand => (hstrand 0).1, hwalk⟩

/-- Work whose faults can be told has run by steps that leave no savepoint open. -/
theorem Work.walk_regular {w : Surroundings} {work : Work υ α} (h : work.Sayable) {d d' : Desk υ}
    {r : Except Fault α} (hd : d.Orderly) (hrun : (work.play w).run w.serve d = (r, d')) :
    Settles r ∧ Walk Label.Regular d d' := by
  obtain ⟨hr, hwalk⟩ := Work.walk_of_run h work.obeys_regular hd hrun
  exact ⟨hr, hwalk.mono fun _ => And.left⟩

/-- A run of work whose faults can be told, from any desk on which all sessions are reachable,
leaves such a desk. -/
theorem Work.wellFormed (w : Surroundings) {work : Work υ α} (h : work.Sayable) {driver : Bool}
    {d : Desk υ} (hd : d.WellFormed driver) :
    ((work.play w).run w.serve d).2.WellFormed driver :=
  hd.regular (Work.walk_regular h hd.orderly rfl).2

/-- Whatever work throws, it leaves a desk that steps lead to. -/
theorem Work.formedBy (w : Surroundings) (work : Work υ α) {d : Desk υ}
    (hd : d.FormedBy fun _ => True) : ((work.play w).run w.serve d).2.FormedBy fun _ => True := by
  have hobeys : work.Obeys fun _ => True := work.obeys_of trivial (fun _ _ => trivial) fun _ => trivial
  obtain ⟨r, d', hrun, -, hwalk⟩ :=
    Work.walks (w := w) (.inl fun _ => trivial) hobeys 0 d hd.orderly (Nat.zero_le _)
  rw [hrun]
  exact hd.walk hwalk fun _ _ _ => trivial

end UnitOfWork.Trial
