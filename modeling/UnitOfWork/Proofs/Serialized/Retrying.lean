import UnitOfWork.Proofs.Serialized.Attempt

/-!
# Serialized transactions are retried as they should be

A `Round` is one attempt that was made. `runSerialized_retries` says that a serialized transaction
is a row of rounds, each in a new session, with a wait between two of them: all but the last ended
in a serialization failure, the last one ended otherwise or was the last that was allowed, and the
whole ends as the last one did, or with the error that counts the rounds (`ComesTo`). Whatever fails
while a round is cleaned up changes nothing of this.
-/

namespace UnitOfWork.Trial

variable {υ α : Type}

/-! ## Works and waits of a history -/

/-- The session in which the work of an attempt begins, with the session that is bound then. -/
def Event.begun? : Event → Option (SessionRef × Option SessionRef)
  | workBegan ref bound => some (ref, bound)
  | _ => none

/-- A wait between two attempts. -/
def Event.sleeps : Event → Bool
  | slept _ => true
  | _ => false

/-- The works that attempts have begun, in order. -/
def worksBegun (history : List Event) : List (SessionRef × Option SessionRef) :=
  history.filterMap Event.begun?

/-- How often there was a wait between two attempts. -/
def sleeps (history : List Event) : Nat :=
  history.countP Event.sleeps

/-- A desk follows another with some works begun, and some waits, in between. -/
structure Advances (works : List (SessionRef × Option SessionRef)) (waits : Nat) (d d' : Desk υ) :
    Prop where
  wellFormed : d.WellFormed true → d'.WellFormed true
  opened : d.opened ≤ d'.opened
  works : worksBegun d'.history = worksBegun d.history ++ works
  waits : sleeps d'.history = sleeps d.history + waits

namespace Advances

variable {works works' : List (SessionRef × Option SessionRef)} {waits waits' : Nat} {d d₁ d₂ : Desk υ}

/-- Works and waits of two parts add up. -/
theorem trans (h : Advances works waits d d₁) (h' : Advances works' waits' d₁ d₂) :
    Advances (works ++ works') (waits + waits') d d₂ where
  wellFormed hd := h'.wellFormed (h.wellFormed hd)
  opened := Nat.le_trans h.opened h'.opened
  works := by rw [h'.works, h.works, List.append_assoc]
  waits := by rw [h'.waits, h.waits, Nat.add_assoc]

/-- A note beside the sessions. -/
theorem note (d : Desk υ) {e : Event} (he : ∀ ref, e.of? ref = none) :
    Advances e.begun?.toList (if e.sleeps then 1 else 0) d (d.note e) where
  wellFormed hd := hd.note he
  opened := Nat.le_refl _
  works := by
    cases h : e.begun? <;> simp [Desk.note, worksBegun, h]
  waits := by simp [Desk.note, sleeps, List.countP_cons]

/-- A step of work or of a driver is neither. -/
theorem of_step (h : DeskStep Label.Closes d d₁) : Advances [] 0 d d₁ := by
  have hadds : d.Adds (fun e => e.begun? = none ∧ e.sleeps = false) d₁ := by
    refine h.adds (fun ref a block s _ _ => ⟨fun e _ => ⟨rfl, rfl⟩, fun e hdel => ?_⟩)
      (fun _ _ => ⟨rfl, rfl⟩) fun _ => ⟨rfl, rfl⟩
    cases e <;> first | exact ⟨rfl, rfl⟩ | cases hdel
  obtain ⟨more, hmore, hall⟩ := hadds
  constructor
  · exact fun hd => hd.step h fun _ _ => Label.Closes.within
  · exact h.opened_le
  · have hnone : worksBegun more = [] := List.filterMap_eq_nil_iff.2 fun e he => (hall e he).1
    rw [hmore, worksBegun, List.filterMap_append]
    exact congrArg _ hnone
  · have hzero : sleeps more = 0 := List.countP_eq_zero.2 fun e he => by simp [(hall e he).2]
    rw [hmore, sleeps, List.countP_append]
    exact congrArg _ hzero

/-- However many steps are taken, no work begins and nothing sleeps. -/
theorem of_walk (h : Walk Label.Closes d d₁) : Advances [] 0 d d₁ := by
  induction h with
  | refl => exact ⟨id, Nat.le_refl _, by simp, by simp⟩
  | tail _ hstep ih => exact ih.trans (of_step hstep)

end Advances

/-- A driver's call is neither. -/
theorem Advances.of_drives {ref : SessionRef} {call : SessionCall} {f : Option Fault}
    {d d' : Desk υ} (ho : ref < d.opened) (h : d.Drives ref call f d') : Advances [] 0 d d' := by
  have hstep : DeskStep Label.Closes d d' := h.step ho trivial
  exact .of_step hstep

/-! ## One attempt -/

section

variable {w : Surroundings} {work : SessionRef → Scope → Work υ α} {scope : Scope} {d d' : Desk υ}

/-- An attempt up to the end of its work begins that work and none else. -/
theorem Ran.advances {r : Except Fault α} (h : Ran w work scope d r d')
    (hwork : ∀ ref scope, (work ref scope).Sayable) (hd : d.WellFormed true) (f : Option Fault) :
    Advances [(d.opened, some d.opened)] 0 d.openSession.2 (d'.noteEnd d.opened f) := by
  obtain ⟨d₁, hset, hwalk⟩ := h.walk hwork (Work.obeys_regular _) hd
  have hset' : Advances [] 0 d.openSession.2 d₁ := .of_drives (Nat.lt_succ_self _) hset
  have hbegan := hset'.trans (.note d₁ (e := .workBegan d.opened (some d.opened)) fun _ => rfl)
  have hplayed := hbegan.trans (.of_walk (hwalk.mono fun _ hl => hl.1.closes))
  exact hplayed.trans (.note d' (e := .workEnded d.opened _ f) fun _ => rfl)

/-- An attempt begins its work, with its session bound, and none else. -/
theorem Worked.advances (hwork : ∀ ref scope, (work ref scope).Sayable) (hd : d.WellFormed true)
    {outcome : Except Fault α} (h : Worked w work scope d outcome d') :
    Advances [(d.opened, some d.opened)] 0 d.openSession.2 d' := by
  cases h with
  | committed hran hcommit =>
    have hadv := hran.advances hwork hd none
    have ho := Nat.lt_of_lt_of_le (Nat.lt_succ_self d.opened) hadv.opened
    exact hadv.trans (.of_drives ho hcommit)
  | notCommitted hran hcommit =>
    have hadv := hran.advances hwork hd none
    have ho := Nat.lt_of_lt_of_le (Nat.lt_succ_self d.opened) hadv.opened
    exact hadv.trans (.of_drives ho hcommit)
  | failed hran => exact hran.advances hwork hd _

/-- After its session is opened, an attempt begins one work, in that session, and there is no
wait. -/
theorem Attempted.advances_opened (hwork : ∀ ref scope, (work ref scope).Sayable)
    (hd : d.WellFormed true) {outcome : Except Fault α} (h : Attempted w work scope d outcome d') :
    Advances [(d.opened, some d.opened)] 0 d.openSession.2 d' := by
  cases h with
  | returned hworked hclose =>
    have hadv := hworked.advances hwork hd
    have ho := Nat.lt_of_lt_of_le (Nat.lt_succ_self d.opened) hadv.opened
    exact hadv.trans (.of_drives ho hclose)
  | failed hworked hrollback hclose =>
    have hadv := hworked.advances hwork hd
    have ho := Nat.lt_of_lt_of_le (Nat.lt_succ_self d.opened) hadv.opened
    have hadv' := hadv.trans (.of_drives ho hrollback)
    have ho' := Nat.lt_of_lt_of_le (Nat.lt_succ_self d.opened) hadv'.opened
    exact hadv'.trans (.of_drives ho' hclose)

/-- An attempt begins one work, in the session that it opens, and there is no wait in it. -/
theorem Attempted.advances (hwork : ∀ ref scope, (work ref scope).Sayable) (hd : d.WellFormed true)
    {outcome : Except Fault α} (h : Attempted w work scope d outcome d') :
    Advances [(d.opened, some d.opened)] 0 d d' := by
  have hopens : DeskStep Label.Closes d d.openSession.2 := .opens trivial
  exact (Advances.of_step hopens).trans (h.advances_opened hwork hd)

/-- The session of an attempt is closed in the end. -/
theorem Attempted.closed {outcome : Except Fault α} (h : Attempted w work scope d outcome d') :
    (d'.sessions d.opened).closed = true := by
  cases h with
  | returned _ hclose => exact hclose.closed
  | failed _ _ hclose => exact hclose.closed

end

/-! ## Rounds -/

/-- An attempt that was made: where it started, how work and then the commit ended, and what it
left. -/
structure Round (υ α : Type) where
  before : Desk υ
  outcome : Except Fault α
  after : Desk υ

namespace Round

/-- The session of a round. -/
def ref (r : Round υ α) : SessionRef :=
  r.before.opened

/-- A round that ended in a serialization failure. -/
def Conflicts (r : Round υ α) : Prop :=
  ∃ f, r.outcome = .error f ∧ f.isSerializationFailure = true

/-- A round that took place, from a desk on which all sessions are reachable. -/
structure Made (w : Surroundings) (work : SessionRef → Scope → Work υ α) (scope : Scope)
    (r : Round υ α) : Prop where
  wellFormed : r.before.WellFormed true
  attempted : Attempted w work scope r.before r.outcome r.after
  outcome_eq : r.outcome = ((w.attempt work scope r.ref).run w.serve r.before.openSession.2).1

/-- How a round is carried out: in a session that no one had before, with the outcome of work and
then the commit, and the session is closed and has released all its connections once in the end. -/
structure Carried (w : Surroundings) (work : SessionRef → Scope → Work υ α) (scope : Scope)
    (r : Round υ α) : Prop where
  unused : r.before.sessions r.ref = {} ∧ r.before.eventsOf r.ref = []
  opened : r.before.opened < r.after.opened
  outcome_eq : r.outcome = ((w.attempt work scope r.ref).run w.serve r.before.openSession.2).1
  closed : (r.after.sessions r.ref).closed = true
  released : ∀ c ∈ taken (r.after.eventsOf r.ref), returned c (r.after.eventsOf r.ref) = 1

variable {w : Surroundings} {work : SessionRef → Scope → Work υ α} {scope : Scope} {r : Round υ α}

/-- A round begins its work once, with its session bound, and does not wait. -/
theorem Made.advances (hwork : ∀ ref scope, (work ref scope).Sayable) (h : r.Made w work scope) :
    Advances [(r.ref, some r.ref)] 0 r.before r.after :=
  h.attempted.advances hwork h.wellFormed

/-- A round that took place was carried out as it should. -/
theorem Made.carried (hwork : ∀ ref scope, (work ref scope).Sayable) (h : r.Made w work scope) :
    r.Carried w work scope where
  unused := h.wellFormed.unopened _ (Nat.le_refl _)
  opened := (h.attempted.advances_opened hwork h.wellFormed).opened
  outcome_eq := h.outcome_eq
  closed := h.attempted.closed
  released _ hc := (((h.advances hwork).wellFormed h.wellFormed).reachable r.ref).returned_of_closed
    h.attempted.closed hc

end Round

/-- What a desk is after a wait that is drawn on it. -/
def Surroundings.rested (w : Surroundings) (rate : Number) (d : Desk υ) : Desk υ :=
  (d.note .drew).note (.slept (Backoff.delayMs rate (w.draw d.history)))

/-- Rounds follow each other, with a wait between two of them. -/
def InTurn (w : Surroundings) (rate : Number) : Desk υ → List (Round υ α) → Prop
  | _, [] => True
  | d, r :: rounds => r.before = d ∧ InTurn w rate (w.rested rate r.after) rounds

/-- What the last of at most `m` rounds comes to. -/
def settled (m : Nat) : Except Fault α → Except Fault α :=
  concluded id fun f => .error (.retriesExhausted m f)

/-- The error of a transaction that gives up after `m` rounds in conflict, the last with `cause`: it
says how many there were, as a member and in its message, and keeps the cause. -/
inductive Exhausts (m : Nat) (cause : Fault) : Fault → Prop where
  | intro (info : ErrorInfo) (hclass : info.errorClass = .retriesExhausted (some (.ofNat m)))
      (hname : info.errorClass.name = .str "SerializationRetriesExhaustedError")
      (hattempts : info.errorClass.attempts? = some (.ofNat m))
      (hmessage : info.message
        = "Could not commit serialized transaction after " ++ Text.ofNat m ++ " attempts.") :
      Exhausts m cause (.caused info cause)

/-- What a transaction of at most `m` rounds comes to, if its last round ended with the first
outcome. -/
inductive ComesTo (m : Nat) : Except Fault α → Except Fault α → Prop where
  | returned (a : α) : ComesTo m (.ok a) (.ok a)
  /-- What is no conflict is passed on as it is. -/
  | thrown {f : Fault} (h : f.isSerializationFailure = false) : ComesTo m (.error f) (.error f)
  | exhausted {f e : Fault} (h : f.isSerializationFailure = true) (he : Exhausts m f e) :
      ComesTo m (.error f) (.error e)

/-- Giving up is told by an error of its own. -/
theorem exhausts_retriesExhausted (m : Nat) (cause : Fault) :
    Exhausts m cause (.retriesExhausted m cause) :=
  .intro _ rfl rfl rfl rfl

/-- What a transaction makes of the last outcome is one of the cases. -/
theorem comesTo_settled (m : Nat) (outcome : Except Fault α) : ComesTo m outcome (settled m outcome) := by
  cases outcome with
  | ok a => exact .returned a
  | error f =>
    cases hconflict : f.isSerializationFailure with
    | true =>
      rw [settled, concluded, if_pos hconflict]
      exact .exhausted hconflict (exhausts_retriesExhausted m f)
    | false =>
      rw [settled, concluded, if_neg (by simp [hconflict])]
      exact .thrown hconflict

/-- The transaction returns what the last round returns. -/
theorem ComesTo.eq_ok {m : Nat} {last : Except Fault α} {a : α} (h : ComesTo m last (.ok a)) :
    last = .ok a := by
  cases h with
  | returned => rfl

/-- A wait between two rounds is one wait, and begins no work. -/
theorem advances_rested (w : Surroundings) (rate : Number) (d : Desk υ) :
    Advances [] 1 d (w.rested rate d) :=
  (Advances.note d (e := .drew) fun _ => rfl).trans
    (.note _ (e := .slept (Backoff.delayMs rate (w.draw d.history))) fun _ => rfl)

section

variable {w : Surroundings} {work : SessionRef → Scope → Work υ α} {scope : Scope} {rate : Number}

/-- Rounds that follow each other each begin one work, and there is a wait between two of them. -/
theorem InTurn.advances (hwork : ∀ ref scope, (work ref scope).Sayable) {rounds : List (Round υ α)}
    {last : Round υ α} {d : Desk υ} (h : InTurn w rate d (rounds ++ [last]))
    (hmade : ∀ r ∈ rounds ++ [last], r.Made w work scope) :
    Advances ((rounds ++ [last]).map fun r => (r.ref, some r.ref)) rounds.length d last.after := by
  induction rounds generalizing d with
  | nil =>
    obtain ⟨rfl, -⟩ := h
    exact (hmade last (by simp)).advances hwork
  | cons r rounds ih =>
    obtain ⟨rfl, h⟩ := h
    have hrest := ih h fun r' hr' => hmade r' (List.mem_cons_of_mem _ hr')
    have hadv := ((hmade r List.mem_cons_self).advances hwork).trans
      ((advances_rested w rate r.after).trans hrest)
    rw [Nat.zero_add, Nat.add_comm 1] at hadv
    exact hadv

/-- What each round adds, and the waits between them, is added before the last round. -/
theorem InTurn.adds {p : Event → Prop} {rate : Number} {rounds : List (Round υ α)}
    {last : Round υ α} (h : InTurn w rate d (rounds ++ [last]))
    (hrounds : ∀ r ∈ rounds, r.before.Adds p r.after) (hdrew : p .drew) (hslept : ∀ ms, p (.slept ms)) :
    d.Adds p last.before := by
  induction rounds generalizing d with
  | nil =>
    obtain ⟨rfl, -⟩ := h
    exact .refl _
  | cons r rounds ih =>
    obtain ⟨rfl, h⟩ := h
    have hrest := ih h fun r' hr' => hrounds r' (List.mem_cons_of_mem _ hr')
    have hrested : r.after.Adds p (w.rested rate r.after) :=
      (Desk.Adds.note _ hdrew).trans (.note _ (hslept _))
    exact ((hrounds r List.mem_cons_self).trans hrested).trans hrest

/-- The rounds that a retried transaction makes when `further` may follow the first: `last` is the
first that is not in conflict, or the last one that may be made. -/
structure Rounds (w : Surroundings) (work : SessionRef → Scope → Work υ α) (scope : Scope)
    (rate : Number) (further : Nat) (d : Desk υ) (rounds : List (Round υ α)) (last : Round υ α) :
    Prop where
  conflicts : ∀ r ∈ rounds, r.Conflicts
  budget : rounds.length ≤ further
  exhausted : last.Conflicts → rounds.length = further
  made : ∀ r ∈ rounds ++ [last], r.Made w work scope
  inTurn : InTurn w rate d (rounds ++ [last])

/-- A single round. -/
theorem Rounds.single {further : Nat} {last : Round υ α} (hlast : last.Made w work scope)
    (h : last.Conflicts → further = 0) : Rounds w work scope rate further last.before [] last where
  conflicts := nofun
  budget := Nat.zero_le _
  exhausted hc := (h hc).symm
  made := by simpa using hlast
  inTurn := ⟨rfl, trivial⟩

/-- A round in conflict, a wait, and what is made after it. -/
theorem Rounds.cons {further : Nat} {r last : Round υ α} {rounds : List (Round υ α)}
    (hr : r.Made w work scope) (hc : r.Conflicts)
    (h : Rounds w work scope rate further (w.rested rate r.after) rounds last) :
    Rounds w work scope rate (further + 1) r.before (r :: rounds) last where
  conflicts := List.forall_mem_cons.2 ⟨hc, h.conflicts⟩
  budget := Nat.succ_le_succ h.budget
  exhausted hlast := congrArg Nat.succ (h.exhausted hlast)
  made := List.forall_mem_cons.2 ⟨hr, h.made⟩
  inTurn := ⟨rfl, h.inTurn⟩

/-! ## The retries -/

variable (w)

/-- Giving up is logged, and the fault tells how many attempts there were. -/
theorem run_giveUp (number : Nat) (f : Fault) (ref : SessionRef) (d : Desk υ) (hf : f.Sayable) :
    ∃ log, (Registry.giveUp (w.session ref) number f : Program Calls (Desk υ) α).run w.serve d
      = (.error (.retriesExhausted number f), { d with log := log }) := by
  obtain ⟨log, hrun⟩ : ∃ log, ((w.session ref).journal.writeFault .error
      "Serialized transaction retries exhausted"
      (Registry.attemptMark (w.session ref : Session Calls (Desk υ)) number) f).run w.serve d
      = (.ok (), { d with log := log }) := ⟨_, w.run_writeFault hf _ _ _ d⟩
  exact ⟨log, by rw [Registry.giveUp, Program.run_bind, hrun]; rfl⟩

/-- That another attempt is due is logged and no more. -/
theorem run_tryAgain (number : Nat) (f : Fault) (ref : SessionRef) (d : Desk υ) :
    ∃ log, (Registry.tryAgain (w.session ref) number f : Program Calls (Desk υ) (Option α)).run
      w.serve d = (.ok none, { d with log := log }) := by
  obtain ⟨log, hrun⟩ : ∃ log, ((w.session ref).journal.write .debug
      "Serialization conflict, retrying transaction"
      (Registry.attemptMark (w.session ref : Session Calls (Desk υ)) number)).run w.serve d
      = (.ok (), { d with log := log }) := ⟨_, w.run_write _ _ _ d⟩
  exact ⟨log, by rw [Registry.tryAgain, Program.run_bind, hrun]; rfl⟩

/-- Between two attempts a wait is drawn and waited for. -/
theorem run_rest (rate limit : Number) (d : Desk υ) (next : Program Calls (Desk υ) α) :
    (do
      let retry : Retry Calls (Desk υ) := Surroundings.retry limit rate
      retry.sleep (Backoff.delayMs retry.rate (← retry.draw))
      next).run w.serve d = next.run w.serve (w.rested rate d) := rfl

variable (work scope rate)

/-- Attempts that are made until one is not in conflict are rounds, and they come to what the last
one comes to. The induction is on how many attempts may follow. -/
theorem run_attemptsFrom (hwork : ∀ ref scope, (work ref scope).Sayable) (limit : Number)
    (further number : Nat) {d : Desk υ} (hd : d.WellFormed true) :
    ∃ rounds last, Rounds w work scope rate further d rounds last
      ∧ (w.registry.attemptsFrom (Surroundings.retry limit rate) (w.working work) scope further number).run
        w.serve d = (settled (number + further) last.outcome, last.after) := by
  induction further generalizing number d with
  | zero =>
    obtain ⟨outcome, d', houtcome, hattempted, hrun⟩ := run_attemptSerialized w work scope hwork hd
      number id (run_giveUp w number)
    have hmade : (⟨d, outcome, d'⟩ : Round υ α).Made w work scope := ⟨hd, hattempted, houtcome⟩
    exact ⟨[], _, .single hmade fun _ => rfl, hrun⟩
  | succ further ih =>
    obtain ⟨outcome, d', houtcome, hattempted, hrun⟩ := run_attemptSerialized w work scope hwork hd
      number some fun f ref d _ => run_tryAgain w number f ref d
    have hmade : (⟨d, outcome, d'⟩ : Round υ α).Made w work scope := ⟨hd, hattempted, houtcome⟩
    rw [Registry.attemptsFrom, Program.run_bind, hrun]
    cases outcome with
    | ok a => exact ⟨[], _, .single hmade (by rintro ⟨f, hf, -⟩; cases hf), rfl⟩
    | error f =>
      cases hconflict : f.isSerializationFailure with
      | false =>
        refine ⟨[], _, .single hmade ?_, ?_⟩
        · rintro ⟨f', hf', hconflict'⟩
          cases hf'
          exact absurd hconflict' (by simp [hconflict])
        · simp [concluded, settled, hconflict]
      | true =>
        have hd' : (w.rested rate d').WellFormed true :=
          (advances_rested w rate d').wellFormed ((hmade.advances hwork).wellFormed hd)
        obtain ⟨rounds, last, hrounds, hrest⟩ := ih (number + 1) hd'
        refine ⟨_, last, .cons hmade ⟨f, rfl, hconflict⟩ hrounds, ?_⟩
        have hnone : concluded some (fun _ => .ok none) (.error f : Except Fault α) = .ok none :=
          if_pos hconflict
        rw [← Nat.add_assoc, Nat.add_right_comm, ← hrest, hnone]
        exact run_rest w rate limit d' _

end

/-- How often `m` attempts let one follow the first. -/
theorem furtherAttempts_natCast (m : Nat) :
    Retry.furtherAttempts (.finite (m : Rat)) = m - 1 := by
  have hceil : (Number.finite (m : Rat)).ceil = (m : Int) := Rat.ceil_intCast m
  have hlimit : Retry.furtherAttempts (.finite (m : Rat)) = ((m : Int) - 1).toNat :=
    congrArg (fun z : Int => (z - 1).toNat) hceil
  rw [hlimit]
  omega

/-- How a serialized transaction of at most `m` attempts goes: in rounds, one after the other, until
one is not in conflict or all are used up. -/
structure Retried (w : Surroundings) (work : SessionRef → Scope → Work υ α) (scope : Scope)
    (rate : Number) (m : Nat) (d : Desk υ) (rounds : List (Round υ α)) (last : Round υ α) : Prop where
  /-- Another round is made only after one in conflict. -/
  conflicts : ∀ r ∈ rounds, r.Conflicts
  budget : rounds.length + 1 ≤ m
  /-- The last round is in conflict only if there may be no other. -/
  exhausted : last.Conflicts → rounds.length + 1 = m
  carried : ∀ r ∈ rounds ++ [last], r.Carried w work scope
  /-- A wait begins where a round has ended, and the next round begins where the wait has. -/
  inTurn : InTurn w rate d (rounds ++ [last])
  /-- Each round begins work once, with its session bound. -/
  works : worksBegun last.after.history
    = worksBegun d.history ++ (rounds ++ [last]).map fun r => (r.ref, some r.ref)
  waits : sleeps last.after.history = sleeps d.history + rounds.length
  wellFormed : last.after.WellFormed true

/-- A serialized transaction is retried as long as it fails to be serialized, at most `m` times in
all, and comes to what the last round comes to: the value or the fault of that, or, if that was in
conflict as well, the error that tells how many rounds there were and keeps the fault for its
cause. -/
theorem runSerialized_retries (w : Surroundings) {work : SessionRef → Scope → Work υ α}
    (hwork : ∀ ref scope, (work ref scope).Sayable) (scope : Scope) (rate : Number) {m : Nat}
    (hm : 1 ≤ m) {d : Desk υ} (hd : d.WellFormed true) :
    ∃ rounds last outcome, Retried w work scope rate m d rounds last ∧ ComesTo m last.outcome outcome
      ∧ (w.registry.runSerialized (Surroundings.retry (.finite m) rate) (w.working work) scope).run
        w.serve d = (outcome, last.after) := by
  obtain ⟨rounds, last, h, hrun⟩ := run_attemptsFrom w work scope rate hwork (.finite m) (m - 1) 1 hd
  have hadv := h.inTurn.advances hwork h.made
  refine ⟨rounds, last, settled m last.outcome, ?_, comesTo_settled m last.outcome, ?_⟩
  · have hbudget := h.budget
    exact {
      conflicts := h.conflicts
      budget := by omega
      exhausted := fun hlast => by rw [h.exhausted hlast]; omega
      carried := fun r hr => (h.made r hr).carried hwork
      inTurn := h.inTurn
      works := hadv.works
      waits := hadv.waits
      wellFormed := hadv.wellFormed hd }
  · rw [Nat.add_sub_cancel' hm] at hrun
    rw [← hrun, ← furtherAttempts_natCast m]
    rfl

/-- Work that asks its session for a connection. -/
def connecting (ref : SessionRef) (_ : Scope) : Work Unit Unit :=
  .call ref .connection fun _ => .done (.ok ())

/-- Surroundings in which the first commit conflicts, and no connection is ever given back. -/
def contested : Surroundings :=
  .failing ⟨.foreign (.str "error") (some (.str "40001")) none, "conflict"⟩ fun history request =>
    match request with
    | .execute _ _ .commit => history.all fun e => !e.sleeps
    | .release _ _ => true
    | _ => false

/-- With two rounds allowed, the second one commits. -/
theorem retried_contested :
    ∃ rounds last, Retried contested connecting [] (.finite 1) 2 { own := () } rounds last
      ∧ rounds.length = 1 ∧ last.outcome = .ok () := by
  have hwork : ∀ ref scope, (connecting ref scope).Sayable := fun _ _ _ _ => settles_ok ()
  obtain ⟨rounds, last, outcome, h, hcomes, hrun⟩ :=
    runSerialized_retries contested hwork [] (.finite 1) (m := 2) (by decide) (.start true ())
  have hafter : _ = last.after := congrArg Prod.snd hrun
  have hwaits : sleeps last.after.history = 1 := by
    rw [← hafter]
    decide +kernel
  have houtcome : outcome = .ok () := (congrArg Prod.fst hrun).symm
  refine ⟨rounds, last, h, ?_, (houtcome ▸ hcomes).eq_ok⟩
  rw [h.waits] at hwaits
  simpa [sleeps] using hwaits

end UnitOfWork.Trial
