import Mathlib.Algebra.Group.Nat.Defs
import Mathlib.Data.List.Induction
import UnitOfWork.Proofs.Serialized.Retrying

/-!
# Serialized transactions within serialized transactions

Work that runs a serialized transaction may run in one itself. When the inner one gives up, the
fault that says so keeps the conflict for its cause, and the outer one follows causes: it takes the
fault for a conflict of its own and tries again. `nested_retries` says how far this goes: the
attempts of the inner five multiply, and those around them pass the fault on. `ExhaustsInTurn` says
what that fault is: errors that each count the attempts of one transaction, down to the conflict
that they began with.
-/

namespace UnitOfWork

namespace Fault

/-- A fault for which transactions gave up, the innermost first, after numbers of attempts. -/
def exhausted (f : Fault) (attempts : List Nat) : Fault :=
  attempts.foldl (fun cause m => .retriesExhausted m cause) f

/-- A transaction around others takes what they gave up with for the cause of its own error. -/
theorem exhausted_snoc (f : Fault) (attempts : List Nat) (m : Nat) :
    f.exhausted (attempts ++ [m]) = .retriesExhausted m (f.exhausted attempts) :=
  List.foldl_append

variable {f : Fault} (hcode : f.textCode? = some serializationFailureCode)

include hcode

/-- A fault with a code is an error, and so is what transactions make of it that give up. -/
theorem isError_exhausted (attempts : List Nat) : (f.exhausted attempts).isError = true := by
  induction attempts using List.reverseRecOn with
  | nil =>
    cases f with
    | value v => cases hcode
    | error info => rfl
    | caused info cause => rfl
    | selfCaused info => rfl
  | append_singleton attempts m ih => rw [exhausted_snoc]; rfl

/-- A conflict is recognized up to a depth of causes. -/
theorem serializationFailureWithin_exhausted (depth : Nat) (attempts : List Nat) :
    serializationFailureWithin depth (f.exhausted attempts) = decide (attempts.length < depth) := by
  induction attempts using List.reverseRecOn generalizing depth with
  | nil =>
    cases depth with
    | zero => rfl
    | succ depth =>
      rw [exhausted, List.foldl_nil, serializationFailureWithin, hcode, beq_self_eq_true,
        Bool.true_or, List.length_nil, decide_eq_true (Nat.succ_pos depth)]
  | append_singleton attempts m ih =>
    cases depth with
    | zero => rfl
    | succ depth =>
      rw [exhausted_snoc]
      -- the error of giving up has a code of its own
      show serializationFailureWithin depth (f.exhausted attempts) = _
      rw [ih, List.length_append, List.length_singleton]
      exact decide_eq_decide.2 Nat.succ_lt_succ_iff.symm

end Fault

namespace Trial

variable {υ α β : Type}

/-! ## Errors within errors -/

/-- What transactions within each other make of a fault when they give up, the innermost first: each
error counts attempts of its own, and the error of the transaction within is its cause. -/
inductive ExhaustsInTurn (f : Fault) : List Nat → Fault → Prop where
  | nil : ExhaustsInTurn f [] f
  | snoc {attempts : List Nat} {m : Nat} {cause e : Fault} (h : ExhaustsInTurn f attempts cause)
      (he : Exhausts m cause e) : ExhaustsInTurn f (attempts ++ [m]) e

/-- Transactions that give up one around the other tell so in turn. -/
theorem exhaustsInTurn_exhausted (f : Fault) (attempts : List Nat) :
    ExhaustsInTurn f attempts (f.exhausted attempts) := by
  induction attempts using List.reverseRecOn with
  | nil => exact .nil
  | append_singleton attempts m ih =>
    rw [Fault.exhausted_snoc]
    exact .snoc ih (exhausts_retriesExhausted m _)

/-! ## Attempts that fail -/

section

variable (w : Surroundings) (p : SessionRef → Scoped Calls (Desk υ) α) (scope : Scope) (f : Fault)

/-- An attempt that fails with a fault: work runs once, in a new session, which is then rolled back
and closed. -/
inductive Tried (d : Desk υ) : Desk υ → Prop where
  | intro {d₁ d₂ d₃ d₄ : Desk υ} {g : Option Fault}
      (hset : d.openSession.2.Drives d.opened (.setIsolation .serializable) none d₁)
      (hrun : (p d.opened (w.bound scope d.opened)).run w.serve d₁ = (.error f, d₂))
      (hrollback : d₂.Drives d.opened .rollback g d₃)
      (hclose : d₃.Drives d.opened .close none d₄) : Tried d d₄

/-- A number of attempts that fail, one after the other, with a wait between two of them. -/
inductive TriedTimes (rate : Number) : Nat → Desk υ → Desk υ → Prop where
  | last {d d' : Desk υ} (h : Tried w p scope f d d') : TriedTimes rate 1 d d'
  | more {n : Nat} {d d₁ d' : Desk υ} (h : Tried w p scope f d d₁)
      (hrest : TriedTimes rate n (w.rested rate d₁) d') : TriedTimes rate (n + 1) d d'

/-- Work fails with a fault wherever it runs, and each time a number of works are begun in it, and
there are a number of waits. -/
def Throws (works waits : Nat) : Prop :=
  ∀ (ref : SessionRef) (scope : Scope) (d : Desk υ), d.WellFormed true →
    ∃ begun d', (p ref scope).run w.serve d = (.error f, d') ∧ begun.length = works
      ∧ Advances begun waits d d'

end

variable {w : Surroundings} {p : SessionRef → Scoped Calls (Desk υ) α} {f : Fault} {works waits : Nat}

/-- An attempt at work that throws fails, and its fault is concluded. -/
theorem Throws.run_attempt (h : Throws w p f works waits) (scope : Scope) {d : Desk υ}
    (hd : d.WellFormed true) (number : Nat) (result : α → β)
    {onConflict : Session Calls (Desk υ) → Nat → Fault → Program Calls (Desk υ) β}
    {r : Except Fault β}
    (hconflict : ∀ (ref : SessionRef) (d : Desk υ),
      ∃ log, (onConflict (w.session ref) number f).run w.serve d = (r, { d with log := log })) :
    ∃ begun d', (w.registry.attemptSerialized p scope number result onConflict).run w.serve d
        = (concluded result (fun _ => r) (.error f), d')
      ∧ Tried w p scope f d d' ∧ begun.length = works ∧ Advances begun waits d d' := by
  have ho : d.opened < d.openSession.2.opened := Nat.lt_succ_self _
  obtain ⟨d₁, hrun₁, hset⟩ := w.run_setIsolation_of_new d.opened d.openSession.2
    (hd.unopened _ (Nat.le_refl _)).1 .serializable
  obtain ⟨begun, d₂, hrun₂, hlength, hadv₂⟩ :=
    h d.opened (w.bound scope d.opened) d₁ (hd.openSession.drives ho hset)
  obtain ⟨g, d₃, hrun₃, hrollback⟩ := run_concludeAttempt (w := w) (f := f) (k := fun _ => r)
    d.opened number result (hconflict d.opened) d₂
  obtain ⟨d₄, hrun₄, hclose⟩ := w.run_close d.opened d₃
  refine ⟨begun, d₄, ?_, .intro hset hrun₂ hrollback hclose, hlength, ?_⟩
  · have hbind : (w.registry.bind d.opened (p d.opened) scope).run w.serve d₁ = (.error f, d₂) := hrun₂
    have hbody : (((w.session d.opened).setIsolation .serializable).bind fun _ =>
        (w.registry.bind d.opened (p d.opened) scope).bind fun a =>
          (w.session d.opened).commit.bind fun _ => pure (result a)).run w.serve d.openSession.2
        = (.error f, d₂) :=
      (Program.run_bind_of_ok hrun₁ _).trans (Program.run_bind_of_error hbind _)
    have hrun : (w.registry.attemptSerialized p scope number result onConflict).run w.serve d
        = (((((w.session d.opened).setIsolation .serializable).bind fun _ =>
            (w.registry.bind d.opened (p d.opened) scope).bind fun a =>
              (w.session d.opened).commit.bind fun _ => pure (result a)).rescue
            (Registry.concludeAttempt (w.session d.opened) number
              (onConflict (w.session d.opened) number))).ensure (w.session d.opened).close).run
          w.serve d.openSession.2 := rfl
    rw [hrun, Program.run_ensure, Program.run_rescue_of_error hbody, hrun₃, hrun₄]
  · have hopens : DeskStep Label.Closes d d.openSession.2 := .opens trivial
    have hworked := (Advances.of_drives ho hset).trans hadv₂
    have ho₂ := Nat.lt_of_lt_of_le ho hworked.opened
    have hrolledBack := hworked.trans (.of_drives ho₂ hrollback)
    have ho₃ := Nat.lt_of_lt_of_le ho hrolledBack.opened
    simpa using (Advances.of_step hopens).trans (hrolledBack.trans (.of_drives ho₃ hclose))

/-! ## Transactions around work that fails -/

/-- Of work that throws a conflict all attempts are made. -/
theorem Throws.run_attemptsFrom (h : Throws w p f works waits) (hf : f.Sayable)
    (hconflict : f.isSerializationFailure = true) (scope : Scope) (limit rate : Number)
    (further number : Nat) {d : Desk υ} (hd : d.WellFormed true) :
    ∃ begun d', (w.registry.attemptsFrom (Surroundings.retry limit rate) p scope further number).run
        w.serve d = (.error (.retriesExhausted (number + further) f), d')
      ∧ TriedTimes w p scope f rate (further + 1) d d'
      ∧ begun.length = (further + 1) * works ∧ Advances begun ((further + 1) * waits + further) d d' := by
  induction further generalizing number d with
  | zero =>
    obtain ⟨begun, d', hrun, htried, hlength, hadv⟩ := h.run_attempt scope hd number id
      fun ref d => run_giveUp w number f ref d hf
    refine ⟨begun, d', ?_, .last htried, by omega, by simpa using hadv⟩
    rw [Registry.attemptsFrom, hrun, concluded, if_pos hconflict]
    rfl
  | succ further ih =>
    obtain ⟨begun, d₁, hrun, htried, hlength, hadv⟩ := h.run_attempt scope hd number some
      fun ref d => run_tryAgain w number f ref d
    have hrested := hadv.trans (advances_rested w rate d₁)
    obtain ⟨begun', d', hrest, htimes, hlength', hadv'⟩ := ih (number + 1) (hrested.wellFormed hd)
    refine ⟨begun ++ [] ++ begun', d', ?_, .more htried htimes, ?_, ?_⟩
    · rw [Registry.attemptsFrom, Program.run_bind, hrun, concluded, if_pos hconflict]
      rw [Nat.add_right_comm, Nat.add_assoc] at hrest
      exact (run_rest w rate limit d₁ _).trans hrest
    · rw [List.append_nil, List.length_append, hlength, hlength', Nat.add_one_mul (further + 1),
        Nat.add_comm]
    · have hwaits : (further + 1 + 1) * waits + (further + 1)
          = waits + 1 + ((further + 1) * waits + further) := by
        rw [Nat.add_one_mul (further + 1)]
        omega
      rw [hwaits]
      exact hrested.trans hadv'

/-- Of work that throws anything else one attempt is made. -/
theorem Throws.run_attemptsFrom_once (h : Throws w p f works waits)
    (hconflict : f.isSerializationFailure = false) (scope : Scope) (limit rate : Number)
    (further number : Nat) (hf : f.Sayable) {d : Desk υ} (hd : d.WellFormed true) :
    ∃ begun d', (w.registry.attemptsFrom (Surroundings.retry limit rate) p scope further number).run
        w.serve d = (.error f, d')
      ∧ TriedTimes w p scope f rate 1 d d' ∧ begun.length = works ∧ Advances begun waits d d' := by
  have hother : f.isSerializationFailure ≠ true := by simp [hconflict]
  cases further with
  | zero =>
    obtain ⟨begun, d', hrun, htried, hlength, hadv⟩ := h.run_attempt scope hd number id
      fun ref d => run_giveUp w number f ref d hf
    refine ⟨begun, d', ?_, .last htried, hlength, hadv⟩
    rw [Registry.attemptsFrom, hrun, concluded, if_neg hother]
  | succ further =>
    obtain ⟨begun, d', hrun, htried, hlength, hadv⟩ := h.run_attempt scope hd number some
      fun ref d => run_tryAgain w number f ref d
    refine ⟨begun, d', ?_, .last htried, hlength, hadv⟩
    rw [Registry.attemptsFrom, Program.run_bind, hrun, concluded, if_neg hother]

/-- How often work that throws a fault is tried, if at most a number of attempts are made. -/
def triesOf (m : Nat) (f : Fault) : Nat :=
  if f.isSerializationFailure then m else 1

/-- What a transaction makes of a fault that its work throws every time. -/
def givenUp (m : Nat) (f : Fault) : Fault :=
  if f.isSerializationFailure then .retriesExhausted m f else f

/-- A serialized transaction around work that throws throws too. -/
theorem Throws.run_runSerialized (h : Throws w p f works waits) (hf : f.Sayable) {m : Nat} (hm : 1 ≤ m)
    (rate : Number) (scope : Scope) {d : Desk υ} (hd : d.WellFormed true) :
    ∃ begun d', (w.registry.runSerialized (Surroundings.retry (.finite m) rate) p scope).run w.serve d
        = (.error (givenUp m f), d')
      ∧ TriedTimes w p scope f rate (triesOf m f) d d'
      ∧ begun.length = triesOf m f * works
      ∧ Advances begun (triesOf m f * waits + (triesOf m f - 1)) d d' := by
  have hfurther : Retry.furtherAttempts (Surroundings.retry (υ := υ) (.finite m) rate).maxAttempts
      = m - 1 := furtherAttempts_natCast m
  rw [Registry.runSerialized, hfurther]
  cases hconflict : f.isSerializationFailure with
  | true =>
    have htries : triesOf m f = m - 1 + 1 := by rw [triesOf, if_pos hconflict, Nat.sub_add_cancel hm]
    have hgivenUp : givenUp m f = .retriesExhausted (1 + (m - 1)) f := by
      rw [givenUp, if_pos hconflict, Nat.add_sub_cancel' hm]
    rw [htries, hgivenUp, Nat.add_sub_cancel]
    exact h.run_attemptsFrom hf hconflict scope (.finite m) rate (m - 1) 1 hd
  | false =>
    have hother : f.isSerializationFailure ≠ true := by simp [hconflict]
    rw [triesOf, givenUp, if_neg hother, if_neg hother, Nat.one_mul, Nat.one_mul]
    exact h.run_attemptsFrom_once hconflict scope (.finite m) rate (m - 1) 1 hf hd

/-- Work throws what it throws, and begins itself. -/
theorem throws_working {work : SessionRef → Scope → Work υ α}
    (hwork : ∀ ref scope, (work ref scope).Sayable)
    (hthrows : ∀ ref scope (d : Desk υ), d.WellFormed true →
      (((work ref scope).play w).run w.serve d).1 = .error f) :
    Throws w (w.working work) f 1 0 := by
  intro ref scope d hd
  let bound := (w.registry : Registry Calls (Desk υ)).current? scope
  let d₁ := d.note (.workBegan ref bound)
  have hd₁ : d₁.WellFormed true := hd.note fun _ => rfl
  obtain ⟨d₂, hrun⟩ : ∃ d₂, ((work ref scope).play w).run w.serve d₁ = (.error f, d₂) :=
    ⟨_, Prod.ext (hthrows ref scope d₁ hd₁) rfl⟩
  have hwalk := (Work.walk_regular (hwork ref scope) hd₁.orderly hrun).2
  refine ⟨[(ref, bound)], d₂.noteEnd ref (some f), ?_, rfl, ?_⟩
  · show (((work ref scope).play w).andThen _).run w.serve d₁ = _
    rw [Program.run_andThen, hrun]
    rfl
  · have hbegan : Advances [(ref, bound)] 0 d d₁ := .note d (e := .workBegan ref bound) fun _ => rfl
    have hplayed := hbegan.trans (.of_walk (hwalk.mono fun _ => Label.Regular.closes))
    exact hplayed.trans (.note d₂ (e := .workEnded ref _ (some f)) fun _ => rfl)

/-! ## Nests -/

/-- How a transaction is retried: how often it is tried at most, and at what rate waits are
drawn. -/
structure Plan where
  attempts : Nat
  rate : Number

namespace Surroundings

/-- Work in serialized transactions within each other, the innermost first. -/
def nested (w : Surroundings) (work : SessionRef → Scope → Work υ α) (plans : List Plan) :
    SessionRef → Scoped Calls (Desk υ) α :=
  plans.foldl (fun inner plan _ =>
    w.registry.runSerialized (retry (.finite plan.attempts) plan.rate) inner) (w.working work)

/-- The outermost transaction of a nest runs the others. -/
theorem nested_snoc (w : Surroundings) (work : SessionRef → Scope → Work υ α) (plans : List Plan)
    (plan : Plan) (ref : SessionRef) : w.nested work (plans ++ [plan]) ref
      = w.registry.runSerialized (retry (.finite plan.attempts) plan.rate) (w.nested work plans) :=
  congrFun List.foldl_append ref

end Surroundings

/-- The attempts of those transactions in a nest that try again: the inner five, since a conflict is
recognized no deeper than that. -/
def attemptsThatCount (plans : List Plan) : List Nat :=
  (plans.map Plan.attempts).take 5

/-- One more transaction counts if there are less than five within it. -/
theorem attemptsThatCount_snoc (plans : List Plan) (plan : Plan) :
    attemptsThatCount (plans ++ [plan]) = if plans.length < 5
      then attemptsThatCount plans ++ [plan.attempts] else attemptsThatCount plans := by
  rw [attemptsThatCount, List.map_append, List.take_append, List.length_map]
  split
  · rename_i h
    rw [attemptsThatCount, List.take_of_length_le (l := [plan].map Plan.attempts)]
    · rfl
    · show 1 ≤ _
      omega
  · rename_i h
    rw [Nat.sub_eq_zero_of_le (Nat.le_of_not_lt h), List.take_zero, List.append_nil]
    rfl

section

variable (hcode : f.textCode? = some Fault.serializationFailureCode)

include hcode

/-- What comes out of a nest is taken for a conflict if the nest is not too deep. -/
theorem isSerializationFailure_exhausted (plans : List Plan) :
    (f.exhausted (attemptsThatCount plans)).isSerializationFailure
      = decide (plans.length < 5) := by
  have hdepth : Fault.causeDepth = 5 := rfl
  rw [Fault.isSerializationFailure, hdepth, Fault.serializationFailureWithin_exhausted hcode,
    attemptsThatCount, List.length_take, List.length_map]
  exact decide_eq_decide.2 (by omega)

/-- How often a nest is tried in a transaction around it. -/
theorem triesOf_exhausted (plans : List Plan) (m : Nat) :
    triesOf m (f.exhausted (attemptsThatCount plans))
      = if plans.length < 5 then m else 1 := by
  rw [triesOf, isSerializationFailure_exhausted hcode]
  simp only [decide_eq_true_eq]

/-- What a transaction around a nest fails with. -/
theorem givenUp_exhausted (plans : List Plan) (plan : Plan) :
    givenUp plan.attempts (f.exhausted (attemptsThatCount plans))
      = f.exhausted (attemptsThatCount (plans ++ [plan])) := by
  rw [givenUp, isSerializationFailure_exhausted hcode, attemptsThatCount_snoc]
  simp only [decide_eq_true_eq]
  split
  · exact (Fault.exhausted_snoc ..).symm
  · rfl

omit hcode in
/-- How often the work in a nest is begun. -/
theorem prod_attemptsThatCount_snoc (plans : List Plan) (plan : Plan) :
    (attemptsThatCount (plans ++ [plan])).prod
      = (if plans.length < 5 then plan.attempts else 1)
        * (attemptsThatCount plans).prod := by
  rw [attemptsThatCount_snoc]
  split
  · rw [List.prod_append, List.prod_singleton, Nat.mul_comm]
  · rw [Nat.one_mul]

/-- A nest of transactions throws what its work throws, as many of them make of it as recognize the
conflict. -/
theorem throws_nested {work : SessionRef → Scope → Work υ α}
    (hwork : ∀ ref scope, (work ref scope).Sayable)
    (hthrows : ∀ ref scope (d : Desk υ), d.WellFormed true →
      (((work ref scope).play w).run w.serve d).1 = .error f) {plans : List Plan}
    (hplans : ∀ plan ∈ plans, 1 ≤ plan.attempts) :
    1 ≤ (attemptsThatCount plans).prod
      ∧ Throws w (w.nested work plans) (f.exhausted (attemptsThatCount plans))
          (attemptsThatCount plans).prod ((attemptsThatCount plans).prod - 1) := by
  induction plans using List.reverseRecOn with
  | nil => exact ⟨Nat.le_refl 1, throws_working hwork hthrows⟩
  | append_singleton plans plan ih =>
    obtain ⟨hpositive, hinner⟩ := ih fun p hp => hplans p (List.mem_append_left _ hp)
    have hm : 1 ≤ plan.attempts := hplans plan (List.mem_append_right _ (List.mem_singleton_self plan))
    have htries : 1 ≤ triesOf plan.attempts (f.exhausted (attemptsThatCount plans)) := by
      rw [triesOf_exhausted hcode]
      split
      · exact hm
      · exact Nat.le_refl 1
    have hprod := prod_attemptsThatCount_snoc plans plan
    rw [← triesOf_exhausted hcode] at hprod
    refine ⟨hprod ▸ Nat.mul_pos htries hpositive, fun ref scope d hd => ?_⟩
    obtain ⟨begun, d', hrun, -, hlength, hadv⟩ := hinner.run_runSerialized
      (Fault.sayable_of_isError (Fault.isError_exhausted hcode _)) hm plan.rate scope hd
    refine ⟨begun, d', ?_, hlength.trans hprod.symm, ?_⟩
    · rw [Surroundings.nested_snoc, hrun, givenUp_exhausted hcode]
    · -- each try of the nest waits within itself, and there is a wait between two tries
      have hwaits : (attemptsThatCount (plans ++ [plan])).prod - 1
          = triesOf plan.attempts (f.exhausted (attemptsThatCount plans))
              * ((attemptsThatCount plans).prod - 1)
            + (triesOf plan.attempts (f.exhausted (attemptsThatCount plans)) - 1) := by
        rw [hprod, Nat.mul_sub_one]
        have := Nat.le_mul_of_pos_right
          (triesOf plan.attempts (f.exhausted (attemptsThatCount plans))) hpositive
        omega
      rw [hwaits]
      exact hadv

end

/-- Work that always throws an error with the code of a serialization failure, in a nest of
serialized transactions, is begun as often as the product of the attempts of the inner five says,
with a wait before each time but the first. The nest fails with the error that the outermost of
these five makes of it, and its causes are those of the others, down to what the work threw. Each
transaction in the nest makes all its attempts if it is one of the five, and a single one if not. -/
theorem nested_retries (w : Surroundings) {work : SessionRef → Scope → Work υ α}
    (hwork : ∀ ref scope, (work ref scope).Sayable) {f : Fault}
    (hcode : f.textCode? = some "40001")
    (hthrows : ∀ ref scope (d : Desk υ), d.WellFormed true →
      (((work ref scope).play w).run w.serve d).1 = .error f) {plans : List Plan}
    (hplans : ∀ plan ∈ plans, 1 ≤ plan.attempts) :
    (∀ attempts, ExhaustsInTurn f attempts (f.exhausted attempts))
      ∧ Throws w (w.nested work plans) (f.exhausted (attemptsThatCount plans))
        (attemptsThatCount plans).prod ((attemptsThatCount plans).prod - 1)
      ∧ ∀ inner plan outer, plans = inner ++ plan :: outer →
        ∀ ref scope (d : Desk υ), d.WellFormed true →
          ∃ d', ((w.nested work (inner ++ [plan]) ref scope).run w.serve d).2 = d'
            ∧ TriedTimes w (w.nested work inner) scope (f.exhausted (attemptsThatCount inner)) plan.rate
                (if inner.length < 5 then plan.attempts else 1) d d' := by
  refine ⟨exhaustsInTurn_exhausted f, (throws_nested hcode hwork hthrows hplans).2, ?_⟩
  rintro inner plan outer rfl ref scope d hd
  have hinner : Throws w (w.nested work inner) (f.exhausted (attemptsThatCount inner)) _ _ :=
    (throws_nested hcode hwork hthrows fun p hp => hplans p (List.mem_append_left _ hp)).2
  obtain ⟨begun, d', hrun, htimes, -, -⟩ := hinner.run_runSerialized
    (Fault.sayable_of_isError (Fault.isError_exhausted hcode _))
    (hplans plan (List.mem_append_right _ List.mem_cons_self)) plan.rate scope hd
  rw [triesOf_exhausted hcode] at htimes
  refine ⟨d', ?_, htimes⟩
  rw [Surroundings.nested_snoc, hrun]

/-- Six transactions around a conflict that never goes away. -/
theorem nested_retries_six :
    let conflict : Fault := .error ⟨.foreign (.str "error") (some (.str "40001")) none, "conflict"⟩
    let work : SessionRef → Scope → Work Unit Unit := fun _ _ => .done (.error conflict)
    let plans : List Plan := [⟨2, 1⟩, ⟨1, 1⟩, ⟨3, 2⟩, ⟨1, 1⟩, ⟨2, 1⟩, ⟨4, 1⟩]
    ∃ thrown begun d',
      (Surroundings.calm.nested work plans 0 []).run Surroundings.calm.serve { own := () }
        = (.error thrown, d')
      ∧ ExhaustsInTurn conflict [2, 1, 3, 1, 2] thrown
      ∧ begun.length = 12 ∧ worksBegun d'.history = begun ∧ sleeps d'.history = 11 := by
  intro conflict work plans
  have hwork : ∀ ref scope, (work ref scope).Sayable := fun _ _ => settles_of_isError rfl
  have hplans : ∀ plan ∈ plans, 1 ≤ plan.attempts := by simp [plans]
  obtain ⟨hturn, hthrows, -⟩ := nested_retries .calm hwork (f := conflict) rfl (fun _ _ _ _ => rfl) hplans
  obtain ⟨begun, d', hrun, hlength, hadv⟩ := hthrows 0 [] { own := () } (.start true ())
  exact ⟨_, begun, d', hrun, hturn [2, 1, 3, 1, 2], hlength, hadv.works, hadv.waits⟩

end Trial

end UnitOfWork
