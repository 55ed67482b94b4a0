import UnitOfWork.Proofs.Drivers.Desks

/-!
# A scope and a serialized transaction agree

Work runs in a session of its own, a commit follows, and the session is closed: that is what a scope
that commits does, and a serialized transaction does the same unless the work or the commit is a
serialization failure. `Surroundings.drivers_agree` compares whole runs of the two, whatever fails
in them.
-/

namespace UnitOfWork

variable {S : Signature} {σ : Type} {α β : Type}

namespace Registry

/-! ## What the two have in common -/

/-- The work, with its session bound, and the commit that follows it. -/
def workAndCommit (r : Registry S σ) (work : SessionRef → Scoped S σ α) (scope : Scope)
    (ref : SessionRef) :
    Program S σ α := do
  let a ← r.bind ref (work ref) scope
  (r.session ref).commit
  return a

/-- What a scope does after its work and the commit. -/
def concludeScope (s : Session S σ) (outcome : Except Fault α) : Program S σ α :=
  let settled : Program S σ α :=
    match outcome with
    | .ok a =>
      (s.journal.write .debug "DB session auto-committed as requested" s.mark >>= fun _ =>
        pure a).rescue (abandon s)
    | .error f => abandon s f
  settled.ensure do
    s.close
    s.journal.write .debug "Session complete, db session closed" s.mark

/-- What an attempt does after its work and the commit. -/
def concludeSerialized (s : Session S σ) (attempt : Nat) (result : α → β)
    (onConflict : Fault → Program S σ β) (outcome : Except Fault α) : Program S σ β :=
  let settled : Program S σ β :=
    match outcome with
    | .ok a => pure (result a)
    | .error f => concludeAttempt s attempt onConflict f
  settled.ensure s.close

variable (r : Registry S σ) (work : SessionRef → Scoped S σ α) (scope : Scope)

/-- A scope that commits is work, the commit, and what follows from how these ended. -/
theorem runScoped_eq : r.runScoped true work scope
    = r.create >>= fun ref =>
      (r.workAndCommit work scope ref).andThen (concludeScope (r.session ref)) := by
  refine congrArg (r.create >>= ·) (funext fun ref => ?_)
  show (((r.bind ref (work ref) scope).andThen _).andThen _).andThen _
    = ((r.bind ref (work ref) scope).andThen _).andThen _
  simp only [Program.andThen_andThen]
  refine congrArg _ (funext fun outcome => ?_)
  cases outcome with
  | error f => rfl
  | ok a =>
    show ((r.session ref).commit.andThen _).andThen _ = ((r.session ref).commit.andThen _).andThen _
    simp only [Program.andThen_andThen]
    refine congrArg _ (funext fun outcome => ?_)
    cases outcome with
    | error f => rfl
    | ok u => exact (Program.andThen_andThen ..).symm

/-- An attempt at a serialized transaction runs the work and the commit, and then what concludes it,
after the level is set. -/
theorem attemptSerialized_eq (attempt : Nat) (result : α → β)
    (onConflict : Session S σ → Nat → Fault → Program S σ β) :
    r.attemptSerialized work scope attempt result onConflict
      = r.create >>= fun ref =>
          ((r.session ref).setIsolation .serializable).andThen fun set =>
            match set with
            | .ok _ => (r.workAndCommit work scope ref).andThen
                (concludeSerialized (r.session ref) attempt result (onConflict (r.session ref) attempt))
            | .error f =>
              concludeSerialized (r.session ref) attempt result (onConflict (r.session ref) attempt)
                (.error f) := by
  refine congrArg (r.create >>= ·) (funext fun ref => ?_)
  show ((((r.session ref).setIsolation .serializable).andThen _).andThen _).andThen _ = _
  simp only [Program.andThen_andThen]
  refine congrArg _ (funext fun set => ?_)
  cases set with
  | error f => rfl
  | ok u =>
    show ((r.bind ref (work ref) scope).andThen _).andThen _
      = ((r.bind ref (work ref) scope).andThen _).andThen _
    simp only [Program.andThen_andThen]
    refine congrArg _ (funext fun outcome => ?_)
    cases outcome with
    | error f => rfl
    | ok a =>
      show ((r.session ref).commit.andThen _).andThen _ = ((r.session ref).commit.andThen _).andThen _
      simp only [Program.andThen_andThen]
      refine congrArg _ (funext fun outcome => ?_)
      cases outcome <;> rfl

/-! ## After the work and the commit -/

variable {σ' : Type} {L : SessionLink S σ σ'} {s : Session S σ} {s' : Session S σ'}

/-- After outcomes that are alike the two go on alike, unless there is reason for another
attempt. -/
theorem conclude_linked (hs : Session.Linked L s s') (attempt : Nat) (result : α → β)
    (onConflict : Fault → Program S σ' β) {outcome outcome' : Except Fault α}
    (houtcome : L.Outcome Eq outcome outcome')
    (hsayable : ∀ f f', L.fault f f' → f.Sayable)
    (hconflict : ∀ f, outcome' = .error f → f.isSerializationFailure = false) :
    UnitOfWork.Linked L.toLink (fun a b => result a = b) (concludeScope s outcome)
      (concludeSerialized s' attempt result onConflict outcome') := by
  refine UnitOfWork.Linked.andThen (V := fun a b => result a = b) ?_ fun r r' hr => ?_
  · cases houtcome with
    | ok h =>
      subst h
      show UnitOfWork.Linked L.toLink _ ((Program.andThen (s.journal.write ..) _).andThen _) _
      rw [Program.andThen_andThen]
      exact (hs.journal.first .debug _ s.mark).andThenFirst (.pure rfl)
    | error h =>
      refine (hs.journal.first.writeFault (hsayable _ _ h) .error _ s.mark).afterFirst ?_
      refine UnitOfWork.Linked.bind (V := fun _ _ => True) ?_ fun _ _ _ => ?_
      · exact hs.rollback.rescue fun g g' hg => hs.journal.writeFault hg ..
      · rw [if_neg (by simp [hconflict _ rfl])]
        exact .fail h
  · show UnitOfWork.Linked L.toLink _ ((s.close >>= fun _ => _) >>= fun _ => .done r)
      (s'.close >>= fun _ => .done r')
    rw [Program.bind_bind]
    exact hs.close.bind fun _ _ _ => (hs.journal.first _ _ _).afterFirst (.done hr)

end Registry

namespace Trial

variable {υ : Type}

/-- An errand that does the same whatever identifiers its sessions have and at whatever isolation
levels their transactions begin, and that fails with what can be told. -/
def Blind (w w' : Surroundings) (errand : Errand υ α) : Prop :=
  errand.Alike (Surroundings.link (υ := υ) w w') (fun _ _ => True) errand

/-- Outcomes that differ at most in the identifier of a closed session. -/
inductive SettlesAlike (label label' : SessionRef → Text) : Except Fault α → Except Fault α → Prop where
  | ok (a : α) : SettlesAlike label label' (.ok a) (.ok a)
  | error {f f' : Fault} (h : Fault.Alike label label' f f') :
      SettlesAlike label label' (.error f) (.error f')

/-- Outcomes that are alike settle alike, up to the identifiers of sessions. -/
theorem settlesAlike_of_outcome {w w' : Surroundings} {r r' : Except Fault α}
    (h : (Surroundings.link (υ := υ) w w').Outcome Eq r r') : SettlesAlike w.label w'.label r r' := by
  cases h with
  | ok ha =>
    subst ha
    exact .ok _
  | error hf => exact .error hf.1

/-- A registry runs an errand for each session that it creates. -/
def Surroundings.workOf (w : Surroundings) (work : SessionRef → Errand υ α) :
    SessionRef → Scoped Calls (Desk υ) α :=
  fun ref => (work ref).play w.ground

namespace Surroundings

section

variable (w : Surroundings) {d : Desk υ} (hnew : d.sessions d.opened = {})

/-- A scope runs the work and the commit in a session that is opened for it. -/
theorem run_runScoped (work : SessionRef → Scoped Calls (Desk υ) α) (scope : Scope) (d : Desk υ) :
    (w.registry.runScoped true work scope).run w.serve d
      = ((w.registry.workAndCommit work scope d.opened).andThen
          (Registry.concludeScope (w.session d.opened))).run w.serve d.openSession.2 := by
  rw [Registry.runScoped_eq]
  rfl

/-- What an attempt starts from: the session that is opened for it, at its isolation level. -/
def atSerializable (d : Desk υ) : Desk υ :=
  (Desk.sessionCell d.opened).update (fun x => { x with isolation := .serializable }) d.openSession.2

include hnew in
/-- An attempt runs the work and the commit in a session that is opened for it, at its own isolation
level.
-/
theorem run_attemptSerialized (work : SessionRef → Scoped Calls (Desk υ) α) (scope : Scope)
    (attempt : Nat) (result : α → β)
    (onConflict : Session Calls (Desk υ) → Nat → Fault → Program Calls (Desk υ) β) :
    (w.registry.attemptSerialized work scope attempt result onConflict).run w.serve d
      = ((w.registry.workAndCommit work scope d.opened).andThen
          (Registry.concludeSerialized (w.session d.opened) attempt result
            (onConflict (w.session d.opened) attempt))).run w.serve (atSerializable d) := by
  have hopen : (d.openSession.2.sessions d.opened).closed = false := by
    rw [show d.openSession.2.sessions d.opened = {} from hnew]
  have hidle : (d.openSession.2.sessions d.opened).transaction ≠ .active := by
    rw [show d.openSession.2.sessions d.opened = {} from hnew]
    nofun
  have hset : ((w.session d.opened).setIsolation .serializable).run w.serve d.openSession.2
      = (.ok (), (w.session d.opened).state.update (fun x => { x with isolation := .serializable })
          d.openSession.2) := by
    simp [Session.setIsolation, w.run_assertOpen_of_open d.opened d.openSession.2 hopen, hidle]
  rw [Registry.attemptSerialized_eq]
  show (((w.session d.opened).setIsolation .serializable).andThen _).run w.serve d.openSession.2 = _
  rw [Program.run_andThen, hset]
  rfl

end

section

variable {w w' : Surroundings} (h : w.Alike w') {work : SessionRef → Errand υ α}
  (hblind : ∀ ref, Blind w w' (work ref)) (scope : Scope)

include h hblind

/-- The work and the commit are linked. -/
theorem workAndCommit_linked (ref : SessionRef) :
    Linked (link (υ := υ) w w').toLink Eq (w.registry.workAndCommit (w.workOf work) scope ref)
      (w'.registry.workAndCommit (w'.workOf work) scope ref) := by
  have hwork : Linked (link (υ := υ) w w').toLink Eq
      ((work ref).play w.ground (⟨w.registryRef, ref⟩ :: scope))
      ((work ref).play w'.ground (⟨w.registryRef, ref⟩ :: scope)) :=
    (hblind ref).play h.ground_linked fun _ _ _ => trivial
  refine (h.registry_linked.bind hwork).bind fun a a' ha => ?_
  exact (h.session_linked ref).commit.bind fun _ _ _ => .pure ha

/-- The first attempt of a serialized transaction ends as a scope does, if there is no reason for
another attempt. -/
theorem attempt_agrees (attempt : Nat) (result : α → β)
    (onConflict : Session Calls (Desk υ) → Nat → Fault → Program Calls (Desk υ) β) {d : Desk υ}
    (hnew : d.sessions d.opened = {})
    (hconflict : ∀ f, ((w.registry.workAndCommit (w.workOf work) scope d.opened).run w.serve
      d.openSession.2).1 = .error f → f.isSerializationFailure = false) :
    (link (υ := υ) w w').Outcome (fun a b => result a = b)
        ((w.registry.runScoped true (w.workOf work) scope).run w.serve d).1
        ((w'.registry.attemptSerialized (w'.workOf work) scope attempt result onConflict).run w'.serve d).1
      ∧ ((w.registry.runScoped true (w.workOf work) scope).run w.serve d).2.Alike
        ((w'.registry.attemptSerialized (w'.workOf work) scope attempt result onConflict).run w'.serve
          d).2 := by
  rw [run_runScoped, run_attemptSerialized w' hnew, Program.run_andThen, Program.run_andThen]
  obtain ⟨houtcome, hstate⟩ := (workAndCommit_linked h hblind scope d.opened).run h.serves
    (s := d.openSession.2) (Desk.Alike.setIsolation _ d.opened .serializable)
  have hconflict' : ∀ f, ((w'.registry.workAndCommit (w'.workOf work) scope d.opened).run w'.serve
      (atSerializable d)).1 = .error f → f.isSerializationFailure = false := by
    intro f' hf'
    rw [atSerializable] at hf'
    rw [hf'] at houtcome
    generalize hr : ((w.registry.workAndCommit (w.workOf work) scope d.opened).run w.serve
      d.openSession.2).1 = r at houtcome hconflict
    cases houtcome with
    | error hf => exact ((link (υ := υ) w w').conflict_eq _ _ hf).symm.trans (hconflict _ rfl)
  exact (Registry.conclude_linked (h.session_linked d.opened) attempt result _ houtcome
    (fun _ _ hf => hf.2) hconflict').run h.serves hstate

/-- A scope that commits and a serialized transaction agree. In surroundings that treat every
beginning of a transaction alike, whatever its isolation level, and for work that does not look at
identifiers and isolation levels, the two settle alike and have the same calls made in the same
order, wherever calls fail and however many attempts are allowed, as long as neither the work nor
the commit is a serialization failure. Their sessions may have different identifiers. -/
theorem drivers_agree (limit rate : Number) {d : Desk υ} (hnew : d.sessions d.opened = {})
    (hconflict : ∀ f, ((w.registry.workAndCommit (w.workOf work) scope d.opened).run w.serve
      d.openSession.2).1 = .error f → f.isSerializationFailure = false) :
    SettlesAlike w.label w'.label
        ((w.registry.runScoped true (w.workOf work) scope).run w.serve d).1
        ((w'.registry.runSerialized (retry limit rate) (w'.workOf work) scope).run w'.serve d).1
      ∧ List.Forall₂ Event.Alike
        ((w.registry.runScoped true (w.workOf work) scope).run w.serve d).2.history
        ((w'.registry.runSerialized (retry limit rate) (w'.workOf work) scope).run w'.serve
          d).2.history := by
  rw [Registry.runSerialized]
  cases Retry.furtherAttempts (retry (υ := υ) limit rate).maxAttempts with
  | zero =>
    obtain ⟨houtcome, hstate⟩ :=
      attempt_agrees h hblind scope 1 id Registry.giveUp hnew hconflict
    exact ⟨settlesAlike_of_outcome houtcome, hstate.history⟩
  | succ further =>
    obtain ⟨houtcome, hstate⟩ :=
      attempt_agrees h hblind scope 1 some Registry.tryAgain hnew hconflict
    unfold Registry.attemptsFrom
    rw [Program.run_bind]
    rcases hrun : (w'.registry.attemptSerialized (w'.workOf work) scope 1 some Registry.tryAgain).run
      w'.serve d with ⟨r', d'⟩
    rw [hrun] at houtcome hstate
    generalize ((w.registry.runScoped true (w.workOf work) scope).run w.serve d).1 = r at houtcome ⊢
    cases houtcome with
    | ok ha =>
      subst ha
      exact ⟨.ok _, hstate.history⟩
    | error hf => exact ⟨.error hf.1, hstate.history⟩

end

/-- Surroundings in which every commit is refused. -/
def refusing (label : SessionRef → Text) : Surroundings :=
  { failing ⟨.foreign (.str "Error") none none, "commit refused"⟩ fun _ request =>
      match request with
      | .execute _ _ .commit => true
      | _ => false with
    label }

/-- Work that executes one statement. -/
def selecting (ref : SessionRef) : Errand Unit Unit :=
  .call ref (.query "SELECT 1") fun r => .done (r.map fun _ => ())

/-- Where the commit is refused, the two settle with the refusal. -/
theorem drivers_agree_refusing :
    SettlesAlike (fun _ => "first") (fun _ => "second")
      (((refusing fun _ => "first").registry.runScoped true
        ((refusing fun _ => "first").workOf selecting) []).run (refusing fun _ => "first").serve
          { own := () }).1
      (((refusing fun _ => "second").registry.runSerialized (retry (.finite 3) (.finite 0))
        ((refusing fun _ => "second").workOf selecting) []).run (refusing fun _ => "second").serve
          { own := () }).1 := by
  have halike : (refusing fun _ => "first").Alike (refusing fun _ => "second") := by
    refine ⟨fun _ _ _ _ _ hrequest => ?_, fun _ _ _ => rfl, fun _ _ _ _ => rfl, rfl, rfl⟩
    cases hrequest <;> rfl
  have hblind : ∀ ref,
      Blind (refusing fun _ => "first") (refusing fun _ => "second") (selecting ref) := by
    refine fun ref => .call ref _ fun r r' hr => .done ?_
    cases hr with
    | ok _ => exact .ok rfl
    | error hf => exact .error hf
  have hconflict : ∀ f, (((refusing fun _ => "first").registry.workAndCommit
      ((refusing fun _ => "first").workOf selecting) [] 0).run (refusing fun _ => "first").serve
        (Desk.openSession { own := () }).2).1 = .error f → f.isSerializationFailure = false := by
    intro f hf
    cases hf
    rfl
  exact (drivers_agree halike hblind [] (.finite 3) (.finite 0) (d := { own := () }) rfl hconflict).1

end Surroundings

end Trial

end UnitOfWork
