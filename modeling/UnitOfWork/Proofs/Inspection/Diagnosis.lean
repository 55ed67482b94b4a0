import UnitOfWork.Proofs.Inspection.Bench
import UnitOfWork.Proofs.Inspection.Roles

/-!
# The diagnosis of the health check

A probe that fails is told as one error, with what it failed with as the cause. The connection is
closed after that, and a fault of closing it replaces the diagnosis: `diagnosis_kept_iff` says that
this is the only way to lose it, and that the connection is closed once and the operator told what
to do exactly if the failure points at a missing role, whichever way the check ends.
-/

namespace UnitOfWork.Inspection

open Database (probeOptions missingRoleHint)

/-- The error that a failed probe is told as: the store cannot be reached, with what the probe said
in the message and what it failed with as the cause. -/
def diagnosis (said : Text) (f : Fault) : Fault :=
  .caused ⟨.connectionFailed, "Could not connect to the database: " ++ said⟩ f

/-- The store that a health check is for: the one at a URL, or the configured one. -/
inductive Bench.Finds (b : Bench) : Option Text → Text → Prop where
  | given (url : Text) : Finds b (some url) url
  | configured {c : Config} (h : b.platform.config.1 = .ok c) : Finds b none c.databaseUrl

variable (w : Surroundings)

/-- What the operator is told of a failed probe. -/
def hints (f : Fault) : List Request :=
  if f.isMissingRole then [.tell missingRoleHint] else []

/-- The operator is told what to do exactly if a failure points at a missing role. -/
theorem hints_cases (f : Fault) :
    hints f = [.tell missingRoleHint] ∧ f.PointsAtRole ∨ hints f = [] ∧ ¬ f.PointsAtRole := by
  rw [hints, ← Fault.isMissingRole_iff]
  cases f.isMissingRole with
  | true => exact .inl ⟨rfl, rfl⟩
  | false => exact .inr ⟨rfl, Bool.false_ne_true⟩

/-- A failed probe is reported with its diagnosis. -/
theorem run_reportProbe {e : Fault} (he : e.isError = true) (b : Bench) :
    ∃ said b', e.message = .ok said
      ∧ (w.database.reportProbe tell e).run w.serve b = (.error (diagnosis said e), b')
      ∧ b'.asked = b.asked ++ hints e := by
  obtain ⟨said, hsaid⟩ := (Fault.sayable_of_isError he).message
  obtain ⟨log, hlog⟩ := w.journal.exists_run_writeFault w.serve (w.dated b.asked)
    (Fault.sayable_of_isError he) .error "Database connection check failed" []
  have hfail : ∀ b : Bench, (do
      let message ← Program.ofExcept e.message
      (.fail (.connectionFailed ("Could not connect to the database: " ++ message) e) :
        Program Requests Bench Unit)).run w.serve b = (.error (diagnosis said e), b) := fun b => by
    rw [Program.run_bind, Program.run_ofExcept, hsaid]
    rfl
  cases hrole : e.isMissingRole with
  | true =>
    refine ⟨said, (Bench.logCell.set log b).note (.tell missingRoleHint), hsaid, ?_, ?_⟩
    · refine (Program.run_bind_of_ok hlog _).trans ?_
      rw [hrole]
      exact hfail _
    · rw [hints, hrole]
      rfl
  | false =>
    refine ⟨said, Bench.logCell.set log b, hsaid, ?_, ?_⟩
    · refine (Program.run_bind_of_ok hlog _).trans ?_
      rw [hrole]
      exact hfail _
    · rw [hints, hrole]
      exact (List.append_nil _).symm

/-- Finding the store changes what the process holds and no more. -/
theorem run_checkConnection_of_finds {b : Bench} {url : Option Text} {found : Text}
    (h : b.Finds url found) (timeout : Json) :
    ∃ platform, (w.database.checkConnection tell url timeout).run w.serve b
      = (do
          w.database.connect (probeOptions found timeout)
          ((w.database.probe "select 1").rescue (w.database.reportProbe tell)).ensure
            (w.database.finish timeout)).run w.serve { b with platform } := by
  cases h with
  | given url => exact ⟨b.platform, rfl⟩
  | @configured c hconfig =>
    have hload : ((·.databaseUrl) <$> w.database.config).run w.serve b
        = (.ok c.databaseUrl, { b with platform := b.platform.config.2 }) := by
      show (w.database.config >>= fun c => pure c.databaseUrl).run w.serve b = _
      rw [Program.run_bind, w.run_config, hconfig]
      rfl
    exact ⟨b.platform.config.2, Program.run_bind_of_ok hload _⟩

/-- What a check of a store asks for before it ends its connection. -/
def askedFirst (found : Text) (timeout : Json) (hint : List Request) : List Request :=
  [.connect (probeOptions found timeout), .probe "select 1"] ++ hint

section

variable {w} {b : Bench} {url : Option Text} {found : Text} {timeout : Json} {e : Fault}
  (he : e.isError = true) (hfinds : b.Finds url found)
  (hconnect : w.fault? b.asked (.connect (probeOptions found timeout)) = none)
  (hprobe : w.fault? (b.asked ++ [.connect (probeOptions found timeout)]) (.probe "select 1") = some e)

include he hfinds hconnect hprobe

/-- After a failed probe and its report the connection is ended, and a fault of that replaces the
diagnosis. -/
theorem run_checkConnection :
    ∃ said b', e.message = .ok said
      ∧ (w.database.checkConnection tell url timeout).run w.serve b
        = (.error ((w.fault? (b.asked ++ askedFirst found timeout (hints e)) (.finish timeout)).getD
            (diagnosis said e)), b')
      ∧ b'.asked = b.asked ++ askedFirst found timeout (hints e) ++ [.finish timeout] := by
  obtain ⟨platform, hcheck⟩ := run_checkConnection_of_finds w hfinds timeout
  let b₁ : Bench := Bench.note (.connect (probeOptions found timeout)) { b with platform }
  have hconnected : (w.database.connect (probeOptions found timeout)).run w.serve { b with platform }
      = (.ok (), b₁) := by
    show (Fault.toResult (w.fault? b.asked _), _) = _
    rw [hconnect]
    rfl
  have hprobed : (w.database.probe "select 1").run w.serve b₁
    = (.error e, b₁.note (.probe "select 1")) := by
    show (Fault.toResult (w.fault? (b.asked ++ [_]) _), _) = _
    rw [hprobe]
    rfl
  obtain ⟨said, b', hsaid, hreport, hasked⟩ := run_reportProbe w he (b₁.note (.probe "select 1"))
  have hfirst : b'.asked = b.asked ++ askedFirst found timeout (hints e) := by
    rw [hasked, askedFirst, ← List.append_assoc]
    exact congrArg (· ++ hints e) (List.append_assoc _ _ _)
  refine ⟨said, b'.note (.finish timeout), hsaid, ?_, congrArg (· ++ [Request.finish timeout]) hfirst⟩
  have hfinished : (w.database.finish timeout).run w.serve b'
      = (Fault.toResult (w.fault? b'.asked (.finish timeout)), b'.note (.finish timeout)) := rfl
  refine hcheck.trans ((Program.run_bind_of_ok hconnected _).trans ?_)
  rw [Program.run_ensure, Program.run_rescue_of_error hprobed, hreport, hfinished, hfirst]
  cases w.fault? (b.asked ++ askedFirst found timeout (hints e)) (.finish timeout) <;> rfl

/-- After a probe that failed with an error the connection is ended once, and the operator is told
what to do exactly if the error points at a missing role. The diagnosis is kept exactly if ending
the connection does not fail with anything else; what that fails with replaces the diagnosis. -/
theorem diagnosis_kept_iff :
    ∃ said hint outcome b', e.message = .ok said
      ∧ (w.database.checkConnection tell url timeout).run w.serve b = (.error outcome, b')
      ∧ b'.asked = b.asked ++ askedFirst found timeout hint ++ [.finish timeout]
      ∧ (hint = [.tell missingRoleHint] ∧ e.PointsAtRole ∨ hint = [] ∧ ¬ e.PointsAtRole)
      ∧ (outcome = diagnosis said e ↔ ∀ g,
          w.fault? (b.asked ++ askedFirst found timeout hint) (.finish timeout) = some g →
            g = diagnosis said e)
      ∧ (∀ g, w.fault? (b.asked ++ askedFirst found timeout hint) (.finish timeout) = some g →
          outcome = g)
      ∧ ErrorClass.connectionFailed.name = .str "ConnectionFailedError" := by
  obtain ⟨said, b', hsaid, hrun, hasked⟩ := run_checkConnection he hfinds hconnect hprobe
  refine ⟨said, hints e, _, b', hsaid, hrun, hasked, hints_cases e, ?_, ?_, rfl⟩
  · cases w.fault? (b.asked ++ askedFirst found timeout (hints e)) (.finish timeout) with
    | none => exact iff_of_true rfl nofun
    | some g => simp
  · intro g hg
    rw [hg]
    rfl

end

/-- The fault of a role that the store does not know. -/
def unknownRole : Fault :=
  .named "PostgresError" "role \"fieldwork\" does not exist"

/-- Surroundings in which the store does not know the role, and ending a connection fails or not. -/
def strange (ending : Option Fault) : Surroundings :=
  .failing fun _ request =>
    match request with
    | .probe _ => some unknownRole
    | .finish _ => ending
    | _ => none

/-- A missing role is diagnosed, and the operator is told what to do. -/
theorem diagnosed_unknownRole :
    ∃ b', ((strange none).database.checkConnection tell (some "postgresql://h/d") (.ofNat 10)).run
        (strange none).serve {} = (.error (diagnosis "role \"fieldwork\" does not exist" unknownRole), b')
      ∧ b'.asked = askedFirst "postgresql://h/d" (.ofNat 10) [.tell missingRoleHint]
        ++ [.finish (.ofNat 10)] := by
  have hconnect : (strange none).fault? [] (.connect (probeOptions "postgresql://h/d" (.ofNat 10)))
    = none :=
    rfl
  obtain ⟨said, hint, outcome, b', hsaid, hrun, hasked, hhint, hkept, -, -⟩ :=
    diagnosis_kept_iff (w := strange none) (b := {}) rfl (.given "postgresql://h/d") hconnect rfl
  obtain rfl : _ = said := Except.ok.inj hsaid
  obtain rfl := hkept.2 nofun
  have hrole : unknownRole.PointsAtRole := Fault.isMissingRole_iff.1 (by decide +kernel)
  obtain ⟨rfl, -⟩ := hhint.resolve_right fun h => h.2 hrole
  exact ⟨b', hrun, hasked⟩

/-- Where the connection cannot be ended either, the check fails with that, and what was wrong with
the store is lost. -/
theorem diagnosis_lost_at_end :
    ∃ w b', w = strange (some (.named "Error" "socket closed"))
      ∧ (w.database.checkConnection tell (some "postgresql://h/d") (.ofNat 10)).run w.serve {}
        = (.error (.named "Error" "socket closed"), b')
      ∧ ∀ said, Fault.named "Error" "socket closed" ≠ diagnosis said unknownRole := by
  let w := strange (some (.named "Error" "socket closed"))
  have hconnect : w.fault? [] (.connect (probeOptions "postgresql://h/d" (.ofNat 10))) = none := rfl
  obtain ⟨said, b', -, hrun, -⟩ := run_checkConnection (w := w) (b := {}) (e := unknownRole) rfl
    (.given "postgresql://h/d") hconnect rfl
  exact ⟨w, b', rfl, hrun, fun _ => nofun⟩

end UnitOfWork.Inspection
