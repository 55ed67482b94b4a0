import UnitOfWork.Mail.Notifier
import UnitOfWork.Proofs.Mail.Settings
import UnitOfWork.Proofs.Run

/-!
# Which mailer and which notifier are selected

A mailer and a notifier are selected apart, each by tests of its own of the mode and the settings,
and making an account tests three of the settings once more. There are three courses: debugging,
complete settings, and settings with problems (`Selections.course`). `selection_agrees` reads off
them that the tests agree: mail is sent by both or by neither, and an account is only asked of
settings that make one.
-/

namespace UnitOfWork

variable {S : Signature} {σ : Type}

/-! ## Going on after an entry -/

/-- An entry is written, or the moment has no date. -/
theorem Log.write_cases (now : Time) (level : Level) (message : Text) (fields : Json.Members)
    (log : Log) :
    (∃ log', log.write now level message fields = .ok log')
      ∨ now.hasDate = false ∧ log.write now level message fields = .error noDate := by
  cases hdate : now.hasDate with
  | true => exact .inl (exists_write hdate level message fields log)
  | false =>
    unfold write writeAs
    split
    · rw [Time.stamp?, hdate]
      exact .inr ⟨rfl, rfl⟩
    · exact .inl ⟨log, rfl⟩

/-- A result that is given after an entry was written, unless there was no date to write. -/
def AfterEntry {α : Type} (dated : Bool) (a : α) (r : Except Fault α) : Prop :=
  r = .ok a ∨ dated = false ∧ r = .error Log.noDate

namespace AfterEntry

variable {α : Type} {dated : Bool} {a b : α} {r : Except Fault α} {f : Fault}

/-- What succeeds after an entry in the log is what was to be given. -/
theorem eq_of_ok (h : AfterEntry dated a r) (hr : r = .ok b) : b = a := by
  subst hr
  obtain h | ⟨-, h⟩ := h
  · exact Except.ok.inj h
  · cases h

/-- What fails after an entry in the log fails since there is no date. -/
theorem eq_of_error (h : AfterEntry dated a r) (hr : r = .error f) : dated = false ∧ f = Log.noDate := by
  subst hr
  obtain h | ⟨hdated, h⟩ := h
  · cases h
  · exact ⟨hdated, Except.error.inj h⟩

end AfterEntry

/-- What is returned behind an entry in the log is given after an entry. -/
theorem Journal.afterEntry {α : Type} (j : Journal σ) (serve : Server S σ) (level : Level)
    (message : Text) (fields : Json.Members) (a : α) (s : σ) :
    AfterEntry (j.now s).hasDate a
      ((do j.write level message fields; return a : Program S σ α).run serve s).1 := by
  rw [Program.run_bind]
  simp only [write, Program.tryChange, Program.run_act, written]
  rcases Log.write_cases (j.now s) level message fields (j.log.get s) with ⟨log, hlog⟩ | ⟨hdate, hlog⟩
  · rw [hlog]
    exact .inl rfl
  · rw [hlog]
    exact .inr ⟨hdate, rfl⟩

/-! ## Selections -/

/-- What is selected: a mailer, a mailer where settings with problems are refused, and a
notifier. -/
structure Selections where
  mailer : Except Fault Mailer
  strictMailer : Except Fault Mailer
  notifier : Except Fault Notifier

namespace Selections

/-- What is selected for a mode and settings. -/
def of (journal : Journal σ) (serve : Server S σ) (mode : Option Mode) (settings : MailSettings) (s : σ) :
    Selections where
  mailer := ((Mailer.select journal mode settings false : Program S σ Mailer).run serve s).1
  strictMailer := ((Mailer.select journal mode settings true : Program S σ Mailer).run serve s).1
  notifier := ((Notifier.select journal mode settings : Program S σ Notifier).run serve s).1

/-- The courses that selecting takes. Where settings have problems this is told in an entry, which
is only written at a moment that has a date. -/
inductive Course (dated : Bool) (mode : Option Mode) (settings : MailSettings) (x : Selections) : Prop where
  | debugging (hmode : mode = some .debug) (hmailer : x.mailer = .ok .logging)
      (hstrict : x.strictMailer = .ok .logging) (hnotifier : x.notifier = .ok (.logging settings))
  | complete (hmode : mode ≠ some .debug) (hcomplete : settings.Complete) (account : MailAccount)
      (haccount : settings.Describes account) (hmailer : x.mailer = .ok (.smtp account))
      (hstrict : x.strictMailer = .ok (.smtp account))
      (hnotifier : x.notifier
        = .ok { Notifier.logging settings with remembers := false, mailer := .smtp account })
  | problems (hmode : mode ≠ some .debug) (problems : Text) (hproblems : settings.problems = some problems)
      (hmailer : AfterEntry dated .logging x.mailer)
      (hstrict : x.strictMailer = .error (.of .invalidEmailConfig problems))
      (hnotifier : AfterEntry dated (.logging settings) x.notifier)

/-- The selections of a mode and settings take their course. -/
theorem course (journal : Journal σ) (serve : Server S σ) (mode : Option Mode) (settings : MailSettings)
    (s : σ) : (of journal serve mode settings s).Course (journal.now s).hasDate mode settings := by
  by_cases hmode : mode = some .debug
  · subst hmode
    exact .debugging rfl rfl rfl rfl
  · cases hproblems : settings.problems with
    | none =>
      have hcomplete := MailSettings.problems_eq_none_iff.1 hproblems
      obtain ⟨account, hmade, haccount⟩ := hcomplete.exists_account
      refine .complete hmode hcomplete account haccount ?_ ?_ ?_
      all_goals
        simp only [of, Mailer.select, Notifier.select, if_neg hmode, hproblems, hmade]
        rfl
    | some problems =>
      refine .problems hmode problems hproblems ?_ ?_ ?_
      · simp only [of, Mailer.select, if_neg hmode, hproblems]
        exact journal.afterEntry serve .info _ [] Mailer.logging s
      · simp only [of, Mailer.select, if_neg hmode, hproblems]
        rfl
      · simp only [of, Notifier.select, if_neg hmode, hproblems]
        exact journal.afterEntry serve .info _ [] (Notifier.logging settings) s

/-- What is selected for a mode and settings agrees. -/
structure Agree (dated : Bool) (mode : Option Mode) (settings : MailSettings) (x : Selections) : Prop where
  /-- The mailer relays exactly if nobody is debugging and no setting is missing. -/
  smtp_iff : (∃ account, x.mailer = .ok (.smtp account)) ↔ mode ≠ some .debug ∧ settings.Complete
  /-- So does the notifier, which only remembers what it does not send. -/
  email_iff : (∃ n, x.notifier = .ok n ∧ n.remembers = false) ↔ mode ≠ some .debug ∧ settings.Complete
  /-- Both relay for the account that the settings describe. -/
  account : ∀ account, x.mailer = .ok (.smtp account) →
    settings.Describes account ∧ ∃ n, x.notifier = .ok n ∧ n.mailer = .smtp account
  /-- Settings are refused exactly if nobody is debugging and one is missing. -/
  refused_iff : (∃ message, x.strictMailer = .error (.of .invalidEmailConfig message))
    ↔ mode ≠ some .debug ∧ ¬ settings.Complete
  /-- The refusal tells what is missing. It is the validation's, and nothing else can fail. -/
  refusal : ∀ f, x.strictMailer = .error f → ∃ message, f = .of .invalidEmailConfig message
    ∧ settings.problems = some message ∧ settings.Tells message
  /-- Where settings are not refused nothing fails, but for an entry at a moment without a date. -/
  lenient : ∀ f, x.mailer = .error f ∨ x.notifier = .error f → dated = false ∧ f = Log.noDate

/-- Selections that take their course agree. -/
theorem Course.agree {dated : Bool} {mode : Option Mode} {settings : MailSettings} {x : Selections}
    (h : x.Course dated mode settings) : x.Agree dated mode settings := by
  cases h with
  | debugging hmode hmailer hstrict hnotifier =>
    have hnot (P : Prop) : ¬ (mode ≠ some .debug ∧ P) := fun h => h.1 hmode
    exact
      { smtp_iff := iff_of_false (by simp [hmailer]) (hnot _)
        email_iff := iff_of_false (by simp [hnotifier, Notifier.logging]) (hnot _)
        account := by simp [hmailer]
        refused_iff := iff_of_false (by simp [hstrict]) (hnot _)
        refusal := by simp [hstrict]
        lenient := by simp [hmailer, hnotifier] }
  | complete hmode hcomplete account haccount hmailer hstrict hnotifier =>
    exact
      { smtp_iff := iff_of_true ⟨account, hmailer⟩ ⟨hmode, hcomplete⟩
        email_iff := iff_of_true ⟨_, hnotifier, rfl⟩ ⟨hmode, hcomplete⟩
        account := fun a ha => by
          obtain rfl : account = a := by simpa [hmailer] using ha
          exact ⟨haccount, _, hnotifier, rfl⟩
        refused_iff := iff_of_false (by simp [hstrict]) fun h => h.2 hcomplete
        refusal := by simp [hstrict]
        lenient := by simp [hmailer, hnotifier] }
  | problems hmode problems hproblems hmailer hstrict hnotifier =>
    have hincomplete : ¬ settings.Complete := fun h => by
      rw [MailSettings.problems_eq_none_iff.2 h] at hproblems
      cases hproblems
    have hno : ∀ account, x.mailer ≠ .ok (.smtp account) := fun account h => by
      cases hmailer.eq_of_ok h
    exact
      { smtp_iff := iff_of_false (fun ⟨account, h⟩ => hno account h) fun h => hincomplete h.2
        email_iff := by
          refine iff_of_false ?_ fun h => hincomplete h.2
          rintro ⟨n, hn, hremembers⟩
          rw [hnotifier.eq_of_ok hn] at hremembers
          cases hremembers
        account := fun account h => absurd h (hno account)
        refused_iff := iff_of_true ⟨problems, hstrict⟩ ⟨hmode, hincomplete⟩
        refusal := fun f h => by
          rw [hstrict] at h
          cases h
          exact ⟨problems, rfl, hproblems, MailSettings.tells_of_problems_eq hproblems⟩
        lenient := fun f h => h.elim hmailer.eq_of_error hnotifier.eq_of_error }

end Selections

/-- Mailer and notifier are selected by the same rule, whatever the mode and the settings. Settings
without problems make an account, so selecting never runs into the refusal of making one, and where
an account is asked for directly and refused there are problems. -/
theorem selection_agrees (journal : Journal σ) (serve : Server S σ) (mode : Option Mode)
    (settings : MailSettings) (s : σ) :
    (Selections.of journal serve mode settings s).Agree (journal.now s).hasDate mode settings
      ∧ (settings.problems = none → ∃ account, MailAccount.ofSettings settings = .ok account)
      ∧ ∀ f, MailAccount.ofSettings settings = .error f → ∃ problems, settings.problems = some problems
        ∧ f = .of .invalidEmailConfig problems := by
  refine ⟨(Selections.course journal serve mode settings s).agree, fun hproblems => ?_, fun f h => ?_⟩
  · obtain ⟨account, hmade, -⟩ := (MailSettings.problems_eq_none_iff.1 hproblems).exists_account
    exact ⟨account, hmade⟩
  · exact MailSettings.problems_of_ofSettings_eq h

/-- A journal that is a log, at a moment that stands still. -/
def standingJournal : Journal Log :=
  ⟨⟨id, fun log _ => log⟩, fun _ => .finite 0⟩

/-- Settings with a placeholder for the user, and without a password. -/
def unfinished : MailSettings :=
  { MailSettings.live with smtpUsername := .text "???", smtpPassword := .absent }

/-- Unfinished settings are refused, with the names of what is missing, and where they are not
refused nothing is sent. The settings with which mail can be sent make an account. -/
theorem selection_agrees_unfinished :
    ∃ serve : Server ⟨Empty, fun _ => Unit⟩ Log,
      (Selections.of standingJournal serve (some .live) unfinished {}).Agree true (some .live) unfinished
        ∧ unfinished.problems = some "Missing or invalid config values: SMTP_PASSWORD, SMTP_USERNAME"
        ∧ (∃ f problems, MailAccount.ofSettings unfinished = .error f
          ∧ unfinished.problems = some problems ∧ f = .of .invalidEmailConfig problems)
        ∧ MailSettings.live.problems = none
        ∧ ∃ account, MailAccount.ofSettings MailSettings.live = .ok account := by
  let serve : Server ⟨Empty, fun _ => Unit⟩ Log := nofun
  obtain ⟨hagree, -, hrefused⟩ := selection_agrees standingJournal serve (some .live) unfinished {}
  obtain ⟨-, hmade, -⟩ := selection_agrees standingJournal serve (some .live) MailSettings.live {}
  have hproblems : unfinished.problems
      = some "Missing or invalid config values: SMTP_PASSWORD, SMTP_USERNAME" := by decide +kernel
  have hlive : MailSettings.live.problems = none := by decide +kernel
  have hunmade : MailAccount.ofSettings unfinished = .error _ := rfl
  exact ⟨serve, hagree, hproblems, ⟨_, _, hunmade, (hrefused _ hunmade).choose_spec⟩, hlive, hmade hlive⟩

end UnitOfWork
