import UnitOfWork.Mail.Mailer

/-!
# Complete mail settings

Settings are complete if each of the five holds a genuine text. `MailSettings.problems` finds out
whether they are, and its text names what is missing, each setting once and in order
(`tells_of_problems_eq`). Complete settings make an account, and where settings make none there are
problems to tell.
-/

namespace UnitOfWork

namespace Setting

/-- A text that is neither empty nor the placeholder. -/
structure Genuine (t : Text) : Prop where
  ne_nil : t ≠ []
  ne_placeholder : t ≠ placeholder

/-- A setting that holds a genuine text. -/
def Known (s : Setting) : Prop :=
  ∃ t, s = text t ∧ Genuine t

/-- A setting is not empty if it is such a text. -/
theorem nonempty?_eq_some_iff {s : Setting} {t : Text} :
    s.nonempty? = some t ↔ s = text t ∧ t ≠ [] := by
  cases s with
  | absent => exact ⟨nofun, nofun⟩
  | null => exact ⟨nofun, nofun⟩
  | text u =>
    rw [nonempty?, text?, Option.filter_eq_some_iff, Option.some.injEq, text.injEq]
    refine and_congr_right fun _ => ?_
    simp

/-- Whether a setting can be used is computed as it is defined. -/
theorem usable_iff {s : Setting} : s.usable = true ↔ s.Known := by
  unfold usable
  cases hnonempty : s.nonempty? with
  | none =>
    refine ⟨nofun, ?_⟩
    rintro ⟨t, rfl, ht⟩
    rw [nonempty?_eq_some_iff.2 ⟨rfl, ht.ne_nil⟩] at hnonempty
    cases hnonempty
  | some t =>
    obtain ⟨rfl, hne⟩ := nonempty?_eq_some_iff.1 hnonempty
    rw [decide_eq_true_eq]
    constructor
    · exact fun hplaceholder => ⟨t, rfl, hne, hplaceholder⟩
    · rintro ⟨_, ⟨⟩, ht⟩
      exact ht.ne_placeholder

end Setting

namespace MailSettings

/-- Settings of which none is missing. -/
structure Complete (s : MailSettings) : Prop where
  smtpHost : s.smtpHost.Known
  smtpUsername : s.smtpUsername.Known
  smtpPassword : s.smtpPassword.Known
  contactEmailOnError : s.contactEmailOnError.Known
  platformEmailAddress : s.platformEmailAddress.Known

/-- The name that operators know a missing setting by. -/
inductive Lacks (s : MailSettings) (name : Text) : Prop where
  | smtpHost (hname : name = "SMTP_HOST") (h : ¬ s.smtpHost.Known)
  | smtpUsername (hname : name = "SMTP_USERNAME") (h : ¬ s.smtpUsername.Known)
  | smtpPassword (hname : name = "SMTP_PASSWORD") (h : ¬ s.smtpPassword.Known)
  | contactEmailOnError (hname : name = "CONTACT_EMAIL_ON_ERROR") (h : ¬ s.contactEmailOnError.Known)
  | platformEmailAddress (hname : name = "PLATFORM_EMAIL_ADDRESS") (h : ¬ s.platformEmailAddress.Known)

/-- A text that lists the names of the missing settings, each once, in the order of texts. -/
def Tells (s : MailSettings) (message : Text) : Prop :=
  ∃ names, message = "Missing or invalid config values: " ++ Text.join ", " names
    ∧ (∀ name, name ∈ names ↔ s.Lacks name)
    ∧ names.Pairwise fun a b => Text.le a b = true ∧ a ≠ b

/-- Settings that an account is made of. -/
structure Describes (s : MailSettings) (account : MailAccount) : Prop where
  host : s.smtpHost = .text account.host
  username : s.smtpUsername = .text account.username
  password : s.smtpPassword = .text account.password

variable {s : MailSettings}

/-- The settings that cannot be used are those that are lacking, by their names. -/
theorem mem_unusable_iff {name : Text} : name ∈ s.unusable ↔ s.Lacks name := by
  simp only [unusable, byName, List.mem_map, List.mem_filter, Bool.not_eq_true', Prod.exists,
    exists_and_right, exists_eq_right, List.mem_cons, List.not_mem_nil, or_false, Prod.mk.injEq,
    ← Bool.not_eq_true, Setting.usable_iff]
  constructor
  · rintro ⟨_, ⟨rfl, rfl⟩ | ⟨rfl, rfl⟩ | ⟨rfl, rfl⟩ | ⟨rfl, rfl⟩ | ⟨rfl, rfl⟩, h⟩
    · exact .contactEmailOnError rfl h
    · exact .platformEmailAddress rfl h
    · exact .smtpHost rfl h
    · exact .smtpPassword rfl h
    · exact .smtpUsername rfl h
  · rintro (⟨rfl, h⟩ | ⟨rfl, h⟩ | ⟨rfl, h⟩ | ⟨rfl, h⟩ | ⟨rfl, h⟩)
    all_goals exact ⟨_, by simp, h⟩

/-- The names stand in the order of texts, and no two of them are the same. -/
theorem unusable_ordered (s : MailSettings) :
    s.unusable.Pairwise fun a b => Text.le a b = true ∧ a ≠ b := by
  have hnames : (s.byName.map (·.1)).Pairwise fun a b => Text.le a b = true ∧ a ≠ b := by
    show List.Pairwise _ ([Text.ofString "CONTACT_EMAIL_ON_ERROR",
      Text.ofString "PLATFORM_EMAIL_ADDRESS", Text.ofString "SMTP_HOST",
      Text.ofString "SMTP_PASSWORD", Text.ofString "SMTP_USERNAME"] : List Text)
    decide +kernel
  exact hnames.sublist ((List.filter_sublist).map _)

/-- Settings are complete if they lack nothing. -/
theorem complete_iff : s.Complete ↔ ∀ name, ¬ s.Lacks name := by
  constructor
  · rintro h name (⟨-, hlacks⟩ | ⟨-, hlacks⟩ | ⟨-, hlacks⟩ | ⟨-, hlacks⟩ | ⟨-, hlacks⟩)
    · exact hlacks h.smtpHost
    · exact hlacks h.smtpUsername
    · exact hlacks h.smtpPassword
    · exact hlacks h.contactEmailOnError
    · exact hlacks h.platformEmailAddress
  · intro h
    exact
      { smtpHost := Classical.byContradiction fun hlacks => h _ (.smtpHost rfl hlacks)
        smtpUsername := Classical.byContradiction fun hlacks => h _ (.smtpUsername rfl hlacks)
        smtpPassword := Classical.byContradiction fun hlacks => h _ (.smtpPassword rfl hlacks)
        contactEmailOnError :=
          Classical.byContradiction fun hlacks => h _ (.contactEmailOnError rfl hlacks)
        platformEmailAddress :=
          Classical.byContradiction fun hlacks => h _ (.platformEmailAddress rfl hlacks) }

/-- Complete settings have no problems. -/
theorem problems_eq_none_iff : s.problems = none ↔ s.Complete := by
  rw [complete_iff, problems]
  simp only [← mem_unusable_iff]
  cases s.unusable with
  | nil => exact ⟨fun _ _ => List.not_mem_nil, fun _ => rfl⟩
  | cons name names => exact ⟨nofun, fun h => absurd List.mem_cons_self (h name)⟩

/-- A message of problems tells what is lacking. -/
theorem tells_of_problems_eq {message : Text} (h : s.problems = some message) : s.Tells message := by
  refine ⟨s.unusable, ?_, fun name => mem_unusable_iff, s.unusable_ordered⟩
  rw [problems] at h
  split at h
  · cases h
  · exact (Option.some.inj h).symm

/-- Complete settings describe an account. -/
theorem Complete.exists_account (h : s.Complete) :
    ∃ account, MailAccount.ofSettings s = .ok account ∧ s.Describes account := by
  obtain ⟨host, hhost, hne⟩ := h.smtpHost
  obtain ⟨username, husername, hne'⟩ := h.smtpUsername
  obtain ⟨password, hpassword, hne''⟩ := h.smtpPassword
  refine ⟨⟨host, username, password⟩, ?_, hhost, husername, hpassword⟩
  rw [MailAccount.ofSettings, Setting.nonempty?_eq_some_iff.2 ⟨hhost, hne.ne_nil⟩,
    Setting.nonempty?_eq_some_iff.2 ⟨husername, hne'.ne_nil⟩,
    Setting.nonempty?_eq_some_iff.2 ⟨hpassword, hne''.ne_nil⟩]

/-- Where settings make no account there are problems, and the fault tells them. -/
theorem problems_of_ofSettings_eq {f : Fault} (h : MailAccount.ofSettings s = .error f) :
    ∃ problems, s.problems = some problems ∧ f = .of .invalidEmailConfig problems := by
  cases hproblems : s.problems with
  | none =>
    obtain ⟨account, haccount, -⟩ := (problems_eq_none_iff.1 hproblems).exists_account
    rw [haccount] at h
    cases h
  | some problems =>
    refine ⟨problems, rfl, ?_⟩
    unfold MailAccount.ofSettings at h
    split at h
    · cases h
    · rw [hproblems] at h
      exact (Except.error.inj h).symm

/-- Settings with which mail can be sent. -/
def live : MailSettings :=
  ⟨.text "smtp.example.org", .text "mailer", .text "test-secret", .text "owner@example.org",
    .text "platform@example.org"⟩

end MailSettings

end UnitOfWork
