import UnitOfWork.Config

/-!
# What a configuration reads

A configuration is put together from what was read for each setting of an environment, and it is
refused if one of the settings is. `Config.ofMembers_eq_ok_iff` says so, one field of `Config.Reads`
for each setting.
-/

namespace UnitOfWork.Config

/-- What is put together is read if its parts are. -/
theorem bind_eq_ok {ε α β : Type} {x : Except ε α} {f : α → Except ε β} {b : β} :
    (x >>= f) = .ok b ↔ ∃ a, x = .ok a ∧ f a = .ok b := by
  cases x with
  | ok a => exact ⟨fun h => ⟨a, rfl, h⟩, by rintro ⟨_, ⟨⟩, h⟩; exact h⟩
  | error e => exact ⟨nofun, nofun⟩

/-- What reading the settings of an environment gives, one by one. -/
structure Reads (env : Json.Members) (c : Config) : Prop where
  databaseUrl : requiredText "DATABASE_URL" defaultDatabaseUrl (env.get? "DATABASE_URL")
    = .ok c.databaseUrl
  poolSize : number "DB_POOL_MAX" 10 .positive (env.get? "DB_POOL_MAX") = .ok (.ok c.poolSize)
  connectTimeoutSeconds : number "DB_CONNECT_TIMEOUT" 10 .positive (env.get? "DB_CONNECT_TIMEOUT")
    = .ok (.ok c.connectTimeoutSeconds)
  queueTimeoutMs : number "DB_QUEUE_TIMEOUT" 5000 .nonnegative (env.get? "DB_QUEUE_TIMEOUT")
    = .ok (.ok c.queueTimeoutMs)
  mode : choice "MODE" Mode.name Mode.all .debug (env.get? "MODE") = .ok c.mode
  smtpHost : optionalText "SMTP_HOST" (env.get? "SMTP_HOST") = .ok c.smtpHost
  smtpUsername : optionalText "SMTP_USERNAME" (env.get? "SMTP_USERNAME") = .ok c.smtpUsername
  smtpPassword : optionalText "SMTP_PASSWORD" (env.get? "SMTP_PASSWORD") = .ok c.smtpPassword
  contactEmailOnError : optionalText "CONTACT_EMAIL_ON_ERROR" (env.get? "CONTACT_EMAIL_ON_ERROR")
    = .ok c.contactEmailOnError
  platformEmailAddress : optionalText "PLATFORM_EMAIL_ADDRESS" (env.get? "PLATFORM_EMAIL_ADDRESS")
    = .ok c.platformEmailAddress
  logLevel : choice "LOG_LEVEL" Level.name Level.all .info (env.get? "LOG_LEVEL") = .ok c.logLevel

/-- A configuration is what was read for its settings, and none of them was refused. -/
theorem ofMembers_eq_ok_iff {env : Json.Members} {c : Config} : ofMembers env = .ok c ↔ Reads env c := by
  unfold ofMembers
  simp only [bind_eq_ok]
  constructor
  · rintro ⟨pool, hpool, connect, hconnect, queue, hqueue, h⟩
    split at h
    next read hread =>
      cases h
      simp only [bind_eq_ok] at hread
      obtain ⟨url, hurl, _, rfl, _, rfl, _, rfl, mode, hmode, host, hhost, username, husername, password,
        hpassword, contact, hcontact, address, haddress, level, hlevel, hconfig⟩ := hread
      cases hconfig
      exact ⟨hurl, hpool, hconnect, hqueue, hmode, hhost, husername, hpassword, hcontact, haddress,
        hlevel⟩
    next => cases h
  · intro h
    refine ⟨_, h.poolSize, _, h.connectTimeoutSeconds, _, h.queueTimeoutMs, ?_⟩
    rw [h.databaseUrl, h.mode, h.smtpHost, h.smtpUsername, h.smtpPassword, h.contactEmailOnError,
      h.platformEmailAddress, h.logLevel]
    rfl

end UnitOfWork.Config
