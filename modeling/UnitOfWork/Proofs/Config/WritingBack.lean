import UnitOfWork.Proofs.Config.Numbers
import UnitOfWork.Proofs.Json.Members
import UnitOfWork.Proofs.Number.Numerals

/-!
# Configurations written back

A configuration that was loaded can be written back as an environment: its numbers in decimal, its
texts as they are, and what is absent left out. Loading that environment gives the configuration
again (`load_writtenBack`): each setting was read into a form that is read as itself, an optional
text trimmed and not empty (`Reads.trimmed`).
-/

namespace UnitOfWork

/-! ## Numbers in decimal -/

namespace Number

/-- A whole number in decimal. -/
def decimal (x : Number) : Text :=
  Text.ofInt x.truncate

/-- A whole number of at most 53 bits. -/
def IsSafe (x : Number) : Prop :=
  x.isInteger = true ∧ |x.value| ≤ 2 ^ 53 - 1

/-- A natural number is written with its digits. -/
theorem decimal_natCast (n : Nat) : (finite (n : Int)).decimal = Text.ofNat n := by
  have htruncate : (finite (n : Int)).truncate = n := by
    rw [truncate, value_finite, if_neg (by simp), floor, value_finite, Rat.floor_intCast]
  rw [decimal, htruncate]
  rfl

/-- A safe number of at least zero is a natural number of at most 53 bits, and is written as one. -/
theorem IsSafe.exists_natCast {x : Number} (h : x.IsSafe) (hnonneg : Number.le 0 x = true) :
    ∃ n : Nat, n < 2 ^ 53 ∧ x.unsigned = finite n ∧ x.decimal = Text.ofNat n := by
  obtain ⟨n, rfl | ⟨rfl, rfl⟩⟩ := exists_eq_natCast_or_negativeZero h.1 hnonneg
  · have hbound : (n : Rat) ≤ 2 ^ 53 - 1 := by simpa using h.2
    refine ⟨n, ?_, rfl, decimal_natCast n⟩
    rw [le_sub_iff_add_le] at hbound
    exact Nat.lt_of_succ_le (by exact_mod_cast hbound)
  · exact ⟨0, by decide, by rw [Nat.cast_zero]; rfl, decimal_natCast 0⟩

/-- A natural number below 2 ^ 53 is safe. -/
theorem isSafe_ofNat {n : Nat} (h : n < 2 ^ 53) : (ofNat n).IsSafe := by
  have hvalue : ofNat n = finite n := round_natCast h
  refine ⟨?_, ?_⟩
  · rw [hvalue, isInteger, Rat.den_natCast, decide_eq_true rfl]
  · rw [hvalue, value_finite, abs_of_nonneg (Nat.cast_nonneg n), le_sub_iff_add_le]
    exact_mod_cast h

end Number

namespace Config

/-! ## Trimmed texts -/

/-- A text that trimming leaves as it is, and that is not empty. -/
structure Trimmed (t : Text) : Prop where
  ne_nil : t ≠ []
  trim_eq : Text.trim t = t

/-! ## Reading what was written -/

section

variable {setting : Text}

/-- A text that is not empty passes where one is required. -/
theorem requiredText_str {default t : Text} (h : t ≠ []) :
    requiredText setting default (some (.str t)) = .ok t :=
  if_neg (by rwa [List.isEmpty_iff])

/-- A required text is not empty, whether it was given or is the default. -/
theorem requiredText_eq_ok {default t : Text} (hdefault : default ≠ []) {v : Option Json}
    (h : requiredText setting default v = .ok t) : t ≠ [] := by
  unfold requiredText at h
  split at h
  next => cases h; exact hdefault
  next =>
    split at h
    next => cases h
    next hne =>
      cases h
      rwa [List.isEmpty_iff] at hne
  next => cases h

/-- A trimmed text, or none, passes where one may be given. -/
theorem optionalText_map_str {t? : Option Text} (h : ∀ t, t? = some t → Trimmed t) :
    optionalText setting (t?.map .str) = .ok t? := by
  cases t? with
  | none => rfl
  | some t =>
    obtain ⟨hne, htrim⟩ := h t rfl
    simp only [Option.map_some, optionalText, htrim]
    rw [if_neg (by rwa [List.isEmpty_iff])]

/-- An optional text comes out trimmed and not empty, if at all. -/
theorem optionalText_eq_ok {t? : Option Text} {v : Option Json} (h : optionalText setting v = .ok t?) :
    ∀ t, t? = some t → Trimmed t := by
  unfold optionalText at h
  split at h
  next => cases h; exact nofun
  next t =>
    rintro t' rfl
    obtain ⟨hne, htrim⟩ := Option.ite_none_left_eq_some.1 (Except.ok.inj h)
    obtain rfl := Option.some.inj htrim
    refine ⟨?_, Text.trim_trim t⟩
    rwa [List.isEmpty_iff] at hne
  next => cases h

/-- The name of a choice is read as that choice. -/
theorem choice_name {α : Type} {name : α → Text} {all : List α} {default a : α}
    (hnames : (all.map name).Nodup) (ha : a ∈ all) :
    choice setting name all default (some (.str (name a))) = .ok a := by
  cases hfind : all.find? (name · = name a) with
  | none => exact absurd (decide_eq_true rfl) (List.find?_eq_none.1 hfind a ha)
  | some b =>
    have hname := List.find?_some hfind
    have hb := List.mem_of_find?_eq_some hfind
    obtain rfl := List.inj_on_of_nodup_map hnames hb ha (of_decide_eq_true hname)
    simp only [choice, hfind]

/-- A whole number in bounds stays so without the sign of zero. -/
theorem Whole.unsigned {bound : Bound} {x : Number} (h : Whole bound x) : Whole bound x.unsigned := by
  cases x with
  | negativeZero =>
    cases bound with
    | positive => exact absurd h.2 (by decide)
    | nonnegative => exact ⟨rfl, rfl⟩
  | _ => exact h

/-- A whole number in bounds is not negative. -/
theorem Whole.nonneg {bound : Bound} {x : Number} (h : Whole bound x) : Number.le 0 x = true := by
  cases bound with
  | positive =>
    obtain ⟨n, -, rfl⟩ := Number.exists_eq_natCast h.1 h.2
    rw [Number.zero_eq, Number.le_eq rfl rfl]
    simp
  | nonnegative => exact h.2

/-- A whole number in bounds passes its check. -/
theorem checkNumber_of_whole {bound : Bound} {x : Number} (h : Whole bound x) :
    checkNumber setting bound x = .ok x := by
  have hne : x ≠ .nan := by
    rintro rfl
    cases h.1
  simp only [checkNumber, if_neg hne, h.1, h.2]
  rfl

/-- A safe whole number that is written in decimal is read as itself. -/
theorem number_decimal {bound : Bound} {x default : Number} (h : Whole bound x) (hsafe : x.IsSafe) :
    number setting default bound (some (.str x.decimal)) = .ok (.ok x.unsigned) := by
  obtain ⟨n, hn, hunsigned, hdecimal⟩ := hsafe.exists_natCast h.nonneg
  have hread : Number.ofText x.decimal = x.unsigned := by
    rw [hdecimal, hunsigned, Number.ofText_ofNat hn]
  simp only [number, Json.plainNumber?, hread, checkNumber_of_whole h.unsigned]

end

/-! ## Writing back -/

/-- What an environment sets that writes a configuration back: numbers in decimal, texts as they
are, nothing for what is absent. -/
def entries (c : Config) : List (Text × Option Json) :=
  [("DATABASE_URL", some (.str c.databaseUrl)),
    ("DB_POOL_MAX", some (.str c.poolSize.decimal)),
    ("DB_CONNECT_TIMEOUT", some (.str c.connectTimeoutSeconds.decimal)),
    ("DB_QUEUE_TIMEOUT", some (.str c.queueTimeoutMs.decimal)),
    ("MODE", some (.str c.mode.name)),
    ("SMTP_HOST", c.smtpHost.map .str),
    ("SMTP_USERNAME", c.smtpUsername.map .str),
    ("SMTP_PASSWORD", c.smtpPassword.map .str),
    ("CONTACT_EMAIL_ON_ERROR", c.contactEmailOnError.map .str),
    ("PLATFORM_EMAIL_ADDRESS", c.platformEmailAddress.map .str),
    ("LOG_LEVEL", some (.str c.logLevel.name))]

/-- The environment that writes a configuration back. -/
def writtenBack (c : Config) : Json :=
  Json.object c.entries

/-- A configuration whose zeros have no sign. -/
def unsigned (c : Config) : Config :=
  { c with
    poolSize := c.poolSize.unsigned
    connectTimeoutSeconds := c.connectTimeoutSeconds.unsigned
    queueTimeoutMs := c.queueTimeoutMs.unsigned }

/-- The texts that a configuration may lack. -/
def optionalTexts (c : Config) : List (Option Text) :=
  [c.smtpHost, c.smtpUsername, c.smtpPassword, c.contactEmailOnError, c.platformEmailAddress]

/-- The numbers of a configuration are safe. -/
structure HasSafeNumbers (c : Config) : Prop where
  poolSize : c.poolSize.IsSafe
  connectTimeoutSeconds : c.connectTimeoutSeconds.IsSafe
  queueTimeoutMs : c.queueTimeoutMs.IsSafe

/-- The entries of a configuration have different names. -/
theorem nodup_entries (c : Config) : (c.entries.map (·.1)).Nodup := by
  show ([Text.ofString "DATABASE_URL", Text.ofString "DB_POOL_MAX", Text.ofString "DB_CONNECT_TIMEOUT",
    Text.ofString "DB_QUEUE_TIMEOUT", Text.ofString "MODE", Text.ofString "SMTP_HOST",
    Text.ofString "SMTP_USERNAME", Text.ofString "SMTP_PASSWORD", Text.ofString "CONTACT_EMAIL_ON_ERROR",
    Text.ofString "PLATFORM_EMAIL_ADDRESS", Text.ofString "LOG_LEVEL"] : List Text).Nodup
  decide +kernel

/-- The texts that a configuration may lack were trimmed. -/
theorem Reads.trimmed {env : Json.Members} {c : Config} (h : Reads env c) :
    ∀ t? ∈ c.optionalTexts, ∀ t, t? = some t → Trimmed t := by
  simp only [optionalTexts, List.forall_mem_cons]
  exact ⟨optionalText_eq_ok h.smtpHost, optionalText_eq_ok h.smtpUsername,
    optionalText_eq_ok h.smtpPassword,
    optionalText_eq_ok h.contactEmailOnError, optionalText_eq_ok h.platformEmailAddress, nofun⟩

/-- An environment that sets what a configuration writes is read as that configuration. -/
theorem Reads.of_entries {env env' : Json.Members} {c : Config} (h : Reads env c)
    (hsafe : c.HasSafeNumbers)
    (hset : ∀ e ∈ c.entries, env'.get? e.1 = e.2) : Reads env' c.unsigned := by
  simp only [entries, List.forall_mem_cons] at hset
  obtain ⟨hurl, hpool, hconnect, hqueue, hmode, hhost, husername, hpassword, hcontact, haddress,
    hlevel, -⟩ := hset
  have htrimmed := h.trimmed
  simp only [optionalTexts, List.forall_mem_cons] at htrimmed
  obtain ⟨hhost', husername', hpassword', hcontact', haddress', -⟩ := htrimmed
  obtain ⟨hpool', hconnect', hqueue'⟩ := h.numbers
  have hdefault : defaultDatabaseUrl ≠ [] := by decide +kernel
  have hmodes : (Mode.all.map Mode.name).Nodup := by decide +kernel
  have hlevels : (Level.all.map Level.name).Nodup := by decide +kernel
  constructor
  case databaseUrl => exact hurl ▸ requiredText_str (requiredText_eq_ok hdefault h.databaseUrl)
  case poolSize => exact hpool ▸ number_decimal hpool' hsafe.poolSize
  case connectTimeoutSeconds => exact hconnect ▸ number_decimal hconnect' hsafe.connectTimeoutSeconds
  case queueTimeoutMs => exact hqueue ▸ number_decimal hqueue' hsafe.queueTimeoutMs
  case mode => exact hmode ▸ choice_name hmodes (by cases c.mode <;> decide)
  case smtpHost => exact hhost ▸ optionalText_map_str hhost'
  case smtpUsername => exact husername ▸ optionalText_map_str husername'
  case smtpPassword => exact hpassword ▸ optionalText_map_str hpassword'
  case contactEmailOnError => exact hcontact ▸ optionalText_map_str hcontact'
  case platformEmailAddress => exact haddress ▸ optionalText_map_str haddress'
  case logLevel => exact hlevel ▸ choice_name hlevels (by cases c.logLevel <;> decide)

/-- A configuration that was loaded lacks a text or has it trimmed and not empty, and if its numbers
are safe, writing it back and loading what was written gives the same configuration, its zeros
without a sign. -/
theorem load_writtenBack {env : Json} {c : Config} (h : load env = .ok c) :
    (∀ t? ∈ c.optionalTexts, ∀ t, t? = some t → Trimmed t)
      ∧ (c.HasSafeNumbers → load c.writtenBack = .ok c.unsigned) := by
  cases env with
  | obj members =>
    have hreads := ofMembers_eq_ok_iff.1 h
    refine ⟨hreads.trimmed, fun hsafe => ofMembers_eq_ok_iff.2 (hreads.of_entries hsafe fun e he => ?_)⟩
    exact Json.Members.get?_present c.nodup_entries he
  | _ => cases h

/-- An environment with numbers in a base, with an exponent and with a sign, and with blanks around
its texts. -/
def paddedEnvironment : Json :=
  .obj [("DB_POOL_MAX", .str " 0x10 "), ("DB_CONNECT_TIMEOUT", .arr [.str "1e3"]),
    ("DB_QUEUE_TIMEOUT", .str "-0"),
    ("SMTP_HOST", .str "\u3000 mail:25\n"), ("SMTP_USERNAME", .str " \t")]

/-- What such an environment gives. -/
def paddedConfig : Config :=
  ⟨defaultDatabaseUrl, 16, 1000, .negativeZero, .debug, some ("mail:25" : Text), none, none, none,
    none, .info⟩

/-- It is loaded again from decimals and trimmed texts. -/
theorem load_writtenBack_padded :
    load paddedEnvironment = .ok paddedConfig ∧ paddedConfig.HasSafeNumbers
      ∧ load paddedConfig.writtenBack = .ok { paddedConfig with queueTimeoutMs := .finite 0 } := by
  have hload : load paddedEnvironment = .ok paddedConfig := rfl
  have hsafe : paddedConfig.HasSafeNumbers := by
    constructor
    case poolSize => exact Number.isSafe_ofNat (n := 16) (by decide)
    case connectTimeoutSeconds => exact Number.isSafe_ofNat (n := 1000) (by decide)
    case queueTimeoutMs => exact ⟨rfl, by norm_num [paddedConfig, Number.value]⟩
  exact ⟨hload, hsafe, (load_writtenBack hload).2 hsafe⟩

end Config

end UnitOfWork
