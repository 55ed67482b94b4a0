import Mathlib.Data.List.DropRight
import Mathlib.Data.List.TakeDrop
import UnitOfWork.Proofs.Inspection.Bench
import UnitOfWork.Proofs.Log.Lowest
import UnitOfWork.Proofs.Overlap.Crowd

/-!
# What the check shows of a password

The store's check begins with an entry that says where the store is. It is meant to leave the
password out, but a password may hold colons, and only what follows the last of them is masked
(`maskUrl_urlOf`): the text shows the password up to its last colon, or all of it if it ends there.
`announced_eq_iff` says for which two passwords the check logs the same.
-/

namespace UnitOfWork

namespace Database

/-! ## Masking -/

/-- A URL of a store with a user and a password. -/
def urlOf (user password host : Text) : Text :=
  "postgresql://" ++ user ++ colon :: (password ++ atSign :: host)

/-- What follows the last colon of a password. -/
def lastPart (password : Text) : Text :=
  password.rtakeWhile (· ≠ colon)

/-- A password up to its last colon. -/
def firstParts (password : Text) : Text :=
  password.rdropWhile (· ≠ colon)

/-- What a masked URL shows in the place of a password. -/
def shown (password : Text) : Text :=
  if lastPart password = [] then password else firstParts password ++ "***"

/-- Where a colon comes before an at sign, no password begins. -/
theorem dropPassword?_colon {t : Text} (ht : atSign ∉ t) (rest : Text) :
    dropPassword? (t ++ colon :: rest) = none := by
  have hrest : ∃ r, (t ++ colon :: rest).dropWhile (fun u => u ≠ colon && u ≠ atSign) = colon :: r := by
    induction t with
    | nil => exact ⟨rest, by simp⟩
    | cons u t ih =>
      rw [List.mem_cons, not_or] at ht
      by_cases hu : u = colon
      · exact ⟨t ++ colon :: rest, by simp [hu]⟩
      · have hpass : (u ≠ colon && u ≠ atSign) = true := by simp [hu, Ne.symm ht.1]
        rw [List.cons_append, List.dropWhile_cons, if_pos hpass]
        exact ih ht.2
  obtain ⟨r, hr⟩ := hrest
  rw [dropPassword?, List.span_eq_takeWhile_dropWhile, hr]
  exact if_neg fun h => absurd h.1 (by decide)

/-- What comes before an at sign without a colon is a password, unless it is empty. -/
theorem dropPassword?_atSign {t : Text} (hcolon : colon ∉ t) (hat : atSign ∉ t) (host : Text) :
    dropPassword? (t ++ atSign :: host) = if t = [] then none else some host := by
  have hpass : ∀ u ∈ t, (u ≠ colon && u ≠ atSign) = true := by
    intro u hu
    simp [ne_of_mem_of_not_mem hu hcolon, ne_of_mem_of_not_mem hu hat]
  rw [dropPassword?, List.span_eq_takeWhile_dropWhile, List.takeWhile_append_of_pos hpass,
    List.dropWhile_append_of_pos hpass]
  cases t <;> simp

/-- Up to a colon nothing is masked. -/
theorem maskUrl_append {t : Text} (ht : atSign ∉ t) (rest : Text) :
    maskUrl (t ++ colon :: rest) = t ++ maskUrl (colon :: rest) := by
  induction t with
  | nil => rfl
  | cons u t ih =>
    rw [List.mem_cons, not_or] at ht
    rw [List.cons_append, maskUrl, dropPassword?_colon ht.2, ih ht.2]
    split <;> rfl

/-- Where there is no colon, nothing is masked. -/
theorem maskUrl_of_notMem {t : Text} (ht : colon ∉ t) : maskUrl t = t := by
  induction t with
  | nil => rfl
  | cons u t ih =>
    rw [List.mem_cons, not_or] at ht
    rw [maskUrl, if_neg (Ne.symm ht.1), ih ht.2]

/-- The last part of a password is masked, unless it is empty. -/
theorem maskUrl_lastPart {t host : Text} (hcolon : colon ∉ t) (hat : atSign ∉ t) (hhost : colon ∉ host) :
    maskUrl (colon :: (t ++ atSign :: host))
      = colon :: ((if t = [] then [] else "***") ++ atSign :: host) := by
  rw [maskUrl, if_pos rfl, dropPassword?_atSign hcolon hat]
  by_cases ht : t = []
  · subst ht
    have hrest : colon ∉ atSign :: host := List.not_mem_cons_of_ne_of_not_mem (by decide) hhost
    simp [maskUrl_of_notMem hrest]
  · rw [if_neg ht, if_neg ht]
    rfl

section

variable (password : Text)

/-- A password is its first parts and its last. -/
theorem firstParts_append_lastPart : firstParts password ++ lastPart password = password :=
  List.rdropWhile_append_rtakeWhile ..

/-- The last part of a password has no colon. -/
theorem colon_notMem_lastPart : colon ∉ lastPart password := fun h =>
  absurd (List.mem_rtakeWhile_imp h) (by simp)

/-- A password up to its last colon ends in that colon, if there is one. -/
theorem firstParts_cases :
    firstParts password = [] ∨ ∃ before, firstParts password = before ++ [colon] := by
  by_cases h : firstParts password = []
  · exact .inl h
  · have hlast : (firstParts password).getLast h = colon := by
      by_contra hne
      exact List.rdropWhile_last_not (· ≠ colon) password h (decide_eq_true hne)
    exact .inr ⟨_, (hlast ▸ List.dropLast_append_getLast h).symm⟩

/-- The first parts of a password are shown, and stars for the last if it is not empty. -/
theorem shown_eq :
    shown password = firstParts password ++ if lastPart password = [] then [] else "***" := by
  unfold shown
  split
  · next h =>
    have hall := firstParts_append_lastPart password
    rw [h] at hall
    exact hall.symm
  · rfl

end

/-- With its password masked a URL shows the password up to its last colon, or all of it if it ends
there. -/
theorem maskUrl_password {scheme password host : Text} (hscheme : atSign ∉ scheme)
    (hpassword : atSign ∉ password) (hhost : colon ∉ host) :
    maskUrl (scheme ++ colon :: (password ++ atSign :: host))
      = scheme ++ colon :: (shown password ++ atSign :: host) := by
  have hparts := firstParts_append_lastPart password
  have hlast : atSign ∉ lastPart password := fun h => hpassword (hparts ▸ List.mem_append_right _ h)
  have hmasked := maskUrl_lastPart (colon_notMem_lastPart password) hlast hhost
  rw [shown_eq]
  rcases firstParts_cases password with hfirst | ⟨before, hfirst⟩
  · have honly : password = lastPart password := by rw [hfirst] at hparts; exact hparts.symm
    calc maskUrl (scheme ++ colon :: (password ++ atSign :: host))
        = maskUrl (scheme ++ colon :: (lastPart password ++ atSign :: host)) := by rw [← honly]
      _ = _ := by rw [maskUrl_append hscheme, hmasked, hfirst, List.nil_append]
  · rw [hfirst, List.append_assoc] at hparts
    have hbefore : atSign ∉ before := fun h => hpassword (hparts ▸ List.mem_append_left _ h)
    have hshown : atSign ∉ scheme ++ colon :: before :=
      List.not_mem_append hscheme (List.not_mem_cons_of_ne_of_not_mem (by decide) hbefore)
    calc maskUrl (scheme ++ colon :: (password ++ atSign :: host))
        = maskUrl ((scheme ++ colon :: before) ++ colon :: (lastPart password ++ atSign :: host)) := by
          conv_lhs => rw [← hparts]
          simp only [List.append_assoc, List.cons_append, List.nil_append]
      _ = _ := by
          rw [maskUrl_append hshown, hmasked, hfirst]
          simp only [List.append_assoc, List.cons_append, List.nil_append]

/-- The mask leaves the user and the host, and of the password what is shown of it. -/
theorem maskUrl_urlOf {user password host : Text} (huser : atSign ∉ user) (hpassword : atSign ∉ password)
    (hhost : colon ∉ host) : maskUrl (urlOf user password host) = urlOf user (shown password) host :=
  maskUrl_password (List.not_mem_append (by decide +kernel) huser) hpassword hhost

/-- What was masked has a last part. -/
theorem lastPart_stars_ne_nil (first : Text) : lastPart (first ++ "***") ≠ [] := by
  have hstars : first ++ Text.ofString "***" = (first ++ "**") ++ [Text.unit '*'] := by
    rw [List.append_assoc]
    rfl
  rw [hstars, lastPart, List.rtakeWhile_concat_pos (x := Text.unit '*') _ _ (by decide)]
  exact List.append_ne_nil_of_right_ne_nil _ (List.cons_ne_nil _ _)

/-- Two passwords are shown alike if they are the same, or differ only in what follows the last
colon of each. -/
theorem shown_eq_shown_iff {p q : Text} :
    shown p = shown q ↔ p = q ∨ firstParts p = firstParts q ∧ lastPart p ≠ [] ∧ lastPart q ≠ [] := by
  unfold shown
  by_cases hp : lastPart p = []
  · by_cases hq : lastPart q = []
    · simp [hp, hq]
    · rw [if_pos hp, if_neg hq]
      refine ⟨fun h => absurd (h ▸ hp) (lastPart_stars_ne_nil _), ?_⟩
      rintro (rfl | ⟨-, hne, -⟩)
      · exact absurd hp hq
      · exact absurd hp hne
  · by_cases hq : lastPart q = []
    · rw [if_neg hp, if_pos hq]
      refine ⟨fun h => absurd (h ▸ hq) (lastPart_stars_ne_nil _), ?_⟩
      rintro (rfl | ⟨-, -, hne⟩)
      · exact absurd hq hp
      · exact absurd hq hne
    · rw [if_neg hp, if_neg hq, List.append_left_inj]
      refine ⟨fun h => .inr ⟨h, hp, hq⟩, ?_⟩
      rintro (rfl | ⟨h, -, -⟩)
      · rfl
      · exact h

end Database

namespace Inspection

open Database (urlOf maskUrl atSign colon firstParts lastPart)

variable (w : Surroundings)

/-! ## What the check logs -/

/-- A process with an environment, before it did anything. -/
def launched (env : Json.Members) : Bench :=
  { platform := { environment := env } }

/-- A process that has read its configuration. -/
def configured (env : Json.Members) (c : Config) : Bench :=
  { platform := Platform.setConfig c { environment := env } }

/-- What the store's check logs before it asks for anything. -/
def announced (env : Json.Members) : List LogLine :=
  ((w.database.check tell).advance (launched env)).1.platform.log.lines

/-- The call for the entry that the check begins with. -/
def announcement (url : Text) : Log.Call :=
  ⟨w.clock [], Level.info.name, "Checking database connection: " ++ maskUrl url, []⟩

/-- What follows a program plays no part before the program has made its first request. -/
theorem advance_andThen_of_asked {α β : Type} {p : Program Requests Bench α} {b b' : Bench}
    {request : Request} (h : ∃ rest, p.advance b = (b', .asked request rest))
    (next : Except Fault α → Program Requests Bench β) :
    ∃ rest, (p.andThen next).advance b = (b', .asked request rest) := by
  obtain ⟨rest, hrest⟩ := h
  rw [Program.advance_andThen, hrest]
  exact ⟨_, rfl⟩

section

variable {env : Json.Members} {c : Config} (henv : Config.ofMembers env = .ok c)

include henv

/-- The configuration is loaded without a stop. -/
theorem advance_config :
    w.database.config.advance (launched env) = (configured env c, .ended (.ok c)) := by
  have hplatform : (launched env).platform.config
      = (.ok c, Platform.setConfig c { environment := env }) := by
    simp only [launched, Platform.config, Platform.loadConfig, henv]
  show (({ launched env with platform := (launched env).platform.config.2 } : Bench),
    Program.Stop.ended (launched env).platform.config.1) = _
  rw [hplatform]
  rfl

/-- The check begins with its entry, and then asks for a connection. -/
theorem advance_checkSteps {log : Log}
    (hlog : (announcement w c.databaseUrl).writeIn (configured env c).platform.log = .ok log) :
    ∃ rest, (w.database.checkSteps tell).advance (launched env)
      = (Bench.logCell.set log (configured env c),
        .asked (.connect (Database.probeOptions c.databaseUrl (.num c.connectTimeoutSeconds))) rest) := by
  have hwritten : w.journal.written .info ("Checking database connection: " ++ maskUrl c.databaseUrl) []
      (configured env c) = .ok (Bench.logCell.set log (configured env c)) := congrArg (Except.map _) hlog
  have hwrite : (w.journal.write .info ("Checking database connection: " ++ maskUrl c.databaseUrl) []
      : Program Requests Bench Unit).advance (configured env c)
        = (Bench.logCell.set log (configured env c), .ended (.ok ())) := by
    simp only [Journal.write, Program.tryChange, Program.advance, hwritten, Except.map]
  have hjournal : w.database.journal = w.journal := rfl
  rw [Database.checkSteps, Program.advance_bind, advance_config w henv]
  simp only []
  rw [hjournal, Program.advance_bind, hwrite]
  exact ⟨_, rfl⟩

/-- The check begins with its entry, where entries of its level are written. -/
theorem announced_eq :
    announced w env
      = if c.logLevel.rank ≤ Level.info.rank then [(announcement w c.databaseUrl).line] else [] := by
  have hlog := Log.writeIn_of_hasDate (c := announcement w c.databaseUrl) (w.dated [])
    (configured env c).platform.log
  -- the check goes on from its steps by a rescue, a clean-up and its status
  obtain ⟨_, hcheck⟩ : ∃ rest, (w.database.check tell).advance (launched env) = (_, .asked _ rest) :=
    advance_andThen_of_asked (advance_andThen_of_asked (advance_andThen_of_asked
      (advance_andThen_of_asked (advance_andThen_of_asked (advance_checkSteps w henv hlog) _) _) _) _) _
  have hlowest : (configured env c).platform.log.lowest = c.logLevel.name := rfl
  have hwrites : (configured env c).platform.log.writes (announcement w c.databaseUrl).level
      = decide (c.logLevel.rank ≤ Level.info.rank) := Log.writes_of_levels hlowest .info
  rw [announced, hcheck, hwrites]
  by_cases hrank : c.logLevel.rank ≤ Level.info.rank
  · simp only [hrank]
    rfl
  · simp only [hrank]
    rfl

end

/-- Entries for two URLs are the same if these are masked alike. -/
theorem announcement_line_inj {url url' : Text} :
    (announcement w url).line = (announcement w url').line ↔ maskUrl url = maskUrl url' := by
  have hmembers (stamp message : Text) : Log.entry stamp Level.info.name message []
      = [(Text.ofString "timestamp", Json.str stamp), (Text.ofString "level", Json.str Level.info.name),
        (Text.ofString "message", Json.str message)] := rfl
  simp only [announcement, Log.Call.line, hmembers, List.cons.injEq, LogLine.entry.injEq, Prod.mk.injEq,
    Json.str.injEq, List.append_cancel_left_eq, true_and, and_true]

/-- The check logs the same for two passwords if it logs nothing at that level, or the two are the
same, or differ only in what follows the last colon of each. -/
theorem announced_eq_iff {user host p q : Text} (huser : atSign ∉ user) (hhost : colon ∉ host)
    (hp : atSign ∉ p) (hq : atSign ∉ q) {env env' : Json.Members} {c : Config}
    (henv : Config.ofMembers env = .ok { c with databaseUrl := urlOf user p host })
    (henv' : Config.ofMembers env' = .ok { c with databaseUrl := urlOf user q host }) :
    announced w env = announced w env'
      ↔ Level.info.rank < c.logLevel.rank
        ∨ p = q ∨ firstParts p = firstParts q ∧ lastPart p ≠ [] ∧ lastPart q ≠ [] := by
  rw [announced_eq w henv, announced_eq w henv']
  by_cases hrank : c.logLevel.rank ≤ Level.info.rank
  · rw [if_pos hrank, if_pos hrank, List.cons.injEq, and_iff_left rfl, announcement_line_inj,
      Database.maskUrl_urlOf huser hp hhost, Database.maskUrl_urlOf huser hq hhost,
      ← Database.shown_eq_shown_iff, or_iff_right (Nat.not_lt.2 hrank)]
    simp only [urlOf, List.append_cancel_left_eq, List.cons.injEq, List.append_cancel_right_eq, true_and]
  · rw [if_neg hrank, if_neg hrank]
    exact iff_of_true rfl (.inl (Nat.not_le.1 hrank))

/-- The environment of a process that is to use the store at a URL. -/
def storeAt (url : Text) : Json.Members :=
  [("DATABASE_URL", .str url)]

/-- The configuration of a process with an empty environment. -/
def unconfigured : Config :=
  ⟨Config.defaultDatabaseUrl, 10, 10, 5000, .debug, none, none, none, none, none, .info⟩

/-- An environment with a URL alone is configured with that URL. -/
theorem ofMembers_storeAt (user password host : Text) :
    Config.ofMembers (storeAt (urlOf user password host))
      = .ok { unconfigured with databaseUrl := urlOf user password host } := rfl

/-- Surroundings in which nothing fails. -/
def calm : Surroundings :=
  .failing fun _ _ => none

/-- Of passwords without a colon the check shows nothing. -/
theorem announced_alike_for_secrets :
    announced calm (storeAt (urlOf "u" "secret" "h/d"))
      = announced calm (storeAt (urlOf "u" "letmein" "h/d")) := by
  have huser : atSign ∉ ("u" : Text) := by decide +kernel
  have hhost : colon ∉ ("h/d" : Text) := by decide +kernel
  have hsecret : atSign ∉ ("secret" : Text) := by decide +kernel
  have hletmein : atSign ∉ ("letmein" : Text) := by decide +kernel
  have hparts : firstParts "secret" = firstParts "letmein" ∧ lastPart "secret" ≠ []
      ∧ lastPart "letmein" ≠ [] := by decide +kernel
  exact (announced_eq_iff calm huser hhost hsecret hletmein (ofMembers_storeAt ..)
    (ofMembers_storeAt ..)).2 (.inr (.inr hparts))

/-- Of passwords with a colon it shows what stands before the last one. -/
theorem announced_differs_before_colon :
    ∃ w p q, p = ("a:b" : Text) ∧ q = ("c:b" : Text) ∧ atSign ∉ p ∧ atSign ∉ q
      ∧ announced w (storeAt (urlOf "u" p "h")) ≠ announced w (storeAt (urlOf "u" q "h")) := by
  have hmasked : maskUrl (urlOf "u" "a:b" "h") ≠ maskUrl (urlOf "u" "c:b" "h") := by decide +kernel
  refine ⟨calm, "a:b", "c:b", rfl, rfl, by decide +kernel, by decide +kernel, fun h => hmasked ?_⟩
  rw [announced_eq calm (ofMembers_storeAt ..), announced_eq calm (ofMembers_storeAt ..),
    if_pos (by decide), if_pos (by decide), List.cons.injEq, announcement_line_inj] at h
  exact h.1

end Inspection

end UnitOfWork
