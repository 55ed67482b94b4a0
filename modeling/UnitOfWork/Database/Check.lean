import UnitOfWork.Database.Health

/-!
# The store's check

The check that an operator runs: it logs where the store is, without the password, probes it, asks
it for its version through the application's own client, and ends with a status of zero or one.
-/

namespace UnitOfWork.Database

variable {S : Signature} {σ : Type}

/-- The unit that ends the user part of a URL. -/
def atSign : UInt16 := Text.unit '@'

/-- The unit that stands before a password. -/
def colon : UInt16 := Text.unit ':'

/-- What follows a password at the beginning of a text: at least one unit, none of them a colon or
an at sign, and then an at sign. -/
def dropPassword? (t : Text) : Option Text :=
  let (password, rest) := t.span fun u => u ≠ colon && u ≠ atSign
  match rest with
  | [] => none
  | u :: rest => if u = atSign ∧ !password.isEmpty then some rest else none

/-- A URL with its first password left out. -/
def maskUrl : Text → Text
  | [] => []
  | u :: rest =>
    if u = colon then
      match dropPassword? rest with
      | some host => ":***@" ++ host
      | none => u :: maskUrl rest
    else u :: maskUrl rest

/-- The statement that asks the store for its version. -/
def versionStatement : Text :=
  "select version() as version"

/-- Asks the store for its version through the client in use. -/
def serverVersion (db : Database S σ) : Program S σ (Option Json) := do
  let pool := db.pool (← db.client)
  let rows ← pool.run "check-db.version" (db.rows versionStatement)
  return (rows.head?).bind (Json.get? "version")

/-- The steps of the check. -/
def checkSteps (db : Database S σ) (tell : Text → Program S σ Unit) : Program S σ Unit := do
  let c ← db.config
  db.journal.write .info ("Checking database connection: " ++ maskUrl c.databaseUrl) []
  db.checkConnection tell (some c.databaseUrl) (.num c.connectTimeoutSeconds)
  let version ← db.serverVersion
  db.journal.write .info "Database connection OK."
    (version.elim [] (Journal.member "serverVersion"))

/-- Runs the check, closes the client, and answers with the exit status. -/
def check (db : Database S σ) (tell : Text → Program S σ Unit) : Program S σ Nat := do
  let failed (f : Fault) : Program S σ Nat := do
    db.journal.writeFault .error "Database connection check failed" [] f
    return 1
  let steps : Program S σ Nat := do
    db.checkSteps tell
    return 0
  let outcome ← ((steps.rescue failed).ensure db.closeClient).attempt
  match outcome with
  | .ok status => return status
  | .error _ => return 1

end UnitOfWork.Database
