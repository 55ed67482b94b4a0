import UnitOfWork.Database.Client

/-!
# The health check

Opens a connection of its own to the store, probes it and closes it again. A failed probe is logged
and fails as one error that carries its cause; where it points at the role that the store lacks, the
operator is told what to do.
-/

namespace UnitOfWork.Database

/-- Seconds that a health check waits for the store. -/
def healthTimeout : Json := .ofNat 10

/-- A line that frames a hint. -/
def hintFrame : Text :=
  "*********************************************************"

/-- What the operator is told about a missing role. -/
def missingRoleHint : Text :=
  Text.join "\n"
    ["", hintFrame, hintFrame, "", "", "Fieldwork requires a database user named \"fieldwork\".", "",
      "Run:", "", "    createuser -P fieldwork --createdb", "",
      "Consult the developer guide for more information.", "", "", hintFrame, hintFrame, "", ""]

/-- How the connection of a health check is opened. -/
def probeOptions (url : Text) (timeout : Json) : ConnectOptions :=
  ⟨some (.str url), some (.ofNat 1), 1, none, some timeout⟩

/-- What follows a failed probe. -/
def reportProbe {S : Signature} {σ : Type} (db : Database S σ) (tell : Text → Program S σ Unit)
    (f : Fault) : Program S σ Unit := do
  db.journal.writeFault .error "Database connection check failed" [] f
  if f.isMissingRole then tell missingRoleHint
  let message ← .ofExcept f.message
  .fail (.connectionFailed ("Could not connect to the database: " ++ message) f)

/-- Checks that the store can be reached, at a URL or at the configured one. Hints go to the
operator. -/
def checkConnection {S : Signature} {σ : Type} (db : Database S σ) (tell : Text → Program S σ Unit)
    (url : Option Text) (timeout : Json) : Program S σ Unit := do
  let url ←
    match url with
    | some url => pure url
    | none => (·.databaseUrl) <$> db.config
  db.connect (probeOptions url timeout)
  ((db.probe "select 1").rescue (db.reportProbe tell)).ensure (db.finish timeout)

end UnitOfWork.Database
