import UnitOfWork.Rehearsal.Storing

/-!
# Rehearsing the store's check

`main` takes the settings of the process and of the environment files in the working directory, runs
the store's check over the stand-in store, writes the log to the two streams, and ends with the
status of the check.
-/

namespace UnitOfWork.Rehearsal

/-- The settings that are taken from the process. -/
def processSettings : List String :=
  ["DATABASE_URL", "DB_POOL_MAX", "DB_CONNECT_TIMEOUT", "DB_QUEUE_TIMEOUT", "MODE", "SMTP_HOST",
    "SMTP_USERNAME", "SMTP_PASSWORD", "CONTACT_EMAIL_ON_ERROR", "PLATFORM_EMAIL_ADDRESS", "LOG_LEVEL"]

/-- The settings that the process was started with. -/
def readProcess : IO Json.Members := do
  let values ← processSettings.mapM fun name => do
    return ((name : Text), ← IO.getEnv name)
  return values.filterMap fun (name, value) => value.map fun v => (name, .str v)

/-- The environment files that are there, with their texts. -/
def readFiles : IO (List (Text × Text)) := do
  let files ← EnvFile.fileNames.mapM fun name => do
    let text ← try some <$> IO.FS.readFile (name.toString?.getD "") catch _ => pure none
    return (name, text)
  return files.filterMap fun (name, text) => text.map fun t => (name, t)

/-- The process before the check: its environment, and a log that starts at the level asked for. -/
def startingPlatform (environment : Json.Members) : Platform :=
  { environment
    log := { lowest := Log.initialLowest ((environment.get? "LOG_LEVEL").bind Json.text?) } }

/-- Writes a line of the log on its stream. -/
def writeLine (line : LogLine) : IO Unit := do
  let stream ← if line.toErrorStream then IO.getStderr else IO.getStdout
  stream.putStr (line.text.toString?.getD "")

end UnitOfWork.Rehearsal

open UnitOfWork Rehearsal

/-- Runs the store's check. -/
def main : IO UInt32 := do
  let platform := startingPlatform (← readProcess)
  let (status, record) := runStoreCheck (← readFiles) { platform }
  record.lines.forM writeLine
  return (status.getD 1).toUInt32
