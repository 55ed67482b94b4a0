import UnitOfWork.Config

/-!
# The platform

What one process holds beside its work: the environment, the configuration once it was read, and the
log. Reading the configuration for the first time sets the log's lowest level, and so does setting
it.
-/

namespace UnitOfWork

/-- The state that a process holds. -/
structure Platform where
  environment : Json.Members := []
  cached : Option Config := none
  log : Log := {}

namespace Platform

/-- Takes a configuration as the one in force. -/
def setConfig (config : Config) (p : Platform) : Platform :=
  { p with cached := some config, log := { p.log with lowest := config.logLevel.name } }

/-- Forgets the configuration, so that it is read anew. -/
def resetConfig (p : Platform) : Platform :=
  { p with cached := none }

/-- The configuration that the environment describes now. -/
def loadConfig (p : Platform) : Except Fault Config :=
  Config.ofMembers p.environment

/-- The configuration that an environment describes, that of the process if none is given. -/
def configOf (env : Option Json) (p : Platform) : Except Fault Config :=
  match env with
  | some env => Config.load env
  | none => p.loadConfig

/-- Takes the configuration of an environment as the one in force, unless it is refused. -/
def adoptConfig (env : Option Json) (p : Platform) : Except Fault Unit × Platform :=
  match p.configOf env with
  | .ok c => (.ok (), p.setConfig c)
  | .error e => (.error e, p)

/-- The configuration in force, read from the environment if there is none. -/
def config (p : Platform) : Except Fault Config × Platform :=
  match p.cached with
  | some c => (.ok c, p)
  | none =>
    match p.loadConfig with
    | .ok c => (.ok c, p.setConfig c)
    | .error e => (.error e, p)

end Platform

end UnitOfWork
