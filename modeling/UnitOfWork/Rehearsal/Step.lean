import UnitOfWork.Rehearsal.Plan
import UnitOfWork.Session.Scope

/-!
# Steps of a script

A script drives sessions through steps. A step acts on a session, runs a body of steps inside one,
or works on the surroundings.
-/

namespace UnitOfWork.Rehearsal

/-- How a step is taken: the name under which it is traced, the session that it names, and whether a
failure of it lets the body around it go on. -/
structure Manner where
  action : Text
  session : Option Text
  tolerant : Bool

/-- How a step runs a serialized transaction. Waits are recorded instead of slept through unless
`sleeps` is set, and the steps of the attempts leave no trace if `quiet` is. -/
structure SerializedOptions where
  maxAttempts : Option Number
  rate : Option Number
  draws : List Number
  sleeps : Bool
  quiet : Bool
  arguments : List Json

/-- A step of a script. -/
inductive Step where
  | open
  | snapshot
  | connection
  | query (statement : Text)
  /-- Gives back the connection that a step was answered with last. -/
  | release
  | queue (channel : Text) (message : Option Json) (onBound : Bool)
  | isolation (level : Isolation)
  | commit
  | rollback
  | close
  | savepoint (body : List (Manner × Step)) (result : Json)
  | fail (fault : Fault)
  | sleep (ms : Number)
  /-- Asks for the session that is bound. -/
  | current
  | bind (body : List (Manner × Step)) (result : Json)
  | scoped (commit : Bool) (body : List (Manner × Step)) (result : Json)
  | worker (name : Text) (arguments : List Json) (commit : Bool) (body : List (Manner × Step))
  | serialized (options : SerializedOptions) (attempts : List (List (Manner × Step)))
  | parallel (branches : List (List (Manner × Step)))
  | planFailure (failure : Planned Fault)
  | deadLetters
  | clearDeadLetters
  | guardStats
  | clearBus
  | sameRegistry
  | shutdown

/-- The steps of a script or of a body. -/
abbrev Steps := List (Manner × Step)

/-- What surrounds a step: the bindings, the session of the innermost body, whether a failure ends
the steps after it, and whether steps leave a trace. -/
structure Context where
  scope : Scope := []
  session : Option SessionRef := none
  topLevel : Bool := true
  quiet : Bool := false

/-- Steps that run beside others. -/
structure Branch where
  context : Context
  steps : Steps

end UnitOfWork.Rehearsal
