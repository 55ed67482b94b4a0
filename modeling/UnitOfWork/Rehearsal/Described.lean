import UnitOfWork.Fault

/-!
# Described faults

What a rehearsal throws is described by an object: `thrown` holds a value that is no error, `err`
the message of an error from outside, and `app` names an error of this application. `described`
builds the fault. Building it can fail, since a message is written with the plain texts of values;
whoever throws a fault that cannot be built throws what building it failed with (`thrown`).
-/

namespace UnitOfWork.Rehearsal

/-- The classes that take nothing but a message and perhaps a cause. -/
def plainClasses : List ErrorClass :=
  [.connectionFailed, .poolExhausted, .sessionState, .invalidEmailConfig, .messenger]

/-- The class that a description names, with what only this class takes. -/
def describedClass? (spec : Json) : Option ErrorClass :=
  match (spec.get? "app").bind Json.text? with
  | none => none
  | some name =>
    if name = ("AppError" : Text) then
      some (.application (spec.get? "code") ((spec.get? "status").getD Fault.defaultStatus))
    else if name = ("SerializationRetriesExhaustedError" : Text) then
      some (.retriesExhausted (spec.get? "attempts"))
    else plainClasses.find? fun c => c.name.text? == some name

/-- The message that a description gives to an error of a class. One that counts attempts says
so itself; a missing message is empty. -/
def describedMessage (spec : Json) : ErrorClass → Except Fault Text
  | .retriesExhausted attempts => (Fault.quoted attempts).map Fault.retriesMessage
  | _ => (spec.get? "message").elim (.ok []) fun v => Fault.quoted (some v)

/-- An error with the cause that it was given. Some classes always name a cause, if only nothing at
all; some never do. -/
def withCause (info : ErrorInfo) (cause : Option Fault) : Fault :=
  match info.errorClass with
  | .connectionFailed | .messenger | .retriesExhausted _ => .caused info (cause.getD (.value none))
  | .application _ _ | .foreign _ _ _ => cause.elim (.error info) (.caused info)
  | _ => .error info

/-- The name of an error from outside, unless the description gives it another. -/
def plainName : Json := .str "Error"

mutual

/-- The fault that a description stands for. A cause that is a text makes the error its own
cause. -/
def described : Json → Except Fault Fault
  | .obj ms => do
    let spec := Json.obj ms
    match spec.get? "thrown", spec.get? "err" with
    | some v, _ => return .value (some v)
    | none, some e =>
      let cause ← describedCause ms
      let info : ErrorInfo :=
        ⟨.foreign ((spec.get? "name").getD plainName) (spec.get? "code") (spec.get? "responseCode"),
          ← Fault.quoted (some e)⟩
      match spec.get? "cause" with
      | some (.str _) => return .selfCaused info
      | _ => return withCause info cause
    | none, none =>
      match describedClass? spec with
      | none => return .value none
      | some c =>
        let cause ← describedCause ms
        return withCause ⟨c, ← describedMessage spec c⟩ cause
  | _ => return .value none

/-- The cause that the members of a description give. -/
def describedCause : List (Text × Json) → Except Fault (Option Fault)
  | [] => return none
  | (name, v) :: rest =>
    if name = ("cause" : Text) then (described v).map some else describedCause rest

end

/-- What throwing a described fault comes to. -/
def thrown (spec : Json) : Fault :=
  match described spec with
  | .ok f | .error f => f

end UnitOfWork.Rehearsal
