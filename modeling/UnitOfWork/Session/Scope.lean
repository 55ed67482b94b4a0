import UnitOfWork.Session.Basic

/-!
# Scopes

A registry creates sessions and binds each one to the work that runs in its scope. A scope is the
list of bindings around a piece of work, the innermost first; work takes its scope as an argument,
so a binding holds for the work that it was made for and for nothing else.
-/

namespace UnitOfWork

/-- A session, by its place among the sessions that were opened. -/
abbrev SessionRef := Nat

/-- A registry, by its place among the registries that were made. -/
abbrev RegistryRef := Nat

/-- A session that is bound for a registry. -/
structure Binding where
  registry : RegistryRef
  session : SessionRef
  deriving DecidableEq

/-- The bindings around a piece of work, the innermost first. -/
abbrev Scope := List Binding

/-- Work that depends on the bindings around it. -/
abbrev Scoped (S : Signature) (σ α : Type) := Scope → Program S σ α

/-- A registry over a state `σ`: who it is, how it creates a session, and how its sessions are
used. -/
structure Registry (S : Signature) (σ : Type) where
  ref : RegistryRef
  journal : Journal σ
  create : Program S σ SessionRef
  session : SessionRef → Session S σ

namespace Registry

variable {S : Signature} {σ α : Type}

/-- The session that is bound for a registry, if any. -/
def current? (r : Registry S σ) (scope : Scope) : Option SessionRef :=
  (scope.find? (·.registry = r.ref)).map (·.session)

/-- The fault of work outside every scope. -/
def unboundFault : Fault :=
  .sessionState "No session bound to this context. Run inside runScoped()."

/-- The session that is bound for a registry. -/
def current (r : Registry S σ) : Scoped S σ SessionRef := fun scope =>
  match r.current? scope with
  | some session => pure session
  | none => .fail unboundFault

/-- Runs work with a session bound for a registry. -/
def bind (r : Registry S σ) (session : SessionRef) (work : Scoped S σ α) : Scoped S σ α := fun scope =>
  work (⟨r.ref, session⟩ :: scope)

/-- Queues a message on the session that is bound. -/
def queueMessage (r : Registry S σ) (channel : Text) (message : Option Json) : Scoped S σ Unit :=
  fun scope => do
    (r.session (← r.current scope)).queueMessage channel message

/-- What follows a failure inside a scope: the transaction is rolled back, and the fault stays the
outcome. -/
def abandon (s : Session S σ) (f : Fault) : Program S σ α := do
  s.journal.writeFault .error "Exception during scoped transaction, rolling back." s.mark f
  s.rollback.rescue fun g =>
    s.journal.writeFault .error "Rollback of scoped transaction failed" s.mark g
  .fail f

/-- Runs work in a session of its own, which is bound while the work runs and closed at the end. The
transaction is committed after the work if that was asked for, and rolled back if anything fails. -/
def runScoped (r : Registry S σ) (commit : Bool) (work : SessionRef → Scoped S σ α) : Scoped S σ α :=
  fun scope => do
    let ref ← r.create
    let s := r.session ref
    let body : Program S σ α := do
      let result ← r.bind ref (work ref) scope
      if commit then
        s.commit
        s.journal.write .debug "DB session auto-committed as requested" s.mark
      return result
    (body.rescue (abandon s)).ensure do
      s.close
      s.journal.write .debug "Session complete, db session closed" s.mark

/-- The name of a worker in log entries. -/
def workerLabel (name : Text) : Text :=
  if name.isEmpty then "anonymous" else name

/-- Runs a named worker in a session of its own. -/
def runWorker (r : Registry S σ) (commit : Bool) (name : Text) (work : SessionRef → Scoped S σ α) :
    Scoped S σ α :=
  r.runScoped commit fun ref scope => do
    let s := r.session ref
    s.journal.write .debug ("Running worker " ++ workerLabel name ++ " in scoped DB session") s.mark
    work ref scope

end Registry

end UnitOfWork
