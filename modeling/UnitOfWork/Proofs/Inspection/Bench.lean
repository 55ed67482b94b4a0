import UnitOfWork.Database.Check
import UnitOfWork.Proofs.Trial.Basic

/-!
# A bench for the checks of the store

A bench holds what the checks of the store work on, and what they have asked of their surroundings
so far: the store's connections and the operator. `Surroundings` decides from the requests so far
which of them fails, and with what. Telling the operator something never fails.
-/

namespace UnitOfWork

namespace Inspection

/-- What the checks ask of their surroundings. -/
inductive Request where
  /-- Opens a pool of connections. -/
  | connect (options : ConnectOptions)
  | probe (text : Text)
  /-- Tells the operator something. -/
  | tell (text : Text)
  /-- Waits for a slot of a client. -/
  | slot (ticket : Ticket)
  | rows (text : Text)
  /-- Ends a pool of connections. -/
  | finish (timeout : Json)

/-- What a request is answered with. -/
def Request.Answer : Request → Type
  | rows _ => List Json
  | connect _ | probe _ | tell _ | slot _ | finish _ => Unit

/-- The requests of the checks. -/
abbrev Requests : Signature :=
  ⟨Request, Request.Answer⟩

/-- What the checks work on, with what they asked for. -/
structure Bench where
  platform : Platform := {}
  clients : Clients := {}
  stamps : Nat := 0
  asked : List Request := []

namespace Bench

/-- Adds to what was asked for. -/
def note (request : Request) (b : Bench) : Bench :=
  { b with asked := b.asked ++ [request] }

/-- The log of the process. -/
def logCell : Cell Bench Log :=
  ⟨fun b => b.platform.log, fun log b => { b with platform := { b.platform with log } }⟩

/-- The guard of a client. A client that was never made has one that admits nobody. -/
def guardCell (client : ClientRef) : Cell Bench PoolGuard where
  get b := b.clients.guards.getD client ⟨0, 0, 0, [], 0, []⟩
  set guard b :=
    { b with clients := { b.clients with guards := b.clients.guards.modify client fun _ => guard } }

end Bench

/-- What a request fails with, if it does, the rows of the store, and what the clock shows. -/
structure Surroundings where
  fault? : List Request → Request → Option Fault
  rows : List Request → List Json
  clock : List Request → Time
  /-- A clock shows moments that have a date. -/
  dated : ∀ asked, (clock asked).hasDate = true

/-- Surroundings of which only the faults matter: the clock stands still, and the store has no
rows. -/
def Surroundings.failing (fault? : List Request → Request → Option Fault) : Surroundings where
  fault? := fault?
  rows _ := []
  clock _ := .finite 0
  dated _ := by decide

/-- Makes a request. -/
def asking (request : Request) : Program Requests Bench request.Answer :=
  .ask request .done

/-- Tells the operator something. -/
def tell (text : Text) : Program Requests Bench Unit :=
  asking (.tell text)

namespace Surroundings

variable (w : Surroundings)

/-- Answers a request and notes it. -/
def serve : Server Requests Bench
  | .rows text, b =>
    (match w.fault? b.asked (.rows text) with
      | some f => .error f
      | none => .ok (w.rows b.asked), b.note (.rows text))
  | .tell text, b => (.ok (), b.note (.tell text))
  | .connect options, b =>
    (Fault.toResult (w.fault? b.asked (.connect options)), b.note (.connect options))
  | .probe text, b => (Fault.toResult (w.fault? b.asked (.probe text)), b.note (.probe text))
  | .slot ticket, b => (Fault.toResult (w.fault? b.asked (.slot ticket)), b.note (.slot ticket))
  | .finish timeout, b =>
    (Fault.toResult (w.fault? b.asked (.finish timeout)), b.note (.finish timeout))

/-- Where entries are written. -/
def journal : Journal Bench :=
  ⟨Bench.logCell, fun b => w.clock b.asked⟩

/-- The store. -/
def database : Database Requests Bench where
  platform := ⟨Bench.platform, fun platform b => { b with platform }⟩
  journal := w.journal
  clients := ⟨Bench.clients, fun clients b => { b with clients }⟩
  pool client :=
    { journal := w.journal
      guard := Bench.guardCell client
      stamps := ⟨Bench.stamps, fun stamps b => { b with stamps }⟩
      wait := fun ticket => asking (.slot ticket)
      settle := fun _ _ b => b }
  connect options := asking (.connect options)
  probe text := asking (.probe text)
  rows text := asking (.rows text)
  finish timeout := asking (.finish timeout)

/-- Asking for the configuration in force changes what the process holds and no more. -/
theorem run_config (b : Bench) :
    w.database.config.run w.serve b
      = (b.platform.config.1, { b with platform := b.platform.config.2 }) := rfl

end Surroundings

end Inspection

end UnitOfWork
