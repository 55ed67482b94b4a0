import Mathlib.Data.Nat.Pairing
import UnitOfWork.Proofs.Errand.Basic
import UnitOfWork.Proofs.Overlap.Crowd

/-!
# Errands side by side

Any number of errands share a site: one registry with its sessions, one log, one publisher. A
session is named by the errand that opened it and by how many that errand had opened before. Each
errand has a history of its own: what it asked for with what came back, what its sessions went
through, and what was noted of it.

The errands go on in turns. In a turn an errand makes one step, be it a change of the state or a
request that is answered, so any two errands may take turns between any two steps. A turn that is
not interrupted up to the next request is a row of these (`exists_moves_turn`).
-/

namespace UnitOfWork.Apart

/-- What errands ask of their surroundings. -/
inductive Request where
  | openSession
  | reserve (ref : SessionRef)
  | execute (ref : SessionRef) (c : Connection) (statement : Statement)
  | release (ref : SessionRef) (c : Connection)
  | publish (message : Message)
  /-- Waits between two attempts to publish a message. -/
  | pause (ms : Number)
  /-- Draws what the next wait between two attempts at a transaction is made from. -/
  | draw
  /-- Waits between two attempts at a transaction. -/
  | sleep (ms : Number)
  /-- Anything else that an errand waits for. -/
  | consult (question : Json)

/-- What a request is answered with. -/
def Request.Answer : Request → Type
  | openSession => SessionRef
  | reserve _ => Connection
  | draw => Number
  | consult _ => Json
  | execute _ _ _ | release _ _ | publish _ | pause _ | sleep _ => Unit

/-- The requests of errands. -/
abbrev Calls : Signature :=
  ⟨Request, Request.Answer⟩

/-- What a request would be answered with. -/
structure Reply where
  lent : Except Fault Connection
  /-- How a statement or a giving back ends. -/
  carriedOut : Except Fault Unit
  advice : Except Fault Json
  published : Except Fault Unit
  drawn : Number

/-- What happens in an errand. -/
inductive Event (α : Type) where
  | opened (ref : SessionRef)
  | reserved (ref : SessionRef) (result : Except Fault Connection)
  | executed (ref : SessionRef) (c : Connection) (statement : Statement) (result : Except Fault Unit)
  | released (ref : SessionRef) (c : Connection) (result : Except Fault Unit)
  | consulted (question : Json) (result : Except Fault Json)
  /-- The state of a session is set. -/
  | changed (ref : SessionRef) (before after : SessionState)
  /-- Messages are handed over to the publisher. -/
  | handedOver (ref : SessionRef) (messages : List Message)
  | noted (n : Note α)

/-- The errand that opened a session. -/
def owner (ref : SessionRef) : Nat :=
  ref.unpair.1

/-- The name of the session that an errand opens after `k` others. -/
def sessionName (i k : Nat) : SessionRef :=
  Nat.pair i k

/-- A session is named after the errand that opened it. -/
@[simp] theorem owner_sessionName (i k : Nat) : owner (sessionName i k) = i := by
  simp [owner, sessionName]

/-- What errands share, and what each keeps for itself. -/
structure Site (υ α : Type) where
  own : Nat → υ
  /-- How many sessions each errand has opened. -/
  opened : Nat → Nat := fun _ => 0
  sessions : SessionRef → SessionState := fun _ => {}
  histories : Nat → List (Event α) := fun _ => []
  log : Log := {}
  deadLetters : List DeadLetter := []

variable {υ α : Type}

namespace Site

/-- Adds to the history of an errand. -/
def note (i : Nat) (e : Event α) (s : Site υ α) : Site υ α :=
  { s with histories := Function.update s.histories i (s.histories i ++ [e]) }

/-- The state of a session. Setting it is noted for the errand that opened the session. -/
def sessionCell (ref : SessionRef) : Cell (Site υ α) SessionState :=
  ⟨fun s => s.sessions ref, fun x s =>
    ({ s with sessions := Function.update s.sessions ref x } : Site υ α).note (owner ref)
      (.changed ref (s.sessions ref) x)⟩

/-- What an errand keeps for itself. -/
def ownCell (i : Nat) : Cell (Site υ α) υ :=
  ⟨fun s => s.own i, fun x s => { s with own := Function.update s.own i x }⟩

/-- Opens a session for an errand. -/
def openFor (i : Nat) (s : Site υ α) : Site υ α :=
  ({ s with opened := Function.update s.opened i (s.opened i + 1) } : Site υ α).note i
    (.opened (sessionName i (s.opened i)))

/-- An errand has opened a session. -/
def holds (i : Nat) (ref : SessionRef) (s : Site υ α) : Bool :=
  owner ref = i && ref.unpair.2 < s.opened i

end Site

/-- Answers a request of an errand and notes it. Messages that are published, waits and draws are
not noted. -/
def respond (i : Nat) : (request : Request) → Reply → Site υ α → Except Fault request.Answer × Site υ α
  | .openSession, _, s => (.ok (sessionName i (s.opened i)), s.openFor i)
  | .reserve ref, r, s => (r.lent, s.note i (.reserved ref r.lent))
  | .execute ref c statement, r, s =>
    (r.carriedOut, s.note i (.executed ref c statement r.carriedOut))
  | .release ref c, r, s => (r.carriedOut, s.note i (.released ref c r.carriedOut))
  | .publish _, r, s => (r.published, s)
  | .pause _, _, s => (.ok (), s)
  | .draw, r, s => (.ok r.drawn, s)
  | .sleep _, _, s => (.ok (), s)
  | .consult question, r, s => (r.advice, s.note i (.consulted question r.advice))

/-! ## The program -/

/-- How the program is set up, and what the clock shows. -/
structure Setting (υ α : Type) where
  /-- The identifier of a session. -/
  label : SessionRef → Text
  clock : Site υ α → Time
  /-- A clock shows moments that have a date. -/
  dated : ∀ s, (clock s).hasDate = true
  publishAttempts : Number
  registryRef : RegistryRef

namespace Setting

variable (T : Setting υ α)

/-- Makes a request. -/
def asking (request : Request) : Program Calls (Site υ α) request.Answer :=
  .ask request .done

/-- Where entries are written. -/
def journal : Journal (Site υ α) :=
  ⟨⟨Site.log, fun log s => { s with log }⟩, T.clock⟩

/-- The publisher. -/
def publisher : Publisher Calls (Site υ α) where
  journal := T.journal
  maxAttempts := T.publishAttempts
  publish message := asking (.publish message)
  sleep ms := asking (.pause ms)
  deadLetters := ⟨Site.deadLetters, fun deadLetters s => { s with deadLetters }⟩

/-- A session. What it hands over is noted before the publisher gets it. -/
def session (ref : SessionRef) : Session Calls (Site υ α) where
  id := T.label ref
  state := Site.sessionCell ref
  journal := T.journal
  reserve := asking (.reserve ref)
  execute c statement := asking (.execute ref c statement)
  release c := asking (.release ref c)
  handOver messages := do
    .change (Site.note (owner ref) (.handedOver ref messages))
    T.publisher.flush (Journal.field "sessionId" (T.label ref)) messages

/-- The registry, which all errands share. -/
def registry : Registry Calls (Site υ α) where
  ref := T.registryRef
  journal := T.journal
  create := asking .openSession
  session := T.session

/-- What an errand works on. -/
def ground (i : Nat) : Ground Calls (Site υ α) υ α where
  registry := T.registry
  own := Site.ownCell i
  holds := Site.holds i
  consult question := asking (.consult question)
  draw := asking .draw
  sleep ms := asking (.sleep ms)
  note n := Site.note i (.noted n)

/-- An errand that starts outside every scope. -/
def program (i : Nat) (errand : Errand υ α) : Program Calls (Site υ α) α :=
  errand.play (T.ground i) []

end Setting

/-! ## Turns -/

/-- An errand that makes a step, and what its request is answered with if that is one. -/
structure Turn where
  who : Nat
  reply : Reply

/-- Errands that go on side by side. -/
abbrev Errands (υ α : Type) := Crowd Calls (Site υ α) α Nat

/-- One errand makes one step. -/
def move (c : Errands υ α) (t : Turn) : Errands υ α :=
  match c.programs t.who with
  | .done _ => c
  | .act update next => ⟨update c.state, Function.update c.programs t.who (next c.state)⟩
  | .ask request next =>
    let a := respond t.who request t.reply c.state
    ⟨a.2, Function.update c.programs t.who (next a.1)⟩

/-- Errands take turns. -/
def moves (c : Errands υ α) (turns : List Turn) : Errands υ α :=
  turns.foldl move c

/-- Errands that start side by side. -/
def Setting.start (T : Setting υ α) (errands : Nat → Errand υ α) (own : Nat → υ) : Errands υ α :=
  ⟨{ own }, fun i => T.program i (errands i)⟩

/-- Errands that have started side by side and taken turns. -/
def Setting.sideBySide (T : Setting υ α) (errands : Nat → Errand υ α) (own : Nat → υ)
    (turns : List Turn) : Errands υ α :=
  moves (T.start errands own) turns

/-- What answers the requests of an errand that is alone. -/
def alone (i : Nat) (oracle : Site υ α → Request → Reply) : Server Calls (Site υ α) :=
  fun request s => respond i request (oracle s request) s

/-- An errand that runs alone: its outcome and the site that it leaves. -/
def Setting.byItself (T : Setting υ α) (i : Nat) (errand : Errand υ α) (own : Nat → υ)
    (oracle : Site υ α → Request → Reply) : Except Fault α × Site υ α :=
  (T.program i errand).run (alone i oracle) { own }

section

variable (c : Errands υ α) {i : Nat} (reply : Reply)

/-- In a turn an errand may change the state. -/
theorem move_act {update : Site υ α → Site υ α} {next : Site υ α → Program Calls (Site υ α) α}
    (h : c.programs i = .act update next) :
    move c ⟨i, reply⟩ = ⟨update c.state, Function.update c.programs i (next c.state)⟩ := by
  simp only [move, h]

/-- In a turn an errand may make a request, which is answered. -/
theorem move_ask {request : Request}
    {next : Except Fault request.Answer → Program Calls (Site υ α) α}
    (h : c.programs i = .ask request next) :
    move c ⟨i, reply⟩ = ⟨(respond i request reply c.state).2,
      Function.update c.programs i (next (respond i request reply c.state).1)⟩ := by
  simp only [move, h]

/-- Turns of others leave an errand where it is. -/
theorem move_of_ne {t : Turn} (h : i ≠ t.who) : (move c t).programs i = c.programs i := by
  unfold move
  split
  · rfl
  · exact Function.update_of_ne h _ _
  · exact Function.update_of_ne h _ _

include reply in
/-- Up to its next request an errand gets there step by step. -/
theorem exists_moves_halted (p : Program Calls (Site υ α) α) (s : Site υ α)
    (programs : Nat → Program Calls (Site υ α) α) :
    ∃ turns : List Turn, (∀ t ∈ turns, t.who = i)
      ∧ moves ⟨s, Function.update programs i p⟩ turns
        = ⟨(Program.halted (p.advance s)).2,
            Function.update programs i (Program.halted (p.advance s)).1⟩ := by
  induction p generalizing s with
  | done outcome => exact ⟨[], by simp, rfl⟩
  | ask request next _ => exact ⟨[], by simp, rfl⟩
  | act update next ih =>
    obtain ⟨turns, hturns, hmoves⟩ := ih s (update s)
    refine ⟨⟨i, reply⟩ :: turns, by simpa using hturns, ?_⟩
    have hmove := move_act ⟨s, Function.update programs i (.act update next)⟩ reply
      (Function.update_self i _ _)
    rw [moves, List.foldl_cons, hmove, Function.update_idem]
    exact hmoves

/-- A turn that is not interrupted up to the next request is a row of steps. -/
theorem exists_moves_turn :
    ∃ turns : List Turn, (∀ t ∈ turns, t.who = i)
      ∧ moves c turns = c.turn (alone i fun _ _ => reply) i := by
  cases hp : c.programs i with
  | done outcome =>
    refine ⟨[], by simp, ?_⟩
    simp only [moves, List.foldl_nil, Crowd.turn, hp, Program.turn]
    rw [← hp, Function.update_eq_self]
  | act update next =>
    obtain ⟨turns, hturns, hmoves⟩ :=
      exists_moves_halted (i := i) reply (next c.state) (update c.state) c.programs
    refine ⟨⟨i, reply⟩ :: turns, by simpa using hturns, ?_⟩
    rw [moves, List.foldl_cons, move_act c reply hp, Crowd.turn, hp]
    exact hmoves
  | ask request next =>
    obtain ⟨turns, hturns, hmoves⟩ := exists_moves_halted (i := i) reply
      (next (respond i request reply c.state).1) (respond i request reply c.state).2 c.programs
    refine ⟨⟨i, reply⟩ :: turns, by simpa using hturns, ?_⟩
    rw [moves, List.foldl_cons, move_ask c reply hp, Crowd.turn, hp]
    exact hmoves

end

end UnitOfWork.Apart
