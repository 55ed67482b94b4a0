import Mathlib.Data.List.DropRight
import UnitOfWork.Proofs.Overlap.Crowd
import UnitOfWork.Proofs.Trial.Basic

/-!
# Calls on a publisher

Flushes, questions for the dead letters and calls that throw them away share one publisher. They
take turns; a flush waits for the bus, which may fail as it likes, and for the pauses between its
attempts. The dead letters are a place in the state: whatever is added to it is noted as parked, so
that the history and the place can be compared (`records`).
-/

namespace UnitOfWork.Posting

/-- What calls wait for. -/
inductive Request where
  | publish (message : Message)
  /-- A pause between two attempts. -/
  | pause (ms : Number)

/-- The requests of calls on a publisher. None is answered with a value. -/
abbrev Requests : Signature :=
  ⟨Request, fun _ => Unit⟩

/-- A call on a publisher. -/
inductive Call where
  | flush (origin : Json.Members) (entries : List Message)
  | letters
  | clear

/-- What a call answers with. -/
inductive Reply where
  | nothing
  | letters (letters : List DeadLetter)

/-- What happens to a publisher. Calls are named by the elements of a type. -/
inductive Event (ι : Type) where
  /-- A call has its turn. -/
  | turned (i : ι)
  /-- The bus has answered an attempt to publish a message. -/
  | attempted (i : ι) (message : Message) (fault : Option Fault)
  | paused (i : ι) (ms : Number)
  /-- A message was added to the dead letters. -/
  | parked (i : ι) (letter : DeadLetter)
  /-- The dead letters are thrown away. -/
  | cleared (i : ι)

/-- What calls run in: what the bus answers, what the clock shows, and the limit of the publisher.
The answers and the clock may depend on everything that happened. -/
structure Surroundings (ι : Type) where
  fault? : List (Event ι) → Message → Option Fault
  sayable : ∀ history message f, fault? history message = some f → f.Sayable
  clock : List (Event ι) → Time
  /-- A clock shows moments that have a date. -/
  dated : ∀ history, (clock history).hasDate = true
  maxAttempts : Number

/-- Surroundings in which the bus refuses some messages and time stands still. -/
def Surroundings.refusing {ι : Type} (refuses : Message → Bool) (maxAttempts : Number) :
    Surroundings ι where
  fault? _ message := if refuses message then some (.named "Error" "refused") else none
  sayable _ message f h := by
    split at h
    · cases h
      exact Fault.sayable_of_isError rfl
    · cases h
  clock _ := .finite 0
  dated _ := by decide
  maxAttempts

/-- The state that calls share, with what happened so far. -/
structure Desk (ι : Type) where
  log : Log := {}
  deadLetters : List DeadLetter := []
  history : List (Event ι) := []

section

variable {ι : Type}

/-! ## Histories -/

namespace Event

/-- The event is a part of the work of a call. -/
def isOf [DecidableEq ι] (i : ι) : Event ι → Bool
  | attempted j _ _ | paused j _ | parked j _ => j = i
  | turned _ | cleared _ => false

section

variable [DecidableEq ι] (i : ι)

/-- An attempt is an event of the call that makes it. -/
theorem isOf_attempted (message : Message) (fault : Option Fault) :
    (attempted i message fault).isOf i = true := decide_eq_true rfl

/-- A pause is an event of the call that makes it. -/
theorem isOf_paused (ms : Number) : (paused i ms).isOf i = true := decide_eq_true rfl

/-- A message is parked by an event of the call that parks it. -/
theorem isOf_parked (letter : DeadLetter) : (parked i letter).isOf i = true := decide_eq_true rfl

end

/-- A message was published, or parked. -/
def settles : Event ι → Bool
  | attempted _ _ none | parked _ _ => true
  | _ => false

/-- The dead letters are thrown away. -/
def clears : Event ι → Bool
  | cleared _ => true
  | _ => false

/-- The record that was made, if one was. -/
def letter? : Event ι → Option DeadLetter
  | parked _ letter => some letter
  | _ => none

end Event

/-- The work of a call, in order. -/
def own [DecidableEq ι] (i : ι) (history : List (Event ι)) : List (Event ι) :=
  history.filter (Event.isOf i)

/-- The records that were made since the dead letters were last thrown away, in the order of their
making. -/
def records (history : List (Event ι)) : List DeadLetter :=
  (history.rtakeWhile fun e => !e.clears).filterMap Event.letter?

/-- A dead letter is recorded behind the others, and clearing removes them all. -/
theorem records_snoc (history : List (Event ι)) (e : Event ι) :
    records (history ++ [e]) = if e.clears then [] else records history ++ e.letter?.toList := by
  rw [records, List.rtakeWhile_concat]
  cases hclears : e.clears with
  | true => rfl
  | false =>
    rw [Bool.not_false, if_pos rfl, List.filterMap_append, if_neg Bool.false_ne_true]
    cases hletter : e.letter? <;> simp [records, hletter]

section

variable [DecidableEq ι] (i : ι) (history : List (Event ι))

/-- The events of a call in two histories are those of both. -/
@[simp] theorem own_append (block : List (Event ι)) :
    own i (history ++ block) = own i history ++ own i block :=
  List.filter_append ..

variable {i history} in
/-- An event of a call is the last of its own. -/
theorem own_snoc {e : Event ι} (h : e.isOf i = true) : own i (history ++ [e]) = own i history ++ [e] := by
  rw [own_append, own, own, List.filter_singleton, h]
  rfl

/-- A block without work of a call. -/
theorem own_eq_nil {block : List (Event ι)} (h : ∀ e ∈ block, e.isOf i = false) : own i block = [] :=
  List.filter_eq_nil_iff.2 fun e he => by simp [h e he]

end

/-! ## Programs of calls -/

namespace Desk

/-- Adds to the history. -/
def note (e : Event ι) (d : Desk ι) : Desk ι :=
  { d with history := d.history ++ [e] }

/-- The dead letters, for a call: what the call adds to them is noted. -/
def deadLetterCell (i : ι) : Cell (Desk ι) (List DeadLetter) where
  get d := d.deadLetters
  set letters d :=
    { d with
      deadLetters := letters
      history := d.history ++ (letters.drop d.deadLetters.length).map (.parked i) }

/-- A message is added to the dead letters. -/
def park (i : ι) (letter : DeadLetter) (d : Desk ι) : Desk ι :=
  { d with deadLetters := d.deadLetters ++ [letter], history := d.history ++ [.parked i letter] }

/-- Recording a dead letter parks it for the call. -/
theorem deadLetterCell_update_snoc (i : ι) (letter : DeadLetter) (d : Desk ι) :
    (deadLetterCell i).update (· ++ [letter]) d = d.park i letter := by
  simp only [Cell.update, deadLetterCell, List.drop_left, List.map_singleton, park]

/-- Clearing leaves no dead letter. -/
theorem deadLetterCell_update_nil (i : ι) (d : Desk ι) :
    (deadLetterCell i).update (fun _ => []) d = { d with deadLetters := [] } := by
  simp [Cell.update, deadLetterCell]

end Desk

end

namespace Surroundings

variable {ι : Type} (w : Surroundings ι)

/-- Where entries are written. -/
def journal : Journal (Desk ι) :=
  ⟨⟨Desk.log, fun log d => { d with log }⟩, fun d => w.clock d.history⟩

/-- The publisher, for a call. -/
def publisher (i : ι) : Publisher Requests (Desk ι) where
  journal := w.journal
  maxAttempts := w.maxAttempts
  publish message := .ask (.publish message) .done
  sleep ms := .ask (.pause ms) .done
  deadLetters := Desk.deadLetterCell i

/-- A call as a program. That dead letters are thrown away is noted right before. -/
def program (i : ι) : Call → Program Requests (Desk ι) Reply
  | .flush origin entries => do
    (w.publisher i).flush origin entries
    return .nothing
  | .letters => do return .letters (← (w.publisher i).letters)
  | .clear => do
    .change (Desk.note (.cleared i))
    (w.publisher i).clear
    return .nothing

/-- Answers the request of a call. A pause always ends. -/
def serve (i : ι) : Server Requests (Desk ι)
  | .publish message, d =>
    let fault := w.fault? d.history message
    (Fault.toResult fault, d.note (.attempted i message fault))
  | .pause ms, d => (.ok (), d.note (.paused i ms))

end Surroundings

/-! ## Turns -/

/-- Calls under way on one publisher. -/
abbrev Traffic (ι : Type) : Type :=
  Crowd Requests (Desk ι) Reply ι

namespace Surroundings

variable {ι : Type} [DecidableEq ι] (w : Surroundings ι)

/-- A call has its turn. -/
def turn (x : Traffic ι) (i : ι) : Traffic ι :=
  Crowd.turn (w.serve i) ⟨x.state.note (.turned i), x.programs⟩ i

/-- Calls have their turns as a schedule says. -/
def play (x : Traffic ι) (schedule : List ι) : Traffic ι :=
  schedule.foldl w.turn x

/-- Calls on a publisher, none of which has begun. -/
def opening (calls : ι → Call) : Traffic ι :=
  ⟨{}, fun i => w.program i (calls i)⟩

end Surroundings

end UnitOfWork.Posting
