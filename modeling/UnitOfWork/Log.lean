import UnitOfWork.Fault
import UnitOfWork.Time

/-!
# The log

A log entry is one line: an object with time, level and message, which the fields of the entry may
override. Entries below the lowest level are dropped; an entry goes to the error stream exactly if
its final level is `error`. Writing an entry fails at a moment that has no date.

A level may be any text. The four levels rank in their order. Twelve reserved names are in the table
of ranks too; they rank among themselves only, so a log set to one of them writes no entry of the
four levels. Any other text has no rank.
-/

namespace UnitOfWork

/-- The four levels. -/
inductive Level where
  | debug
  | info
  | warn
  | error
  deriving DecidableEq

namespace Level

/-- The name of a level. -/
def name : Level → Text
  | debug => "debug"
  | info => "info"
  | warn => "warn"
  | error => "error"

/-- All levels, from the lowest. -/
def all : List Level :=
  [debug, info, warn, error]

/-- The level of a name. -/
def ofName? (name : Text) : Option Level :=
  all.find? (·.name = name)

/-- The place of a level. -/
def rank : Level → Nat
  | debug => 0
  | info => 1
  | warn => 2
  | error => 3

end Level

/-- The rank of a level name: the place of a level, or the word a reserved name is ranked by. -/
inductive Rank where
  | place (n : Nat)
  | word (t : Text)
  deriving DecidableEq

namespace Rank

/-- The reserved names that are ranked by another word than themselves, and that word. -/
def renamed : List (Text × Text) :=
  [("constructor", "Object"), ("__proto__", "")]

/-- The reserved names that are ranked by themselves. -/
def reserved : List Text :=
  ["__defineGetter__", "__defineSetter__", "__lookupGetter__", "__lookupSetter__", "hasOwnProperty",
    "isPrototypeOf", "propertyIsEnumerable", "toLocaleString", "toString", "valueOf"]

/-- The rank of a level name. -/
def of? (name : Text) : Option Rank :=
  match Level.ofName? name with
  | some level => some (place level.rank)
  | none =>
    match renamed.find? (·.1 = name) with
    | some (_, t) => some (word t)
    | none => if reserved.contains name then some (word name) else none

/-- A rank that is at least another; a place and a word do not compare. -/
def atLeast : Rank → Rank → Bool
  | place m, place n => n ≤ m
  | word s, word t => Text.le t s
  | _, _ => false

end Rank

/-- What was written: an entry, or a plain text for the operator on the error stream. -/
inductive LogLine where
  | entry (members : Json.Members)
  | hint (text : Text)

namespace LogLine

/-- What is written on the stream. -/
def text : LogLine → Text
  | entry members => Json.print (.obj members) ++ "\n"
  | hint t => t

/-- The line is written on the error stream. -/
def toErrorStream : LogLine → Bool
  | entry members =>
    match members.get? "level" with
    | some (.str level) => level = Level.error.name
    | _ => false
  | hint _ => true

end LogLine

/-- The log: the lowest level that is written and the lines written so far. -/
structure Log where
  lowest : Text := Level.info.name
  lines : List LogLine := []

namespace Log

/-- A name that is in the table of ranks. -/
def isLevel (name : Text) : Bool :=
  (Rank.of? name).isSome

/-- The lowest level at the start: the one asked for if it is in the table of ranks, else `info`. -/
def initialLowest (wanted : Option Text) : Text :=
  match wanted with
  | some name => if isLevel name then name else Level.info.name
  | none => Level.info.name

/-- An entry of this level is written. -/
def writes (log : Log) (level : Text) : Bool :=
  match Rank.of? level, Rank.of? log.lowest with
  | some r, some s => r.atLeast s
  | _, _ => false

/-- The members of an entry: time, level and message, overridden in place by the fields. -/
def entry (stamp level message : Text) (fields : Json.Members) : Json.Members :=
  (Json.Members.putAll
    [("timestamp", .str stamp), ("level", .str level), ("message", .str message)] fields).ordered

/-- The fault of writing an entry at a moment that has no date. -/
def noDate : Fault :=
  .named "RangeError" "Invalid time value"

/-- Writes an entry of a level given by name. What is below the lowest level needs no date. -/
def writeAs (now : Time) (level message : Text) (fields : Json.Members) (log : Log) :
    Except Fault Log :=
  if log.writes level then
    match now.stamp? with
    | some stamp =>
      .ok { log with lines := log.lines ++ [.entry (entry stamp level message fields)] }
    | none => .error noDate
  else .ok log

/-- Writes an entry. -/
def write (now : Time) (level : Level) (message : Text) (fields : Json.Members) (log : Log) :
    Except Fault Log :=
  log.writeAs now level.name message fields

/-- At a moment that has a date an entry can be written. -/
theorem exists_write {now : Time} (h : now.hasDate = true) (level : Level) (message : Text)
    (fields : Json.Members) (log : Log) : ∃ log', log.write now level message fields = .ok log' := by
  unfold write writeAs
  split
  · rw [Time.stamp?, if_pos h]
    exact ⟨_, rfl⟩
  · exact ⟨_, rfl⟩

/-- Writes a plain text for the operator. -/
def tell (text : Text) (log : Log) : Log :=
  { log with lines := log.lines ++ [.hint text] }

end Log

end UnitOfWork
