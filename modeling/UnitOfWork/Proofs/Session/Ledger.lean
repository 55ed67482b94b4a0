import Mathlib.Data.List.Basic
import UnitOfWork.Proofs.Trial.Playing

/-!
# What becomes of a message

A message that is queued waits for the event that decides about it. While a transaction is active
that is the end of the transaction or a failed body of a savepoint; while none is, it is the next
BEGIN, call of `commit`, `rollback` or `close`, or failed body. `Delivers` says that the deciding
event is one that delivers, and `handsOver` collects what an event delivers. `Ledger` carries these
notions along a history, one event after another.
-/

namespace UnitOfWork.Trial

/-! ## Events that decide -/

namespace SessionEvent

/-- The message that is queued in an event. -/
def queued? : SessionEvent → Option Message
  | settled (.queueMessage channel message) none => (Session.body? message).map (⟨channel, ·⟩)
  | _ => none

/-- Whether a transaction is active after an event that decides so. -/
def turn? : SessionEvent → Option Bool
  | executed _ (.begin _) none => some true
  | executed _ .commit _ | executed _ .rollback _ => some false
  | _ => none

/-- The event decides about messages that were queued while a transaction was active, or while none
was. -/
def decides (active : Bool) : SessionEvent → Bool
  | executed _ .commit _ | executed _ .rollback _ => active
  | executed _ (.begin _) none => !active
  | called .commit | called .rollback | called .close => !active
  | bodyEnded (some _) => true
  | _ => false

/-- The event decides for delivery: a COMMIT that succeeds, or a call of `commit` while no
transaction is active. -/
def delivers (active : Bool) : SessionEvent → Bool
  | executed _ .commit none => active
  | called .commit => !active
  | _ => false

/-- What delivers decides. -/
theorem decides_of_delivers {active : Bool} {e : SessionEvent} (h : e.delivers active = true) :
    e.decides active = true := by
  cases e with
  | executed c statement f =>
    cases statement with
    | commit => cases f <;> simp_all [delivers, decides]
    | _ => simp [delivers] at h
  | called call =>
    cases call with
    | commit => exact h
    | _ => simp [delivers] at h
  | _ => simp [delivers] at h

end SessionEvent

/-! ## Messages and events by their place -/

/-- A transaction is active: of the statements that begin or end one, the last began it. -/
def activeAfter (history : List SessionEvent) : Bool :=
  history.foldl (fun active e => e.turn?.getD active) false

/-- No event between two places decides about a message that is queued at the first. -/
def Undecided (history : List SessionEvent) (i j : Nat) : Prop :=
  ∀ k < j, i < k → history[k]?.any (·.decides (activeAfter (history.take i))) = false

instance (history : List SessionEvent) (i j : Nat) : Decidable (Undecided history i j) :=
  inferInstanceAs (Decidable (∀ k < j, _))

/-- Of the events after place `i`, the one at `j` is the first that decides about a message queued
at `i`, and it decides for delivery. -/
def Delivers (history : List SessionEvent) (i j : Nat) : Prop :=
  i < j ∧ history[j]?.any (·.delivers (activeAfter (history.take i))) = true ∧ Undecided history i j

instance (history : List SessionEvent) (i j : Nat) : Decidable (Delivers history i j) :=
  inferInstanceAs (Decidable (_ ∧ _ ∧ _))

/-- The messages that the event at a place delivers, in the order in which they were queued. -/
def handsOver (history : List SessionEvent) (j : Nat) : List Message :=
  (List.range j).filterMap fun i =>
    if Delivers history i j then history[i]?.bind SessionEvent.queued? else none

/-- A message is delivered by one event at most. -/
theorem Delivers.unique {history : List SessionEvent} {i j j' : Nat} (h : Delivers history i j)
    (h' : Delivers history i j') : j = j' := by
  have key : ∀ {j j'}, Delivers history i j → Delivers history i j' → ¬ j < j' := by
    intro j j' h h' hlt
    obtain ⟨e, he, hdel⟩ := (Option.any_eq_true _ _).1 h.2.1
    have hno := h'.2.2 j hlt h.1
    rw [he] at hno
    exact absurd (SessionEvent.decides_of_delivers hdel) (by simpa using hno)
  have := key h h'
  have := key h' h
  omega

/-- What is delivered in a history, event by event. -/
def deliveries (history : List SessionEvent) : List (List Message) :=
  ((List.range history.length).map (handsOver history)).filter (· ≠ [])

/-! ## Messages that wait -/

/-- The message that is queued at a place, if nothing has decided about it yet, with whether it was
queued while a transaction was active. -/
def waitingAt (history : List SessionEvent) (i : Nat) : Option (Bool × Message) :=
  if Undecided history i history.length then
    (history[i]?.bind SessionEvent.queued?).map (activeAfter (history.take i), ·)
  else none

/-- The messages about which nothing has decided yet. -/
def waiting (history : List SessionEvent) : List (Bool × Message) :=
  (List.range history.length).filterMap (waitingAt history)

section

variable (history : List SessionEvent) (e : SessionEvent)

/-- An event turns a transaction on or off, or leaves it. -/
@[simp] theorem activeAfter_snoc :
    activeAfter (history ++ [e]) = e.turn?.getD (activeAfter history) := by
  simp [activeAfter]

/-- What comes later does not decide about what came before. -/
theorem undecided_snoc {i j : Nat} (hi : i ≤ history.length) (hj : j ≤ history.length) :
    Undecided (history ++ [e]) i j ↔ Undecided history i j := by
  refine forall_congr' fun k => imp_congr_right fun hk => imp_congr_right fun _ => ?_
  rw [List.getElem?_append_left (Nat.lt_of_lt_of_le hk hj), List.take_append_of_le_length hi]

/-- The events before a place decide what the event there delivers. -/
theorem handsOver_snoc {j : Nat} (hj : j < history.length) :
    handsOver (history ++ [e]) j = handsOver history j := by
  refine List.filterMap_congr fun i hi => ?_
  have hij : i < j := List.mem_range.1 hi
  have hdel : Delivers (history ++ [e]) i j ↔ Delivers history i j := by
    rw [Delivers, Delivers, List.getElem?_append_left hj, List.take_append_of_le_length (by omega),
      undecided_snoc history e (by omega) (Nat.le_of_lt hj)]
  simp only [hdel, List.getElem?_append_left (Nat.lt_trans hij hj)]

/-- A message is undecided after one more event if it was, and the event does not decide. -/
theorem undecided_succ_snoc {i : Nat} (hi : i < history.length) :
    Undecided (history ++ [e]) i (history.length + 1)
      ↔ Undecided history i history.length ∧ e.decides (activeAfter (history.take i)) = false := by
  rw [← undecided_snoc history e (Nat.le_of_lt hi) (Nat.le_refl _)]
  constructor
  · intro h
    refine ⟨fun k hk => h k (Nat.lt_succ_of_lt hk), ?_⟩
    have hlast := h history.length (Nat.lt_succ_self _) hi
    simpa [List.take_append_of_le_length (Nat.le_of_lt hi)] using hlast
  · rintro ⟨h, hlast⟩ k hk hik
    rcases Nat.lt_succ_iff_lt_or_eq.1 hk with hk | rfl
    · exact h k hk hik
    · simpa [List.take_append_of_le_length (Nat.le_of_lt hi)] using hlast

/-- A message still waits after an event that does not decide about it. -/
theorem waitingAt_snoc {i : Nat} (hi : i < history.length) :
    waitingAt (history ++ [e]) i = (waitingAt history i).filter (fun p => !e.decides p.1) := by
  simp only [waitingAt, List.length_append, List.length_singleton, undecided_succ_snoc history e hi,
    List.getElem?_append_left hi, List.take_append_of_le_length (Nat.le_of_lt hi)]
  by_cases hu : Undecided history i history.length
  · cases hd : e.decides (activeAfter (history.take i)) <;>
      cases history[i]?.bind SessionEvent.queued? <;> simp [hu, hd, Option.filter_some]
  · simp [hu]

/-- What was queued last waits, with whether a transaction was active then. -/
theorem waitingAt_snoc_length :
    waitingAt (history ++ [e]) history.length = e.queued?.map (activeAfter history, ·) := by
  have hu : Undecided (history ++ [e]) history.length (history ++ [e]).length := by
    intro k hk hlt
    rw [List.length_append, List.length_singleton] at hk
    omega
  rw [waitingAt, if_pos hu]
  simp

/-- Of the messages that waited those wait on that an event does not decide about, and behind them
the one that it queues. -/
theorem waiting_snoc :
    waiting (history ++ [e]) = (waiting history).filter (fun p => !e.decides p.1)
      ++ (e.queued?.map (activeAfter history, ·)).toList := by
  rw [waiting, List.length_append, List.length_singleton, List.range_succ, List.filterMap_append,
    waiting, List.filter_filterMap]
  congr 1
  · exact List.filterMap_congr fun i hi => waitingAt_snoc history e (List.mem_range.1 hi)
  · rw [← waitingAt_snoc_length]
    cases h : waitingAt (history ++ [e]) history.length <;> simp [h]

/-- An event delivers those of the waiting messages that it decides about so. -/
theorem handsOver_snoc_length :
    handsOver (history ++ [e]) history.length
      = ((waiting history).filter (fun p => e.delivers p.1)).map Prod.snd := by
  rw [waiting, List.filter_filterMap, List.map_filterMap, handsOver]
  refine List.filterMap_congr fun i hi => ?_
  have hi := List.mem_range.1 hi
  have hdel : Delivers (history ++ [e]) i history.length
      ↔ e.delivers (activeAfter (history.take i)) = true ∧ Undecided history i history.length := by
    rw [Delivers, undecided_snoc history e (Nat.le_of_lt hi) (Nat.le_refl _)]
    simp [hi, List.take_append_of_le_length (Nat.le_of_lt hi)]
  simp only [hdel, waitingAt, List.getElem?_append_left hi]
  by_cases hu : Undecided history i history.length
  · cases hd : e.delivers (activeAfter (history.take i)) <;>
      cases history[i]?.bind SessionEvent.queued? <;> simp [hu, hd, Option.filter_some]
  · simp [hu]

/-- A batch that is handed over unless it is empty. -/
def batchOf (messages : List Message) : List (List Message) :=
  if messages = [] then [] else [messages]

/-- An event delivers the messages that wait for it, in one batch. -/
theorem deliveries_snoc :
    deliveries (history ++ [e]) = deliveries history
      ++ batchOf (((waiting history).filter (fun p => e.delivers p.1)).map Prod.snd) := by
  rw [deliveries, List.length_append, List.length_singleton, List.range_succ, List.map_append,
    List.filter_append, deliveries]
  congr 1
  · congr 1
    exact List.map_congr_left fun j hj => handsOver_snoc history e (List.mem_range.1 hj)
  · rw [List.map_singleton, handsOver_snoc_length, batchOf]
    generalize ((waiting history).filter _).map Prod.snd = messages
    split <;> simp_all

end

/-! ## The ledger -/

/-- What a history says of messages: whether a transaction is active, what waits and what was
delivered. -/
structure Ledger where
  active : Bool
  waiting : List (Bool × Message)
  deliveries : List (List Message)

/-- The ledger of a history. -/
def ledger (history : List SessionEvent) : Ledger :=
  ⟨activeAfter history, waiting history, deliveries history⟩

namespace Ledger

/-- The ledger after one event more. -/
def add (l : Ledger) (e : SessionEvent) : Ledger where
  active := e.turn?.getD l.active
  waiting := l.waiting.filter (fun p => !e.decides p.1) ++ (e.queued?.map (l.active, ·)).toList
  deliveries := l.deliveries ++ batchOf ((l.waiting.filter (fun p => e.delivers p.1)).map Prod.snd)

/-- The ledger while messages wait that were all queued in the same condition. -/
def ofMessages (active : Bool) (messages : List Message) (sent : List (List Message)) : Ledger :=
  ⟨active, messages.map (active, ·), sent⟩

end Ledger

/-- The ledger of a longer history is the ledger before with the event added. -/
theorem ledger_snoc (history : List SessionEvent) (e : SessionEvent) :
    ledger (history ++ [e]) = (ledger history).add e := by
  rw [ledger, activeAfter_snoc, waiting_snoc, deliveries_snoc]
  rfl

/-- The ledger of a history is kept up event by event. -/
theorem ledger_append (history block : List SessionEvent) :
    ledger (history ++ block) = block.foldl Ledger.add (ledger history) := by
  induction block generalizing history with
  | nil => rw [List.append_nil, List.foldl_nil]
  | cons e rest ih =>
    rw [List.append_cons, ih, ledger_snoc, List.foldl_cons]

namespace Ledger

variable (active : Bool) (messages : List Message) (sent : List (List Message))

/-- Messages that were queued in the present condition, after an event that decides about them
all. -/
theorem add_deciding {e : SessionEvent} (hd : e.decides active = true) (hq : e.queued? = none) :
    (ofMessages active messages sent).add e
      = ofMessages (e.turn?.getD active) []
          (sent ++ if e.delivers active then batchOf messages else []) := by
  cases hdel : e.delivers active <;>
    simp [add, ofMessages, hd, hq, hdel, batchOf, List.filter_map, Function.comp_def]

/-- Messages that were queued in the present condition, after an event that decides nothing about
them. -/
theorem add_undeciding {e : SessionEvent} (hd : e.decides active = false) (ht : e.turn? = none)
    (hq : e.queued? = none) :
    (ofMessages active messages sent).add e = ofMessages active messages sent := by
  have hdel : e.delivers active = false := by
    cases h : e.delivers active with
    | false => rfl
    | true => exact absurd (SessionEvent.decides_of_delivers h) (by simp [hd])
  simp [add, ofMessages, hd, hq, ht, hdel, batchOf, List.filter_map, Function.comp_def]

end Ledger

end UnitOfWork.Trial
