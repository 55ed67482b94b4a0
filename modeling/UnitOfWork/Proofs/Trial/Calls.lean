import UnitOfWork.Proofs.Trial.Flush

/-!
# What a session's operations do

`Does` says everything that an operation of a session can do: the events it adds to the session's
history, whether it fails, and the state it leaves, for every way in which its requests may end.
`Desk.Takes` says that nothing else on the desk is touched. Properties of all runs are proved by
going through the cases of `Does`.
-/

namespace UnitOfWork

/-- A transaction is active only on a connection that the session holds. -/
def SessionState.Sound (s : SessionState) : Prop :=
  s.transaction = .active → ∃ c, s.connection = some c

/-- A connection is active where a transaction is, and it is the one that is held. -/
theorem SessionState.activeConnection?_eq_some {s : SessionState} {c : Connection}
    (h : s.activeConnection? = some c) : s.transaction = .active ∧ s.connection = some c := by
  simpa [activeConnection?] using h

/-- Without an active connection there is no active transaction. -/
theorem SessionState.Sound.idle {s : SessionState} (hs : s.Sound)
    (h : s.activeConnection? = none) : s.transaction ≠ .active := by
  intro ha
  obtain ⟨c, hc⟩ := hs ha
  simp [activeConnection?, ha, hc] at h

/-- A session without a connection has no active transaction. -/
theorem SessionState.Sound.idle_of_bare {s : SessionState} (hs : s.Sound) (h : s.connection = none) :
    s.transaction ≠ .active :=
  hs.idle (by simp [activeConnection?, h])

namespace Trial

variable {υ α : Type}

/-! ## What is handed over and what is taken -/

/-- The batch that is handed over in an event. -/
def SessionEvent.batch? : SessionEvent → Option (List Message)
  | handedOver messages => some messages
  | _ => none

/-- The batches that are handed over, in order. -/
def batches (history : List SessionEvent) : List (List Message) :=
  history.filterMap SessionEvent.batch?

@[simp] theorem batches_nil : batches [] = [] := rfl

/-- The batches of two histories are those of both. -/
@[simp] theorem batches_append (h h' : List SessionEvent) :
    batches (h ++ h') = batches h ++ batches h' :=
  List.filterMap_append

/-- The connection that a session takes in an event. -/
def SessionEvent.taken? : SessionEvent → Option Connection
  | reserved (.ok c) => some c
  | _ => none

/-- The connections that a session took, in order. -/
def taken (history : List SessionEvent) : List Connection :=
  history.filterMap SessionEvent.taken?

@[simp] theorem taken_nil : taken [] = [] := rfl

/-- The connections taken in two histories are those of both. -/
@[simp] theorem taken_append (h h' : List SessionEvent) : taken (h ++ h') = taken h ++ taken h' :=
  List.filterMap_append

/-- An event takes a connection or none, and the rest takes its own. -/
@[simp] theorem taken_cons (e : SessionEvent) (h : List SessionEvent) :
    taken (e :: h) = e.taken?.toList ++ taken h := by
  cases he : e.taken? <;> simp [taken, he]

/-- Messages that are handed over; of an empty outbox there are none. -/
def handing (messages : List Message) : List SessionEvent :=
  if messages.isEmpty then [] else [.handedOver messages]

/-- Handing messages over hands over those messages. -/
theorem flatten_batches_handing (messages : List Message) :
    (batches (handing messages)).flatten = messages := by
  cases messages <;> simp [handing, batches, SessionEvent.batch?]

/-! ## The cases of an operation -/

/-- How a session comes to hold a connection. -/
inductive Attaches (s : SessionState) : List SessionEvent → Connection → SessionState → Prop where
  | kept {c : Connection} (h : s.connection = some c) : Attaches s [] c s
  | borrowed {c : Connection} (h : s.connection = none) :
      Attaches s [.reserved (.ok c)] c (s.withConnection (some c))

/-- What asking a session for its connection does. -/
inductive Connects (s : SessionState) :
    List SessionEvent → Except Fault Connection → SessionState → Prop where
  | closed {f : Fault} (h : s.closed = true) : Connects s [] (.error f) s
  | refused {f : Fault} (ho : s.closed = false) (h : s.connection = none) :
      Connects s [.reserved (.error f)] (.error f) s
  | kept {c : Connection} (ho : s.closed = false) (h : s.connection = some c)
      (ha : s.transaction = .active) : Connects s [] (.ok c) s
  | stuck {block : List SessionEvent} {c : Connection} {s₁ : SessionState} {f : Fault}
      (ho : s.closed = false) (h : Attaches s block c s₁) (hi : s.transaction ≠ .active) :
      Connects s (block ++ [.executed c (.begin s.isolation) (some f)]) (.error f) s₁
  | began {block : List SessionEvent} {c : Connection} {s₁ : SessionState}
      (ho : s.closed = false) (h : Attaches s block c s₁) (hi : s.transaction ≠ .active) :
      Connects s (block ++ [.executed c (.begin s.isolation) none]) (.ok c)
        (s₁.withTransaction .active).dropMessages

/-- What an operation of a session does: its events, its fault and the state that it leaves. -/
inductive Does (s : SessionState) :
    SessionCall → List SessionEvent → Option Fault → SessionState → Prop where
  | barred {call : SessionCall} {f : Fault} (h : s.closed = true) (hc : call ≠ .close) :
      Does s call [] (some f) s
  | isolated {level : Isolation} (ho : s.closed = false) (hi : s.transaction ≠ .active) :
      Does s (.setIsolation level) [] none { s with isolation := level }
  | notIsolated {level : Isolation} {f : Fault} (ho : s.closed = false)
      (ha : s.transaction = .active) : Does s (.setIsolation level) [] (some f) s
  | connected {block : List SessionEvent} {r : Except Fault Connection} {s' : SessionState}
      (h : Connects s block r s') : Does s .connection block (Fault.of? r) s'
  | queried {text : Text} {block : List SessionEvent} {c : Connection} {s' : SessionState}
      {f : Option Fault} (h : Connects s block (.ok c) s') :
      Does s (.query text) (block ++ [.executed c (.other text) f]) f s'
  | notQueried {text : Text} {block : List SessionEvent} {f : Fault} {s' : SessionState}
      (h : Connects s block (.error f) s') : Does s (.query text) block (some f) s'
  | queued {channel body : Text} {message : Option Json} (ho : s.closed = false)
      (hb : Session.body? message = some body) :
      Does s (.queueMessage channel message) [] none
        { s with outbox := s.outbox.queue ⟨channel, body⟩ }
  | notQueued {channel : Text} {message : Option Json} {f : Fault} (ho : s.closed = false)
      (hb : Session.body? message = none) : Does s (.queueMessage channel message) [] (some f) s
  | notCommitted {c : Connection} {f : Fault} (ho : s.closed = false)
      (hc : s.activeConnection? = some c) :
      Does s .commit [.executed c .commit (some f)] (some f)
        (s.withTransaction .rolledBack).dropMessages
  | committed {c : Connection} {f : Option Fault} (ho : s.closed = false)
      (hc : s.activeConnection? = some c) :
      Does s .commit ([.executed c .commit none, .released c f] ++ handing s.outbox.entries) none
        ((s.withTransaction .committed).withConnection none).dropMessages
  | flushed (ho : s.closed = false) (hc : s.activeConnection? = none) :
      Does s .commit (handing s.outbox.entries) none (s.withTransaction .committed).dropMessages
  | rolledBack {c : Connection} {f : Option Fault} (ho : s.closed = false)
      (hc : s.activeConnection? = some c) :
      Does s .rollback [.executed c .rollback f] f (s.dropMessages.withTransaction .rolledBack)
  | cleared (ho : s.closed = false) (hc : s.activeConnection? = none) :
      Does s .rollback [] none s.dropMessages
  | closedAgain (h : s.closed = true) : Does s .close [] none s
  | closedBare (ho : s.closed = false) (hc : s.connection = none) : Does s .close [] none s.shut
  | closedIdle {c : Connection} {f : Option Fault} (ho : s.closed = false)
      (hc : s.connection = some c) (hi : s.transaction ≠ .active) :
      Does s .close [.released c f] none (s.shut.withConnection none)
  | closedActive {c : Connection} {f g : Option Fault} (ho : s.closed = false)
      (hc : s.connection = some c) (ha : s.transaction = .active) :
      Does s .close [.executed c .rollback f, .released c g] none (s.shut.withConnection none)

/-! ## What else changes -/

/-- The second desk follows the first by a block of one session's events, which leaves that session
in a new state. Connections that are handed out are new; besides the block there are only the
deliveries of the batches in it. -/
structure Desk.Takes (ref : SessionRef) (block : List SessionEvent) (s : SessionState)
    (d d' : Desk υ) : Prop where
  sessions : d'.sessions = Function.update d.sessions ref s
  opened : d'.opened = d.opened
  connections : d.connections ≤ d'.connections
  fresh : ∀ c ∈ taken block, d.connections < c.number ∧ c.number ≤ d'.connections
  ordered : (taken block).Pairwise (fun c c' => c.number < c'.number)
  history : ∃ more, d'.history = d.history ++ more ∧ sessionEvents ref more = block ∧
    ∀ e ∈ more, (∃ e', e = .session ref e') ∨ e.Delivers (batches block).flatten

namespace Desk.Takes

variable {ref : SessionRef} {b b' : List SessionEvent} {s s' : SessionState} {d d₁ d₂ : Desk υ}

/-- A session that goes through nothing leaves the desk as it is. -/
theorem refl (d : Desk υ) (ref : SessionRef) : d.Takes ref [] (d.sessions ref) d :=
  ⟨(Function.update_eq_self ref d.sessions).symm, rfl, Nat.le_refl _, by simp, by simp, [], by simp⟩

/-- What one session goes through in two parts it goes through. -/
theorem trans (h : d.Takes ref b s d₁) (h' : d₁.Takes ref b' s' d₂) :
    d.Takes ref (b ++ b') s' d₂ := by
  obtain ⟨more, hmore, hblock, hall⟩ := h.history
  obtain ⟨more', hmore', hblock', hall'⟩ := h'.history
  refine ⟨?_, h'.opened.trans h.opened, Nat.le_trans h.connections h'.connections, ?_, ?_,
    more ++ more', ?_, ?_, ?_⟩
  · rw [h'.sessions, h.sessions, Function.update_idem]
  · intro c hc
    rw [taken_append] at hc
    rcases List.mem_append.1 hc with hc | hc
    · have := h.fresh c hc
      have := h'.connections
      omega
    · have := h'.fresh c hc
      have := h.connections
      omega
  · rw [taken_append, List.pairwise_append]
    exact ⟨h.ordered, h'.ordered, fun c hc c' hc' =>
      Nat.lt_of_le_of_lt (h.fresh c hc).2 (h'.fresh c' hc').1⟩
  · rw [hmore', hmore, List.append_assoc]
  · rw [sessionEvents_append, hblock, hblock']
  · intro e he
    rcases List.mem_append.1 he with he | he
    · refine (hall e he).imp_right fun hd => hd.mono ?_
      simp
    · refine (hall' e he).imp_right fun hd => hd.mono ?_
      simp

/-- The session is left in the new state. -/
theorem session_eq (h : d.Takes ref b s d₁) : d₁.sessions ref = s := by
  rw [h.sessions, Function.update_self]

/-- Other sessions are left as they are. -/
theorem session_of_ne (h : d.Takes ref b s d₁) {r : SessionRef} (hr : r ≠ ref) :
    d₁.sessions r = d.sessions r := by
  rw [h.sessions, Function.update_of_ne hr]

/-- The session that made a step has its events behind the earlier ones. -/
theorem eventsOf_eq (h : d.Takes ref b s d₁) : d₁.eventsOf ref = d.eventsOf ref ++ b := by
  obtain ⟨more, hmore, hblock, -⟩ := h.history
  rw [Desk.eventsOf, hmore, sessionEvents_append, hblock, Desk.eventsOf]

/-- The other sessions have no more events than before. -/
theorem eventsOf_of_ne (h : d.Takes ref b s d₁) {r : SessionRef} (hr : r ≠ ref) :
    d₁.eventsOf r = d.eventsOf r := by
  obtain ⟨more, hmore, -, hall⟩ := h.history
  have hnil : sessionEvents r more = [] := by
    refine List.filterMap_eq_nil_iff.2 fun e he => ?_
    rcases hall e he with ⟨e', rfl⟩ | hd
    · exact Event.of?_session_of_ne (Ne.symm hr) e'
    · exact hd.of?_eq_none r
  rw [Desk.eventsOf, hmore, sessionEvents_append, hnil, List.append_nil, Desk.eventsOf]

/-- A block without new connections, noted as it is. -/
theorem after (d : Desk υ) {ref : SessionRef} {block : List SessionEvent} (s : SessionState)
    (log : Log) (h : taken block = []) :
    d.Takes ref block s (d.after ref s block log d.connections) :=
  ⟨rfl, rfl, Nat.le_refl _, by simp [h], by simp [h], block.map (.session ref), rfl,
    sessionEvents_map_session ref block, fun _ he => .inl (by
      obtain ⟨e', -, rfl⟩ := List.mem_map.1 he
      exact ⟨e', rfl⟩)⟩

/-- A block with the next connection, noted as it is. -/
theorem afterHandOut (d : Desk υ) {ref : SessionRef} {block : List SessionEvent} (s : SessionState)
    (log : Log) (h : taken block = [⟨d.connections + 1⟩]) :
    d.Takes ref block s (d.after ref s block log (d.connections + 1)) := by
  refine ⟨rfl, rfl, Nat.le_succ _, fun c hc => ?_, by simp [h], block.map (.session ref), rfl,
    sessionEvents_map_session ref block, fun _ he => .inl ?_⟩
  · rw [h, List.mem_singleton] at hc
    rw [hc]
    exact ⟨Nat.lt_succ_self _, Nat.le_refl _⟩
  · obtain ⟨e', -, rfl⟩ := List.mem_map.1 he
    exact ⟨e', rfl⟩

/-- A state that was passed through on the way does not matter. -/
theorem of_after (h : d.Takes ref b s d₁) (s₀ : SessionState) (log : Log) :
    (d.after ref s₀ [] log d.connections).Takes ref b s d₁ := by
  refine ⟨?_, h.opened, h.connections, h.fresh, h.ordered, by simpa using h.history⟩
  rw [h.sessions, Desk.after, Function.update_idem]

/-- An event that is noted and no more. -/
theorem note (d : Desk υ) (ref : SessionRef) {e : SessionEvent} (h : e.taken? = none) :
    d.Takes ref [e] (d.sessions ref) (d.note (.session ref e)) := by
  rw [Desk.note_session]
  exact .after d _ d.log (by simp [h])

/-- A batch that is handed over, with its delivery. -/
theorem handedOver {messages : List Message}
    (h : (d.note (.session ref (.handedOver messages))).Delivered messages d₁) :
    d.Takes ref [.handedOver messages] (d.sessions ref) d₁ := by
  obtain ⟨more, hmore, hdel⟩ := h.history
  refine ⟨h.sessions.trans (Function.update_eq_self ref d.sessions).symm, h.opened,
    Nat.le_of_eq h.connections.symm, by simp [SessionEvent.taken?],
    by simp [SessionEvent.taken?], .session ref (.handedOver messages) :: more, ?_, ?_, ?_⟩
  · rw [hmore, Desk.note, List.append_assoc]
    rfl
  · have hnil : sessionEvents ref more = [] :=
      List.filterMap_eq_nil_iff.2 fun e he => (hdel e he).of?_eq_none ref
    rw [← List.singleton_append, sessionEvents_append, hnil]
    simp [sessionEvents]
  · intro e he
    rcases List.mem_cons.1 he with rfl | he
    · exact .inl ⟨_, rfl⟩
    · refine .inr ((hdel e he).mono ?_)
      simp [batches, SessionEvent.batch?]

end Desk.Takes

end Trial

end UnitOfWork
