import UnitOfWork.Proofs.Session.Ledger

/-!
# Messages are published on commit

The outbox of a session holds the messages that its history says wait, and the batches that it
handed over are the deliveries of its history (`Reachable.ledger_eq`). Hence
`batches_eq_deliveries`: whatever work does, and whichever calls fail, a message is handed over if
and only if the first event that decides about it decides for delivery, in the batch of that event
and in no other. That is so as long as log entries can tell what work throws. A savepoint body that
throws what they cannot tell leaves its messages in the outbox, and in `handedOver_without_text` a
commit hands one of them over.
-/

namespace UnitOfWork.Trial

variable {υ α : Type}

/-- The ledger that a session's state stands for, after some batches were handed over. -/
def Ledger.ofState (s : SessionState) (sent : List (List Message)) : Ledger :=
  .ofMessages (decide (s.transaction = .active)) s.outbox.entries sent

/-- A block of events takes the ledger of one state to that of another, with the batches in it. -/
def Accounts (s : SessionState) (block : List SessionEvent) (s' : SessionState) : Prop :=
  ∀ sent, block.foldl Ledger.add (.ofState s sent) = .ofState s' (sent ++ batches block)

/-! ## Single events -/

section

variable {s : SessionState}

/-- Blocks that account for the messages of a session do so one after the other. -/
theorem Accounts.append {s₁ s₂ : SessionState} {b b' : List SessionEvent} (h : Accounts s b s₁)
    (h' : Accounts s₁ b' s₂) : Accounts s (b ++ b') s₂ := by
  intro sent
  rw [List.foldl_append, h, h', batches_append, List.append_assoc]

/-- Nothing happens, and the state changes in nothing that a ledger is about. -/
theorem Accounts.nil {s' : SessionState} (ht : s'.transaction = .active ↔ s.transaction = .active)
    (hm : s'.outbox.entries = s.outbox.entries) : Accounts s [] s' := by
  intro sent
  simp [Ledger.ofState, ht, hm]

/-- Where nothing happens nothing is to account for. -/
theorem Accounts.refl (s : SessionState) : Accounts s [] s :=
  .nil Iff.rfl rfl

/-- An event that decides nothing about the messages of a session. -/
theorem Accounts.undeciding {e : SessionEvent}
    (hd : e.decides (decide (s.transaction = .active)) = false) (ht : e.turn? = none)
    (hq : e.queued? = none) (hb : e.batch? = none) : Accounts s [e] s := by
  intro sent
  simp only [List.foldl_cons, List.foldl_nil, Ledger.ofState]
  rw [Ledger.add_undeciding _ _ _ hd ht hq]
  simp [batches, hb]

/-- An event in a session in which nothing waits, and which leaves it so. -/
theorem Accounts.of_empty {e : SessionEvent} (hm : s.outbox.entries = []) (ht : e.turn? = none)
    (hq : e.queued? = none) (hb : e.batch? = none) : Accounts s [e] s := by
  intro sent
  simp [Ledger.ofState, Ledger.ofMessages, Ledger.add, hm, ht, hq, batchOf, batches, hb]

/-- An event that decides about the messages of a session, and delivers none. -/
theorem Accounts.dropping {s' : SessionState} {e : SessionEvent}
    (hd : e.decides (decide (s.transaction = .active)) = true)
    (hdel : e.delivers (decide (s.transaction = .active)) = false) (hq : e.queued? = none)
    (hb : e.batch? = none)
    (ht : e.turn?.getD (decide (s.transaction = .active)) = decide (s'.transaction = .active))
    (hm : s'.outbox.entries = []) : Accounts s [e] s' := by
  intro sent
  simp only [List.foldl_cons, List.foldl_nil, Ledger.ofState]
  rw [Ledger.add_deciding _ _ _ hd hq, hdel, ht, hm]
  simp [batches, hb]

/-- Messages that are handed over are one batch, if there are any. -/
@[simp] theorem batches_handing (messages : List Message) :
    batches (handing messages) = batchOf messages := by
  cases messages <;> rfl

/-- A batch that is handed over decides nothing. -/
theorem foldl_handing (s : SessionState) (messages : List Message) (sent : List (List Message)) :
    (handing messages).foldl Ledger.add (.ofState s sent) = .ofState s sent := by
  cases messages with
  | nil => rfl
  | cons m rest => exact Ledger.add_undeciding _ _ _ rfl rfl rfl

/-- An event that delivers the messages of a session, and the batch that follows it, with events
before the batch that decide nothing. -/
theorem Accounts.delivering {s' : SessionState} {e : SessionEvent} {between : List SessionEvent}
    (hdel : e.delivers (decide (s.transaction = .active)) = true) (hq : e.queued? = none)
    (hb : e.batch? = none) (ht : e.turn?.getD (decide (s.transaction = .active)) = false)
    (hbetween : Accounts s' between s') (hnone : batches between = [])
    (hi : s'.transaction ≠ .active) (hm : s'.outbox.entries = []) :
    Accounts s ([e] ++ between ++ handing s.outbox.entries) s' := by
  intro sent
  have hfirst : (Ledger.ofState s sent).add e
      = .ofState s' (sent ++ batchOf s.outbox.entries) := by
    rw [Ledger.ofState, Ledger.add_deciding _ _ _ (SessionEvent.decides_of_delivers hdel) hq, hdel, ht]
    simp [Ledger.ofState, hi, hm]
  rw [List.foldl_append, List.foldl_append, List.foldl_cons, List.foldl_nil, hfirst, hbetween,
    hnone, foldl_handing, batches_append, batches_append, hnone, batches_handing]
  simp [batches, hb]

end

/-! ## Operations -/

/-- Coming to hold a connection decides nothing. -/
theorem Attaches.accounts {s s' : SessionState} {block : List SessionEvent} {c : Connection}
    (h : Attaches s block c s') : Accounts s block s' := by
  cases h with
  | kept h => exact .refl s
  | borrowed h =>
    exact (Accounts.undeciding rfl rfl rfl rfl).append (.nil Iff.rfl rfl)

/-- A transaction that begins drops what waited, and nothing else on the way to a connection
decides. -/
theorem Connects.accounts {s s' : SessionState} {block : List SessionEvent}
    {r : Except Fault Connection} (h : Connects s block r s') : Accounts s block s' := by
  cases h with
  | closed h => exact .refl s
  | refused ho h => exact .undeciding rfl rfl rfl rfl
  | kept ho h ha => exact .refl s
  | stuck ho h hi => exact h.accounts.append (.undeciding rfl rfl rfl rfl)
  | began ho h hi =>
    refine h.accounts.append (.dropping ?_ rfl rfl rfl rfl rfl)
    simp [h.eq, SessionEvent.decides, SessionState.withConnection, hi]

/-- A failed call queues nothing. -/
theorem SessionEvent.queued?_settled_some (call : SessionCall) (f : Fault) :
    (settled call (some f)).queued? = none := by
  cases call <;> rfl

/-- A closed session bars every call; nothing waits in it. -/
theorem Orderly.accounts_of_closed {s : SessionState} (hs : Orderly s) (h : s.closed = true)
    (call : SessionCall) (f : Fault) :
    Accounts s ([.called call] ++ [] ++ [.settled call (some f)]) s :=
  ((Accounts.of_empty (hs.empty_of_closed h) rfl rfl rfl).append (.refl s)).append
    (.undeciding rfl rfl (SessionEvent.queued?_settled_some call f) rfl)

/-- A call that decides nothing by itself and queues nothing. -/
theorem Accounts.inCall {s s' : SessionState} {block : List SessionEvent} (h : Accounts s block s')
    {call : SessionCall} {f : Option Fault}
    (hcall : (SessionEvent.called call).decides (decide (s.transaction = .active)) = false)
    (hq : (SessionEvent.settled call f).queued? = none) :
    Accounts s ([.called call] ++ block ++ [.settled call f]) s' :=
  ((Accounts.undeciding hcall rfl rfl rfl).append h).append (.undeciding rfl rfl hq rfl)

/-- A message that is queued waits behind the others. -/
theorem Accounts.queueing (s : SessionState) {channel body : Text} {message : Option Json}
    (hb : Session.body? message = some body) :
    Accounts s [.settled (.queueMessage channel message) none]
      { s with outbox := s.outbox.queue ⟨channel, body⟩ } := by
  intro sent
  have hq : (SessionEvent.settled (.queueMessage channel message) none).queued?
      = some ⟨channel, body⟩ := by
    simp [SessionEvent.queued?, hb]
  have hd : ∀ active,
      (SessionEvent.settled (.queueMessage channel message) none).decides active = false :=
    fun _ => rfl
  have hdel : ∀ active,
      (SessionEvent.settled (.queueMessage channel message) none).delivers active = false :=
    fun _ => rfl
  have ht : (SessionEvent.settled (.queueMessage channel message) none).turn? = none := rfl
  simp [Ledger.ofState, Ledger.ofMessages, Ledger.add, hq, hd, hdel, ht, batchOf, batches,
    SessionEvent.batch?]

/-- A call takes the ledger of a session's state to that of the state it leaves. -/
theorem Does.accounts {s s' : SessionState} {call : SessionCall} {block : List SessionEvent}
    {f : Option Fault} (h : Does s call block f s') (hs : Orderly s) :
    Accounts s ([.called call] ++ block ++ [.settled call f]) s' := by
  cases h with
  | barred h hc => exact hs.accounts_of_closed h call _
  | isolated ho hi => exact (Accounts.nil Iff.rfl rfl).inCall rfl rfl
  | notIsolated ho ha => exact (Accounts.refl s).inCall rfl rfl
  | connected h => exact h.accounts.inCall rfl rfl
  | queried h => exact (h.accounts.append (.undeciding rfl rfl rfl rfl)).inCall rfl rfl
  | notQueried h => exact h.accounts.inCall rfl rfl
  | queued ho hb =>
    exact ((Accounts.undeciding rfl rfl rfl rfl).append (.refl s)).append (.queueing s hb)
  | notQueued ho hb => exact (Accounts.refl s).inCall rfl rfl
  | notCommitted ho hc =>
    have ha := (SessionState.activeConnection?_eq_some hc).1
    exact (Accounts.dropping (by simp [ha, SessionEvent.decides]) rfl rfl rfl rfl rfl).inCall
      (by simp [ha, SessionEvent.decides]) rfl
  | committed ho hc =>
    have ha := (SessionState.activeConnection?_eq_some hc).1
    have hended : TransactionState.committed ≠ .active := by decide
    exact (Accounts.delivering (by simp [ha, SessionEvent.delivers]) rfl rfl rfl
      (.undeciding rfl rfl rfl rfl) rfl hended rfl).inCall (by simp [ha, SessionEvent.decides]) rfl
  | flushed ho hc =>
    have hi := hs.sound.idle hc
    have hended : TransactionState.committed ≠ .active := by decide
    have hdelivered : Accounts s ([.called .commit] ++ [] ++ handing s.outbox.entries)
        (s.withTransaction .committed).dropMessages :=
      .delivering (by simp [hi, SessionEvent.delivers]) rfl rfl (by simp [hi, SessionEvent.turn?])
        (.refl _) rfl hended rfl
    exact hdelivered.append (.undeciding rfl rfl rfl rfl)
  | rolledBack ho hc =>
    have ha := (SessionState.activeConnection?_eq_some hc).1
    exact (Accounts.dropping (by simp [ha, SessionEvent.decides]) rfl rfl rfl rfl rfl).inCall
      (by simp [ha, SessionEvent.decides]) rfl
  | cleared ho hc =>
    have hi := hs.sound.idle hc
    exact ((Accounts.dropping (by simp [hi, SessionEvent.decides]) rfl rfl rfl rfl rfl).append
      (.refl _)).append (.undeciding rfl rfl rfl rfl)
  | closedAgain h =>
    exact ((Accounts.of_empty (hs.empty_of_closed h) rfl rfl rfl).append (.refl s)).append
      (.undeciding rfl rfl rfl rfl)
  | closedBare ho hc =>
    have hi := hs.sound.idle_of_bare hc
    exact ((Accounts.dropping (by simp [hi, SessionEvent.decides]) rfl rfl rfl
      (by simp [hi, SessionEvent.turn?, SessionState.shut]) rfl).append
        (.refl s.shut)).append (.undeciding rfl rfl rfl rfl)
  | closedIdle ho hc hi =>
    exact ((Accounts.dropping (by simp [hi, SessionEvent.decides]) rfl rfl rfl
      (by simp [hi, SessionEvent.turn?, SessionState.shut, SessionState.withConnection]) rfl).append
        (.undeciding rfl rfl rfl rfl)).append (.undeciding rfl rfl rfl rfl)
  | closedActive ho hc ha =>
    exact ((Accounts.dropping (by simp [ha, SessionEvent.decides]) rfl rfl rfl rfl rfl).append
      (.undeciding rfl rfl rfl rfl)).inCall (by simp [ha, SessionEvent.decides]) rfl

/-- A step without a driver takes the ledger of a session's state to that of the state it leaves. -/
theorem SessionStep.accounts {s s' : SessionState} {a : Action} {block : List SessionEvent}
    (h : SessionStep s a block s') (hs : Orderly s) (hkind : a.Within false) :
    Accounts s block s' := by
  cases h with
  | called hdoes => exact hdoes.accounts hs
  | driven hdoes => cases hkind
  | connected hconn => exact hconn.accounts
  | counted => exact .nil Iff.rfl rfl
  | @executed c statement hplain f =>
    refine .undeciding ?_ ?_ rfl rfl <;> cases statement <;> first | rfl | cases hplain
  | bodyBegan => exact .undeciding rfl rfl rfl rfl
  | bodyReturned => exact .undeciding rfl rfl rfl rfl
  | bodyFailed f => exact .dropping rfl rfl rfl rfl rfl rfl
  | bodyStranded f => exact hkind.elim

/-! ## Whole histories -/

/-- The outbox holds what waits, and what was handed over is what the history says was delivered. -/
theorem Reachable.ledger_eq {s : SessionState} {H : List SessionEvent}
    (h : Reachable (Action.Within false) s H) :
    ledger H = .ofState s (batches H) := by
  induction h with
  | start => rfl
  | step h hstep hkind hfresh ih =>
    rw [ledger_append, ih, hstep.accounts h.orderly hkind, batches_append]

/-- A message is among the deliveries if it was queued somewhere and some event delivers it. -/
theorem mem_flatten_deliveries {H : List SessionEvent} {m : Message} :
    m ∈ (deliveries H).flatten
      ↔ ∃ i j, H[i]?.bind SessionEvent.queued? = some m ∧ Delivers H i j := by
  simp only [deliveries, List.mem_flatten, List.mem_filter, List.mem_map, List.mem_range]
  constructor
  · rintro ⟨_, ⟨⟨j, -, rfl⟩, -⟩, hm⟩
    obtain ⟨i, -, hi⟩ := List.mem_filterMap.1 hm
    rw [Option.ite_none_right_eq_some] at hi
    exact ⟨i, j, hi.2, hi.1⟩
  · rintro ⟨i, j, hq, hdel⟩
    have hm : m ∈ handsOver H j :=
      List.mem_filterMap.2 ⟨i, List.mem_range.2 hdel.1, by rw [if_pos hdel, hq]⟩
    have hj : j < H.length := by
      by_contra hlen
      have := hdel.2.1
      rw [List.getElem?_eq_none (Nat.le_of_not_lt hlen)] at this
      cases this
    exact ⟨_, ⟨⟨j, hj, rfl⟩, decide_eq_true (List.ne_nil_of_mem hm)⟩, hm⟩

/-- Messages are published on commit. In every run of work over sessions that throws nothing but
what log entries can tell, whichever calls fail, a message is handed over if and only if it was
queued somewhere and the first event after that to decide about it decides for delivery. The batches
are what the history delivers, event by event, in queueing order, and no message is in two of
them. -/
theorem batches_eq_deliveries (w : Surroundings) {work : Work υ α} (hwork : work.Sayable) (own : υ)
    (ref : SessionRef) :
    let H := ((work.play w).run w.serve { own := own }).2.eventsOf ref
    (∀ m, m ∈ (batches H).flatten
        ↔ ∃ i j, H[i]?.bind SessionEvent.queued? = some m ∧ Delivers H i j)
      ∧ batches H = ((List.range H.length).map (handsOver H)).filter (· ≠ [])
      ∧ ∀ i j j', Delivers H i j → Delivers H i j' → j = j' := by
  intro H
  have hd := Work.wellFormed w hwork (.start false own)
  have hbatches : batches H = deliveries H :=
    (congrArg Ledger.deliveries (hd.reachable ref).ledger_eq).symm
  refine ⟨fun m => ?_, hbatches, fun i j j' h h' => h.unique h'⟩
  rw [hbatches, mem_flatten_deliveries]

/-- Work that queues a message before a savepoint whose body fails, another after it, and
commits. -/
def orderAgain : Work Unit Unit :=
  .openSession fun ref =>
  .call ref .connection fun _ =>
  .call ref (.queueMessage "orders" (some (.str "first"))) fun _ =>
  .savepoint ref (.done (.error Session.detachedFault)) fun _ =>
  .call ref (.queueMessage "orders" (some (.str "second"))) fun _ =>
  .call ref .commit fun r => .done (r.map fun _ => ())

/-- The work throws nothing but errors. -/
theorem orderAgain_sayable : orderAgain.Sayable := by
  refine fun _ _ _ _ _ => ⟨settles_of_isError rfl, fun _ _ _ _ r hr => ?_⟩
  cases r with
  | ok a => exact settles_ok ()
  | error f => exact hr.rethrown

/-- Of the two messages only the second is handed over. -/
theorem batches_orderAgain :
    batches (((orderAgain.play .calm).run Surroundings.calm.serve { own := () }).2.eventsOf 0)
      = [[⟨"orders", "second"⟩]] := by
  rw [(batches_eq_deliveries .calm orderAgain_sayable () 0).2.1]
  decide +kernel

/-- A savepoint body queues a message and throws what log entries cannot tell; work goes on and
commits. The message is handed over, although no event of the history delivers it. -/
theorem handedOver_without_text :
    let e : Fault := .value (some (.obj [("toString", .ofNat 1)]))
    let work : Work Unit Unit := .openSession fun ref =>
      .savepoint ref
        (.call ref (.queueMessage "chat" (some (.str "hello"))) fun _ => .done (.error e))
        fun _ => .call ref .commit fun r => .done (r.map fun _ => ())
    let H := ((work.play .calm).run Surroundings.calm.serve { own := () }).2.eventsOf 0
    batches H = [[⟨"chat", "hello"⟩]]
      ∧ ¬ ∃ i j, H[i]?.bind SessionEvent.queued? = some ⟨"chat", "hello"⟩ ∧ Delivers H i j := by
  intro e work H
  have hnone : deliveries H = [] := by decide +kernel
  refine ⟨by decide +kernel, fun hdelivers => ?_⟩
  have hmem := mem_flatten_deliveries.2 hdelivers
  rw [hnone] at hmem
  cases hmem

end UnitOfWork.Trial
