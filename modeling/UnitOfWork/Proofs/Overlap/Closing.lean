import UnitOfWork.Proofs.Overlap.Turns
import UnitOfWork.Proofs.Session.Bracketing

/-!
# Closing a session while a call for its connection is under way

A call for the connection looks once whether the session is open, before it waits. Closing acts on
what the session has when it begins. A connection that comes later is not given back, and a
transaction that begins later is not ended: `closed_keepsNothing_iff` says that a closed session
keeps nothing exactly if, from the turn in which closing begins, no connection comes and no
transaction begins.
-/

namespace UnitOfWork.Trial

variable {υ : Type} {s s' : SessionState} {H B block : List SessionEvent} {φ φ' ψ ψ' : Stage υ}

/-! ## What comes too late -/

/-- A connection comes to the session, or a transaction begins in it. -/
def SessionEvent.Arrives : SessionEvent → Prop
  | reserved (.ok _) | executed _ (.begin _) none => True
  | _ => False

/-- Something arrives in a block of events. -/
def Arrived (B : List SessionEvent) : Prop :=
  ∃ e ∈ B, e.Arrives

/-- Something arrives in two blocks if it does in either. -/
theorem arrived_append {B B' : List SessionEvent} :
    Arrived (B ++ B') ↔ Arrived B ∨ Arrived B' := by
  simp [Arrived, or_and_right, exists_or]

/-- In a block of one event, something arrives if that event brings it. -/
theorem arrived_singleton {e : SessionEvent} : Arrived [e] ↔ e.Arrives := by
  simp [Arrived]

/-- No transaction of a session is active, and every connection that it took was given back. -/
def Desk.KeepsNothing (ref : SessionRef) (d : Desk υ) : Prop :=
  (d.sessions ref).transaction ≠ .active
    ∧ ∀ c ∈ taken (d.eventsOf ref), 0 < returned c (d.eventsOf ref)

/-- A call for the connection of a session, and one to close it. -/
def connectionAndClose : Fin 2 → SessionCall
  | 0 => .connection
  | 1 => .close

/-- Both calls are among those that contend. -/
theorem connectionAndClose_contends : ∀ i, (connectionAndClose i).Contends
  | 0 => trivial
  | 1 => trivial

/-! ## Before closing begins -/

/-- The stages of a call for the connection, with what the session is like at each while nobody
closes it. -/
inductive Pending (s : SessionState) : Stage υ → Prop where
  | fresh (h : SessionCall.connection.Contends) : Pending s (.fresh .connection h)
  | reserving (ho : s.closed = false) (hc : s.connection = none) (hi : s.transaction ≠ .active) :
      Pending s .reserving
  | beginning {c : Connection} (level : Isolation) (ho : s.closed = false) (hc : s.connection = some c)
      (hi : s.transaction ≠ .active) : Pending s (.beginning c level)
  | ended (outcome : Except Fault (Option Connection)) : Pending s (.ended outcome)

/-- What a call for the connection keeps while nobody closes the session. -/
structure Attended (s : SessionState) (H : List SessionEvent) (φ : Stage υ) : Prop where
  pending : Pending s φ
  orderly : Orderly s
  holds : Holds s.connection H

/-- A turn of the call for the connection keeps what it keeps while nobody closes the session. -/
theorem Attended.goes (h : Attended s H φ) (hgoes : Goes s φ block s' φ')
    (hnew : ∀ c ∈ taken block, c ∉ taken H) : Attended s' (H ++ block) φ' := by
  obtain ⟨hpending, hs, hH⟩ := h
  cases hpending with
  | fresh =>
    cases hgoes with
    | barred => exact ⟨.ended _, hs, hH.quiet rfl fun _ => rfl⟩
    | asks ho hc => exact ⟨.reserving ho hc (hs.sound.idle_of_bare hc), hs, hH.quiet rfl fun _ => rfl⟩
    | finds => exact ⟨.ended _, hs, hH.quiet rfl fun _ => rfl⟩
    | findsIdle ho hc hi => exact ⟨.beginning _ ho hc hi, hs, hH.quiet rfl fun _ => rfl⟩
  | reserving ho hc hi =>
    rw [hc] at hH
    cases hgoes with
    | refused => exact ⟨.ended _, hs, hc ▸ hH.quiet rfl fun _ => rfl⟩
    | takes ha => exact absurd ha hi
    | @takesIdle c =>
      have hc' : c ∉ taken H := hnew c (by simp [SessionEvent.taken?])
      exact ⟨.beginning _ ho rfl hi, .of_idle ho hi, hH.takes hc'⟩
  | beginning level ho hc hi =>
    cases hgoes with
    | begins => exact ⟨.ended _, .of_open ho fun _ => ⟨_, hc⟩, hH.quiet rfl fun _ => rfl⟩
    | stuck => exact ⟨.ended _, hs, hH.quiet rfl fun _ => rfl⟩
  | ended outcome =>
    cases hgoes with
    | rests => exact ⟨.ended _, hs, by rwa [List.append_nil]⟩

/-! ## Once closing has begun -/

/-- The stages of a call for the connection. -/
def Stage.OfConnection : Stage υ → Prop
  | fresh call _ => call = .connection
  | reserving | beginning _ _ | ended _ => True
  | _ => False

/-- A call that waits for nothing. -/
def Stage.Waitless : Stage υ → Prop
  | fresh _ _ | ended _ => True
  | _ => False

/-- A call that waits for nothing does not wait for a connection. -/
theorem Stage.Waitless.ne_reserving (h : φ.Waitless) : φ ≠ .reserving := by
  rintro rfl
  exact h

/-- Nothing came since closing began: what the session held at that moment is being given back. The
stages are those of the call for the connection and of closing. -/
inductive Clearing (s : SessionState) (H : List SessionEvent) (φ : Stage υ) : Stage υ → Prop where
  | undoing {b c : Connection} (hφ : φ.Waitless) (hc : s.connection = some c) (hH : Holds (some c) H) :
      Clearing s H φ (.undoing b)
  | returning {c : Connection} (hφ : φ ≠ .reserving) (hc : s.connection = none)
      (hH : Holds (some c) H) : Clearing s H φ (.returning c)
  | finished {outcome : Except Fault (Option Connection)} (hc : s.connection = none)
      (hH : Holds none H) : Clearing s H φ (.ended outcome)

/-- Something came since closing began, and stays: a connection that nobody gives back, or a
transaction that nobody ends. -/
inductive Leaking (s : SessionState) (H : List SessionEvent) (φ : Stage υ) : Stage υ → Prop where
  | held {c : Connection} {outcome : Except Fault (Option Connection)} (hφ : φ ≠ .reserving)
      (hkept : Kept c H) : Leaking s H φ (.ended outcome)
  | begun {ψ : Stage υ} (hφ : φ.Waitless)
      (hψ : (∃ c, ψ = .returning c) ∨ ∃ outcome, ψ = .ended outcome) (ha : s.transaction = .active) :
      Leaking s H φ ψ

/-- What turns keep once closing has begun, whose events since then are the block. -/
structure Shutting (block : List SessionEvent) (s : SessionState) (H : List SessionEvent)
    (φ ψ : Stage υ) : Prop where
  closed : s.closed = true
  connecting : φ.OfConnection
  fate : (¬ Arrived block ∧ s.transaction ≠ .active ∧ Clearing s H φ ψ)
    ∨ (Arrived block ∧ Leaking s H φ ψ)

/-- A connection stays kept through events that do not give it back. -/
theorem Kept.append {c : Connection} (h : Kept c H) (hr : returned c block = 0) :
    Kept c (H ++ block) := by
  rw [Kept, taken_append, returned_append, hr]
  exact ⟨List.mem_append_left _ h.1, h.2⟩

/-- An event that concerns no connection changes nothing. -/
theorem Clearing.quiet {e : SessionEvent} (h : Clearing s H φ ψ) (hφ : φ'.Waitless)
    (ht : e.taken? = none) (hr : ∀ c, e.returns c = false) : Clearing s (H ++ [e]) φ' ψ := by
  cases h with
  | undoing _ hc hH => exact .undoing hφ hc (hH.quiet ht hr)
  | returning _ hc hH => exact .returning hφ.ne_reserving hc (hH.quiet ht hr)
  | finished hc hH => exact .finished hc (hH.quiet ht hr)

/-- What stays, stays through an event that gives nothing back. -/
theorem Leaking.quiet {e : SessionEvent} (h : Leaking s H φ ψ) (hφ : φ'.Waitless)
    (hr : ∀ c, e.returns c = false) : Leaking s (H ++ [e]) φ' ψ := by
  cases h with
  | held _ hkept => exact .held hφ.ne_reserving (hkept.append (by simp [returned_singleton, hr]))
  | begun _ hψ ha => exact .begun hφ hψ ha

/-- An event that brings nothing, takes nothing and gives nothing back changes no fate. -/
theorem Shutting.quiet {e : SessionEvent} (h : Shutting B s H φ ψ) (hφ : φ'.Waitless)
    (hof : φ'.OfConnection) (harrives : ¬ e.Arrives) (ht : e.taken? = none)
    (hr : ∀ c, e.returns c = false) : Shutting (B ++ [e]) s (H ++ [e]) φ' ψ := by
  refine ⟨h.closed, hof, ?_⟩
  rw [arrived_append, arrived_singleton]
  rcases h.fate with ⟨hB, hi, hclearing⟩ | ⟨hB, hleaking⟩
  · exact .inl ⟨fun hor => hor.elim hB harrives, hi, hclearing.quiet hφ ht hr⟩
  · exact .inr ⟨.inl hB, hleaking.quiet hφ hr⟩

/-- While a connection is still awaited, nothing has come. -/
theorem Leaking.not_reserving : ¬ Leaking s H .reserving ψ := by
  intro h
  cases h with
  | held hφ => exact hφ rfl
  | begun hφ => exact hφ

/-- A connection that comes while closing began has nobody to give it back. -/
theorem Clearing.takes {c : Connection} {level : Isolation} (h : Clearing s H .reserving ψ)
    (hc : c ∉ taken H) : Leaking s' (H ++ [.reserved (.ok c)]) (.beginning c level) ψ := by
  cases h with
  | undoing hφ => exact hφ.elim
  | returning hφ => exact absurd rfl hφ
  | finished _ hH => exact .held nofun ((hH.takes hc).kept c rfl)

/-- A transaction that begins after closing began has nobody to end it. -/
theorem Clearing.begins {b : Connection} {level : Isolation} {e : SessionEvent}
    {outcome : Except Fault (Option Connection)} (h : Clearing s H (.beginning b level) ψ)
    (ha : s'.transaction = .active) : Leaking s' (H ++ [e]) (.ended outcome) ψ := by
  cases h with
  | undoing hφ => exact hφ.elim
  | returning => exact .begun trivial (.inl ⟨_, rfl⟩) ha
  | finished => exact .begun trivial (.inr ⟨_, rfl⟩) ha

/-- The call for the connection has a turn after closing began. -/
theorem Shutting.turn_connection (h : Shutting B s H φ ψ) (hgoes : Goes s φ block s' φ')
    (hnew : ∀ c ∈ taken block, c ∉ taken H) : Shutting (B ++ block) s' (H ++ block) φ' ψ := by
  have hclosed := h.closed
  have hconnecting := h.connecting
  cases hgoes with
  | barred => exact h.quiet trivial trivial not_false rfl fun _ => rfl
  | asks ho | finds ho | findsIdle ho => rw [hclosed] at ho; cases ho
  | refused => exact h.quiet trivial trivial not_false rfl fun _ => rfl
  | stuck => exact h.quiet trivial trivial not_false rfl fun _ => rfl
  | takes ha =>
    rcases h.fate with ⟨-, hi, -⟩ | ⟨-, hleaking⟩
    · exact absurd ha hi
    · exact hleaking.not_reserving.elim
  | @takesIdle c hi =>
    have harrived : Arrived (B ++ [.reserved (.ok c)]) :=
      arrived_append.2 (.inr (arrived_singleton.2 trivial))
    have hc : c ∉ taken H := hnew c (by simp [SessionEvent.taken?])
    refine ⟨hclosed, trivial, .inr ⟨harrived, ?_⟩⟩
    rcases h.fate with ⟨-, -, hclearing⟩ | ⟨-, hleaking⟩
    · exact hclearing.takes hc
    · exact hleaking.not_reserving.elim
  | @begins c level =>
    have harrived : Arrived (B ++ [.executed c (.begin level) none]) :=
      arrived_append.2 (.inr (arrived_singleton.2 trivial))
    refine ⟨hclosed, trivial, .inr ⟨harrived, ?_⟩⟩
    rcases h.fate with ⟨-, -, hclearing⟩ | ⟨-, hleaking⟩
    · exact hclearing.begins rfl
    · cases hleaking with
      | held _ hkept => exact .held (fun hreserving => by cases hreserving) (hkept.append rfl)
      | begun hφ => exact hφ.elim
  | rests => simpa using h
  | _ => cases hconnecting

/-- Closing has another turn. -/
theorem Shutting.turn_close (h : Shutting B s H φ ψ) (hgoes : Goes s ψ block s' ψ') :
    Shutting (B ++ block) s' (H ++ block) φ ψ' := by
  obtain ⟨hclosed, hconnecting, hfate⟩ := h
  rcases hfate with ⟨hB, hi, hclearing⟩ | ⟨hB, hleaking⟩
  · cases hclearing with
    | undoing hφ hc hH =>
      cases hgoes with
      | undone hb =>
        obtain rfl := Option.some.inj (hc.symm.trans hb)
        refine ⟨hclosed, hconnecting,
          .inl ⟨?_, hi, .returning hφ.ne_reserving rfl (hH.quiet rfl fun _ => rfl)⟩⟩
        rw [arrived_append, arrived_singleton]
        exact fun hor => hor.elim hB not_false
      | undoneBare hb => rw [hc] at hb; cases hb
    | returning _ hc hH =>
      cases hgoes with
      | returned =>
        refine ⟨hclosed, hconnecting, .inl ⟨?_, hi, .finished hc (hH.returns _)⟩⟩
        rw [arrived_append, arrived_singleton]
        exact fun hor => hor.elim hB not_false
    | finished hc hH =>
      cases hgoes with
      | rests => simpa using ⟨hclosed, hconnecting, .inl ⟨hB, hi, .finished hc hH⟩⟩
  · have harrived : Arrived (B ++ block) := arrived_append.2 (.inl hB)
    cases hleaking with
    | held hφ hkept =>
      cases hgoes with
      | rests => exact ⟨hclosed, hconnecting, .inr ⟨harrived, .held hφ (hkept.append rfl)⟩⟩
    | begun hφ hψ ha =>
      rcases hψ with ⟨c, rfl⟩ | ⟨outcome, rfl⟩
      · cases hgoes with
        | returned => exact ⟨hclosed, hconnecting, .inr ⟨harrived, .begun hφ (.inr ⟨_, rfl⟩) ha⟩⟩
      · cases hgoes with
        | rests => exact ⟨hclosed, hconnecting, .inr ⟨harrived, .begun hφ (.inr ⟨_, rfl⟩) ha⟩⟩

/-- Closing begins. -/
theorem Attended.turn_close (h : Attended s H φ) {hclose : SessionCall.close.Contends}
    (hgoes : Goes s (.fresh .close hclose) block s' ψ') :
    Shutting block s' (H ++ block) φ ψ' := by
  obtain ⟨hpending, hs, hH⟩ := h
  have hof : φ.OfConnection := by
    cases hpending with
    | fresh => rfl
    | _ => trivial
  have hquiet : ∀ {c}, Holds c H → Holds c (H ++ [.called .close]) := fun h => h.quiet rfl fun _ => rfl
  have hB : ¬ Arrived [.called .close] := arrived_singleton.not.2 not_false
  cases hgoes with
  | barred hne => exact absurd rfl hne
  | closedAgain hclosed =>
    have hbare := hs.bare_of_closed hclosed
    have hi : s.transaction ≠ .active := by
      rw [hs.idle_of_closed hclosed]
      nofun
    exact ⟨hclosed, hof, .inl ⟨hB, hi, .finished hbare (hquiet (hbare ▸ hH))⟩⟩
  | closesBare ho hc => exact ⟨rfl, hof, .inl ⟨hB, nofun, .finished hc (hquiet (hc ▸ hH))⟩⟩
  | closesIdle ho hc hi =>
    refine ⟨rfl, hof, .inl ⟨hB, nofun, .returning ?_ rfl (hquiet (hc ▸ hH))⟩⟩
    rintro rfl
    cases hpending with
    | reserving _ hbare => rw [hc] at hbare; cases hbare
  | closesActive ho hc ha =>
    refine ⟨rfl, hof, .inl ⟨hB, nofun, .undoing ?_ hc (hquiet (hc ▸ hH))⟩⟩
    cases hpending with
    | fresh => trivial
    | ended => trivial
    | reserving _ _ hi => exact absurd ha hi
    | beginning _ _ _ hi => exact absurd ha hi

/-! ## Whole schedules -/

section

variable {w : Surroundings} {ref : SessionRef} {stages : Fin 2 → Stage υ}
  {c : Crowd Calls (Desk υ) (Option Connection) (Fin 2)}

/-- A crowd of the two calls before closing has begun. -/
structure Meeting (w : Surroundings) (ref : SessionRef) (stages : Fin 2 → Stage υ)
    (c : Crowd Calls (Desk υ) (Option Connection) (Fin 2)) : Prop where
  underway : Underway w ref stages c
  numbered : c.state.Numbered ref
  unbegun : stages 1 = .fresh .close trivial
  attended : Attended (c.state.sessions ref) (c.state.eventsOf ref) (stages 0)

/-- The call for the connection has its turn, and nobody has begun to close the session. -/
theorem Meeting.turn (h : Meeting w ref stages c) :
    ∃ stages', Meeting w ref stages' (c.turn w.serve 0) := by
  obtain ⟨block, s, φ, hgoes, hfollows, hnext⟩ := h.underway.turn 0
  have hattended := h.attended.goes hgoes (hfollows.new h.numbered)
  refine ⟨_, hnext, hfollows.numbered h.numbered, ?_, ?_⟩
  · rw [Function.update_of_ne (by decide)]
    exact h.unbegun
  · rw [hfollows.session_eq, hfollows.eventsOf_eq, Function.update_self]
    exact hattended

/-- The call for the connection has any number of turns before closing begins. -/
theorem Meeting.play (h : Meeting w ref stages c) {P : List (Fin 2)} (hP : ∀ j ∈ P, j = 0) :
    ∃ stages', Meeting w ref stages' (c.play w.serve P) := by
  induction P generalizing stages c with
  | nil => exact ⟨stages, h⟩
  | cons k P ih =>
    obtain rfl := hP k List.mem_cons_self
    obtain ⟨stages', hnext⟩ := h.turn
    exact ih hnext fun j hj => hP j (List.mem_cons_of_mem _ hj)

/-- A crowd of the two calls after closing has begun, with the events since then. -/
structure Separating (w : Surroundings) (ref : SessionRef) (B : List SessionEvent)
    (stages : Fin 2 → Stage υ) (c : Crowd Calls (Desk υ) (Option Connection) (Fin 2)) : Prop where
  underway : Underway w ref stages c
  numbered : c.state.Numbered ref
  shutting : Shutting B (c.state.sessions ref) (c.state.eventsOf ref) (stages 0) (stages 1)

/-- A turn of either call, once closing has begun, adds its events to those since then. -/
theorem Separating.turn (h : Separating w ref B stages c) (i : Fin 2) :
    ∃ block stages', Separating w ref (B ++ block) stages' (c.turn w.serve i)
      ∧ (c.turn w.serve i).state.eventsOf ref = c.state.eventsOf ref ++ block := by
  obtain ⟨block, s, stage, hgoes, hfollows, hnext⟩ := h.underway.turn i
  refine ⟨block, _, ⟨hnext, hfollows.numbered h.numbered, ?_⟩, hfollows.eventsOf_eq⟩
  rw [hfollows.session_eq, hfollows.eventsOf_eq]
  match i with
  | 0 =>
    rw [Function.update_self, Function.update_of_ne (by decide)]
    exact h.shutting.turn_connection hgoes (hfollows.new h.numbered)
  | 1 =>
    rw [Function.update_self, Function.update_of_ne (by decide)]
    exact h.shutting.turn_close hgoes

/-- Any number of turns of the two calls, once closing has begun, add their events to those since
then. -/
theorem Separating.play (h : Separating w ref B stages c) (S : List (Fin 2)) :
    ∃ block stages', Separating w ref (B ++ block) stages' (c.play w.serve S)
      ∧ (c.play w.serve S).state.eventsOf ref = c.state.eventsOf ref ++ block := by
  induction S generalizing B stages c with
  | nil => exact ⟨[], stages, by rwa [List.append_nil], (List.append_nil _).symm⟩
  | cons i S ih =>
    obtain ⟨block, stages', hnext, hevents⟩ := h.turn i
    obtain ⟨block', stages'', hlast, hevents'⟩ := ih hnext
    refine ⟨block ++ block', stages'', by rwa [← List.append_assoc], ?_⟩
    rw [Crowd.play_cons, hevents', hevents, List.append_assoc]

/-- The turn in which closing begins. -/
theorem Meeting.close (h : Meeting w ref stages c) :
    ∃ block stages', Separating w ref block stages' (c.turn w.serve 1)
      ∧ (c.turn w.serve 1).state.eventsOf ref = c.state.eventsOf ref ++ block := by
  obtain ⟨block, s, stage, hgoes, hfollows, hnext⟩ := h.underway.turn 1
  rw [h.unbegun] at hgoes
  refine ⟨block, _, ⟨hnext, hfollows.numbered h.numbered, ?_⟩, hfollows.eventsOf_eq⟩
  rw [hfollows.session_eq, hfollows.eventsOf_eq, Function.update_self,
    Function.update_of_ne (by decide)]
  exact h.attended.turn_close hgoes

/-- Once both calls are over, the session keeps something exactly if something came. -/
theorem Separating.keeps_iff (h : Separating w ref B stages c) (hended : c.Ended) :
    c.state.KeepsNothing ref ↔ ¬ Arrived B := by
  obtain ⟨r, hdone⟩ := hended 1
  have hclose := h.underway.ended hdone
  rcases h.shutting.fate with ⟨hB, hi, hclearing⟩ | ⟨hB, hleaking⟩
  · refine iff_of_true ⟨hi, fun b hb => ?_⟩ hB
    generalize hψ : stages 1 = ψ at hclearing hclose
    cases hclearing with
    | undoing | returning => rcases hclose with ⟨p, hp, hstage⟩ | hstage <;> cases hstage
    | finished hbare hH =>
      rw [hH.once b hb nofun]
      exact Nat.one_pos
  · refine iff_of_false ?_ (not_not.2 hB)
    rintro ⟨hi, hreturned⟩
    generalize stages 1 = ψ at hleaking
    cases hleaking with
    | @held b _ hφ hkept =>
      have hpos := hreturned b hkept.1
      rw [hkept.2] at hpos
      exact Nat.lt_irrefl 0 hpos
    | begun _ _ ha => exact hi ha

end

/-- A call for the connection of a session and one to close it take turns; until closing begins, the
call for the connection has all of them. Once both are over, no transaction of the session is active
and every connection that it took was given back, exactly if no connection came and no transaction
began from the turn on in which closing began. -/
theorem closed_keepsNothing_iff (w : Surroundings) {ref : SessionRef} {d : Desk υ}
    (hd : d.WellFormed true) (P S : List (Fin 2)) (hP : ∀ j ∈ P, j = 0) :
    let c := (callsOn w ref connectionAndClose d).play w.serve P
    let c' := c.play w.serve (1 :: S)
    ∀ B, c'.Ended → c'.state.eventsOf ref = c.state.eventsOf ref ++ B →
      (c'.state.KeepsNothing ref ↔ ¬ Arrived B) := by
  intro c c' B hended hevents
  have hfirst : Meeting w ref _ (callsOn w ref connectionAndClose d) :=
    ⟨underway_callsOn connectionAndClose_contends d, hd.numbered ref, rfl,
      .fresh _, (hd.reachable ref).orderly, (hd.reachable ref).tracked.1.holds⟩
  obtain ⟨stages, hmeeting⟩ := hfirst.play hP
  obtain ⟨block, stages', hclosing, hbegun⟩ := hmeeting.close
  obtain ⟨block', stages'', hlast, hrest⟩ := hclosing.play S
  have hB : B = block ++ block' := by
    rw [hbegun, List.append_assoc] at hrest
    exact List.append_cancel_left (hevents.symm.trans hrest)
  subst hB
  exact hlast.keeps_iff hended

/-- Surroundings in which no transaction can begin. -/
def beginless : Surroundings :=
  .failing ⟨.application none .null, ""⟩ fun
    | _, .execute _ _ (.begin _) => true
    | _, _ => false

/-- A new session whose closing begins while the transaction is about to begin, which fails: the
connection is given back. -/
theorem keepsNothing_beginless :
    (((callsOn beginless 0 connectionAndClose ({ own := () } : Desk Unit).openSession.2).play
      beginless.serve [0, 0]).play beginless.serve (1 :: [0, 1])).state.KeepsNothing 0 := by
  have hd : ({ own := () } : Desk Unit).openSession.2.WellFormed true :=
    (Desk.WellFormed.start true ()).openSession
  have hnone : ¬ Arrived [.called .close, .executed ⟨1⟩ (.begin .readCommitted)
      (some (.error ⟨.application none .null, ""⟩)), .released ⟨1⟩ none] := by
    simp [Arrived, SessionEvent.Arrives]
  exact (closed_keepsNothing_iff beginless hd [0, 0] [0, 1] (by decide) _
    (Fin.forall_fin_two.2 ⟨⟨_, rfl⟩, ⟨_, rfl⟩⟩) rfl).2 hnone

/-- A new session whose closing begins and ends while its first connection is being waited for: the
connection that comes is never given back, and the transaction that begins on it stays active. -/
theorem kept_after_close :
    let c := (callsOn .calm 0 connectionAndClose ({ own := () } : Desk Unit).openSession.2).play
      Surroundings.calm.serve [0, 1, 0, 0]
    c.programs 0 = .done (.ok (some ⟨1⟩)) ∧ c.programs 1 = .done (.ok none)
      ∧ (c.state.sessions 0).closed = true ∧ (c.state.sessions 0).transaction = .active
      ∧ taken (c.state.eventsOf 0) = [⟨1⟩] ∧ returned ⟨1⟩ (c.state.eventsOf 0) = 0
      ∧ ¬ c.state.KeepsNothing 0 := by
  refine ⟨rfl, rfl, rfl, rfl, rfl, rfl, fun h => h.1 rfl⟩

end UnitOfWork.Trial
