import UnitOfWork.Proofs.Pool.Tally

/-!
# Accounting for slots

Calls that borrow connections, give them back, publish and run operations share a guard, in any
order of turns and whatever fails. `Surroundings.play_accounted` says that the slots in use are at
all times those of connections that were lent and not given back and those of calls that hold one,
that each call ends with what the client or its operation came to, and that a call which was refused
a slot has nothing to do with the client.
-/

namespace UnitOfWork.Lending

variable {ι : Type}

/-! ## Turns keep the tally -/

/-- A stage of nothing, for a call in the middle of its turn. -/
def Stage.idle : Stage :=
  .ended (.ok .nothing)

/-- Whose turn it is does not change who can go on. -/
theorem Desk.ready_turned (d : Desk (Event ι)) (i : ι) (p : Program Requests (Desk (Event ι)) Reply) :
    (d.note (.turned i)).ready p = d.ready p := by
  have hlent : lent (d.note (.turned i)).history = lent d.history := by simp [Desk.note, lent]
  unfold Desk.ready
  rw [hlent]
  rfl

section

variable [Fintype ι] [DecidableEq ι] {g : PoolGuard} {d d' : Desk (Event ι)} {stages : ι → Stage}
  {i : ι} {stage : Stage} {k : Nat}

namespace Tally

/-- A call goes on from its stage; the slot that it held is in hand. -/
theorem suspend (h : Tally g d stages k)
    (hfree : ∀ t, (stages i).ticket? = some t → t ∉ d.guard.waiting) :
    Tally g d (Function.update stages i .idle) (k + ((stages i).holds d).toNat) :=
  h.update rfl hfree rfl

/-- A call gets to a stage; the slot that it holds then was in hand. -/
theorem settleAt (h : Tally g d (Function.update stages i .idle) (k + (stage.holds d).toNat))
    (hticket : stage.ticket? = none) : Tally g d (Function.update stages i stage) k := by
  have hidle : ∀ t, (Function.update stages i .idle i).ticket? = some t → t ∉ d.guard.waiting := by
    intro t ht
    rw [Function.update_self] at ht
    cases ht
  have hholds : (Function.update stages i .idle i).holds d = false := by
    rw [Function.update_self]
    rfl
  have hupdated : Tally g d _ k := h.update (i := i) hticket hidle (by rw [hholds]; rfl)
  rwa [Function.update_idem] at hupdated

end Tally

/-- Going on with a job that holds a slot puts the slot in hand to its use: it is held on, or given
back. -/
theorem Continues.tally {name : Text} {start : Time} {job : Job}
    (hgoes : Continues d name start job d' stage)
    (h : Tally g d (Function.update stages i .idle) 1) :
    Tally g d' (Function.update stages i stage) 0 := by
  cases hgoes with
  | ends outcome log =>
    have hlogged : Tally g { d with log := log } (Function.update stages i .idle) 1 :=
      h.congr rfl rfl rfl rfl rfl rfl
    exact Tally.settleAt hlogged.giveBack rfl
  | asks q next => exact Tally.settleAt h rfl

/-- Setting out on an errand puts the slot in hand to its use. -/
theorem SetsOut.tally {errand : Errand} (hgoes : SetsOut d errand d' stage)
    (h : Tally g d (Function.update stages i .idle) 1) :
    Tally g d' (Function.update stages i stage) 0 := by
  cases hgoes with
  | lend => exact Tally.settleAt h rfl
  | work hcontinues => exact hcontinues.tally h

/-- A turn of a call keeps the tally. -/
theorem Goes.tally {stage₀ : Stage} (hgoes : Goes i d stage₀ d' stage) (h : Tally g d stages 0)
    (hstage : stages i = stage₀) : Tally g d' (Function.update stages i stage) 0 := by
  have hsuspended : stage₀.ticket? = none →
      Tally g d (Function.update stages i .idle) (0 + (stage₀.holds d).toNat) := by
    intro hticket
    subst hstage
    exact h.suspend fun t ht => by rw [hticket] at ht; cases ht
  -- A call leaves the queue only when its ticket was settled, so nobody waits with it then.
  have hserved : ∀ {errand t r}, stage₀ = .queued errand t → d.outcome? t = some r →
      Tally g d (Function.update stages i .idle) (0 + (d.granted t).toNat) := by
    rintro errand t r rfl ht
    have hsuspended := h.suspend (i := i) fun u hu hwaits => by
      rw [hstage] at hu
      cases hu
      rw [h.sound.outcome?_waiting hwaits] at ht
      cases ht
    rwa [hstage] at hsuspended
  cases hgoes with
  | admitted hcall hroom hsets => exact hsets.tally ((hsuspended rfl).occupy hroom)
  | queues now log hcall hfull =>
    exact h.enqueue hfull (by rw [hstage]; rfl) (by rw [hstage]; rfl) _ now log
  | served ht hsets =>
    have htally := hserved rfl ht
    rw [Desk.granted, ht] at htally
    exact hsets.tally (htally.note rfl rfl)
  | refused ht =>
    have htally := hserved rfl ht
    rw [Desk.granted, ht] at htally
    exact Tally.settleAt (htally.note rfl rfl) rfl
  | lends => exact Tally.settleAt ((hsuspended rfl).lend i) rfl
  | lendFails f => exact Tally.settleAt ((hsuspended rfl).note rfl rfl).giveBack rfl
  | works hcontinues => exact hcontinues.tally ((hsuspended rfl).note rfl rfl)
  | returns result hc hnew =>
    exact Tally.settleAt ((hsuspended rfl).takeBack hc hnew result).giveBack rfl
  | returnsAgain => exact Tally.settleAt (hsuspended rfl) rfl
  | rests outcome => exact Tally.settleAt (hsuspended rfl) rfl

end

/-! ## What becomes of a call -/

/-- What is left of a job after a call asked its questions and got the answers. -/
inductive Job.Leads (i : ι) (job : Job) : List (Event ι) → Job → Prop where
  | start : Leads i job [] job
  | answered {H : List (Event ι)} {q : Question} {next : Except Fault Json → Job}
      (h : Leads i job H (.asks q next)) (r : Except Fault Json) :
      Leads i job (H ++ [.answered i q r]) (next r)

/-- The events of a notification that was sent. -/
theorem Job.Leads.notified {message : Message} {i : ι}
    {H : List (Event ι)} {job : Job}
    (h : (Job.asks (.notify message) fun answer => .ends (answer.map fun _ => .nothing)).Leads i H job) :
    (H = [] ∧ job = .asks (.notify message) fun answer => .ends (answer.map fun _ => .nothing))
      ∨ ∃ r, H = [.answered i (.notify message) r] ∧ job = .ends (r.map fun _ => .nothing) := by
  induction h with
  | start => exact .inl ⟨rfl, rfl⟩
  | answered _ r ih =>
    rcases ih with ⟨rfl, heq⟩ | ⟨r', rfl, heq⟩
    · cases heq
      exact .inr ⟨r, rfl, rfl⟩
    · cases heq

variable [DecidableEq ι]

/-- The client or the operation of a call has to do with an event. -/
def Event.reaches (i : ι) : Event ι → Bool
  | lent j _ | answered j _ _ => j = i
  | _ => false

/-- The events that a call has with the client or with its operation. -/
def reached (i : ι) (history : List (Event ι)) : List (Event ι) :=
  history.filter (Event.reaches i)

/-- What a call ends with, and why. -/
inductive Explained (i : ι) (history : List (Event ι)) : Call → Except Fault Reply → Prop where
  /-- It waited for a slot for too long. -/
  | refused {call : Call} {f : Fault} (hwoken : .woken i (.error f) ∈ history) (hf : f.IsExhaustion) :
      Explained i history call (.error f)
  /-- The client lent a connection, or failed. -/
  | reserved {r : Except Fault Connection} (h : reached i history = [.lent i r]) :
      Explained i history .reserve (r.map .connection)
  /-- The client sent the notification, or failed. -/
  | published {message : Message} {r : Except Fault Json}
      (h : reached i history = [.answered i (.notify message) r]) :
      Explained i history (.publish message) (r.map fun _ => .nothing)
  /-- The operation ended. -/
  | ran {name : Text} {job : Job} {outcome : Except Fault Reply}
      (h : job.Leads i (reached i history) (.ends outcome)) :
      Explained i history (.run name job) outcome
  /-- The client got the connection back, or failed to take it. -/
  | returned {c : Connection} {r : Except Fault Unit} (h : reached i history = [])
      (hreturned : .returned c r ∈ history) :
      Explained i history (.release c) (r.map fun _ => .nothing)
  /-- The connection had been given back before. -/
  | returnedAgain {c : Connection} (h : reached i history = []) (hreturned : c ∈ returned history) :
      Explained i history (.release c) (.ok .nothing)

/-- The stages of a call, with the events that it had so far at each. -/
inductive Recorded (i : ι) (history : List (Event ι)) (call : Call) : Stage → Prop where
  | fresh (h : reached i history = []) : Recorded i history call (.fresh call)
  | queued {errand : Errand} (t : Ticket) (hcall : call.errand? = some errand)
      (h : reached i history = []) : Recorded i history call (.queued errand t)
  | lending (hcall : call.errand? = some .lend) (h : reached i history = []) :
      Recorded i history call .lending
  | working {name : Text} {job : Job} {q : Question} {next : Except Fault Json → Job} (start : Time)
      (hcall : call.errand? = some (.work name job))
      (h : job.Leads i (reached i history) (.asks q next)) :
      Recorded i history call (.working name start q next)
  | ended {outcome : Except Fault Reply} (h : Explained i history call outcome) :
      Recorded i history call (.ended outcome)

/-- A call that was refused a slot failed with the refusal and had nothing to do with the client. -/
def Unreached (i : ι) (history : List (Event ι)) (stage : Stage) : Prop :=
  ∀ f, .woken i (.error f) ∈ history → reached i history = [] ∧ stage = .ended (.error f)

section

variable {i j : ι} {history block : List (Event ι)} {call : Call} {stage : Stage}

/-- The event is about a call. -/
def Event.Concerns (i : ι) : Event ι → Prop
  | woken j _ | lent j _ | answered j _ _ => j = i
  | turned _ | fired | returned _ _ => False

/-- What reaches a call concerns it. -/
theorem Event.concerns_of_reaches {e : Event ι} (h : e.reaches i = true) : e.Concerns i := by
  cases e with
  | lent | answered => simpa [Event.reaches, Event.Concerns] using h
  | _ => cases h

/-- What does not concern a call does not reach it. -/
theorem reached_append (h : ∀ e ∈ block, ¬ e.Concerns i) :
    reached i (history ++ block) = reached i history := by
  rw [reached, List.filter_append, reached, List.append_right_eq_self, List.filter_eq_nil_iff]
  exact fun e he hreaches => h e he (Event.concerns_of_reaches hreaches)

/-- An event that does not reach a call leaves what reached it. -/
theorem reached_note {d : Desk (Event ι)} {e : Event ι} (h : e.reaches i = false) :
    reached i (d.note e).history = reached i d.history := by
  simp [reached, Desk.note, h]

/-- An event that reaches a call comes last of those that did. -/
theorem reached_note_of_reaches {d : Desk (Event ι)} {e : Event ι} (h : e.reaches i = true) :
    reached i (d.note e).history = reached i d.history ++ [e] := by
  simp [reached, Desk.note, h]

/-- How a call ended stays explained by what concerns it. -/
theorem Explained.append {outcome : Except Fault Reply} (h : Explained i history call outcome)
    (hblock : ∀ e ∈ block, ¬ e.Concerns i) : Explained i (history ++ block) call outcome := by
  have hreached : reached i (history ++ block) = reached i history := reached_append hblock
  cases h with
  | refused hwoken hf => exact .refused (List.mem_append_left _ hwoken) hf
  | reserved h => exact .reserved (hreached.trans h)
  | published h => exact .published (hreached.trans h)
  | ran h => exact .ran (by rwa [hreached])
  | returned h hreturned => exact .returned (hreached.trans h) (List.mem_append_left _ hreturned)
  | returnedAgain h hreturned =>
    refine .returnedAgain (hreached.trans h) ?_
    rw [returned_append]
    exact List.mem_append_left _ hreturned

/-- The record of a call stays what it was, as long as nothing concerns it. -/
theorem Recorded.append (h : Recorded i history call stage) (hblock : ∀ e ∈ block, ¬ e.Concerns i) :
    Recorded i (history ++ block) call stage := by
  have hreached : reached i (history ++ block) = reached i history := reached_append hblock
  cases h with
  | fresh h => exact .fresh (hreached.trans h)
  | queued t hcall h => exact .queued t hcall (hreached.trans h)
  | lending hcall h => exact .lending hcall (hreached.trans h)
  | working start hcall h => exact .working start hcall (by rwa [hreached])
  | ended h => exact .ended (h.append hblock)

/-- A call that was refused a slot stays out of reach, as long as nothing concerns it. -/
theorem Unreached.append (h : Unreached i history stage) (hblock : ∀ e ∈ block, ¬ e.Concerns i) :
    Unreached i (history ++ block) stage := by
  intro f hf
  rw [reached_append hblock]
  rcases List.mem_append.1 hf with hf | hf
  · exact h f hf
  · exact absurd rfl (hblock _ hf)

/-- Only who reserves is on the errand of being lent a connection. -/
theorem Call.eq_reserve_of_errand {call : Call} (h : call.errand? = some .lend) : call = .reserve := by
  cases call <;> first | rfl | cases h

/-- Where the job of a call has ended, its outcome is that of the call. -/
theorem explained_of_leads {name : Text} {job : Job} {outcome : Except Fault Reply}
    (hcall : call.errand? = some (.work name job))
    (h : job.Leads i (reached i history) (.ends outcome)) : Explained i history call outcome := by
  cases call with
  | reserve => cases hcall
  | release c => cases hcall
  | run name job =>
    cases hcall
    exact .ran h
  | publish message =>
    cases hcall
    rcases h.notified with ⟨-, heq⟩ | ⟨r, hreached, heq⟩
    · cases heq
    · cases heq
      exact .published hreached

variable {d d' : Desk (Event ι)} {stage' : Stage}

/-- Going on with a job adds no event, and the stage it gets to fits what reached the call. -/
theorem Continues.recorded {name : Text} {start : Time} {job job' : Job}
    (hgoes : Continues d name start job' d' stage) (hcall : call.errand? = some (.work name job))
    (h : job.Leads i (reached i d.history) job') :
    d'.history = d.history ∧ Recorded i d.history call stage := by
  cases hgoes with
  | ends outcome log => exact ⟨Desk.giveBack_history _, .ended (explained_of_leads hcall h)⟩
  | asks q next => exact ⟨rfl, .working start hcall h⟩

/-- Setting out on an errand adds no event, and the stage it gets to fits a call that nothing
reached. -/
theorem SetsOut.recorded {errand : Errand} (hgoes : SetsOut d errand d' stage)
    (hcall : call.errand? = some errand) (h : reached i d.history = []) :
    d'.history = d.history ∧ Recorded i d.history call stage := by
  cases hgoes with
  | lend => exact ⟨rfl, .lending hcall h⟩
  | work hcontinues => exact hcontinues.recorded hcall (h ▸ .start)

/-- Nobody told a call that is not over that it gets no slot. -/
theorem Unreached.none (h : Unreached i history stage) (hstage : ∀ outcome, stage ≠ .ended outcome)
    (f : Fault) : .woken i (.error f) ∉ history := by
  intro hf
  obtain ⟨-, heq⟩ := h f hf
  exact hstage _ heq

/-- What a client lends, or fails with, is what the call for a connection comes to. -/
theorem explained_lent (hcall : call.errand? = some .lend) (h : reached i d.history = [])
    (r : Except Fault Connection) :
    Explained i (d.note (.lent i r)).history call (r.map .connection) := by
  obtain rfl := call.eq_reserve_of_errand hcall
  refine .reserved ?_
  have hreaches : (Event.lent i r).reaches i = true := decide_eq_true rfl
  rw [reached_note_of_reaches hreaches, h, List.nil_append]

/-- One call went on: what happened concerns no other call, and its records go on. -/
structure Traced (i : ι) (call : Call) (history history' : List (Event ι)) (stage' : Stage) : Prop where
  block : ∃ block, history' = history ++ block ∧ ∀ e ∈ block, ∀ j, e.Concerns j → j = i
  recorded : Recorded i history' call stage'
  unreached : Unreached i history' stage'

/-- Nothing happened that concerns a call. -/
theorem Traced.unchanged (hunreached : Unreached i d.history stage)
    (hstage : ∀ outcome, stage ≠ .ended outcome) (hhistory : d'.history = d.history)
    (h : Recorded i d.history call stage') : Traced i call d.history d'.history stage' where
  block := ⟨[], hhistory.trans (List.append_nil _).symm, nofun⟩
  recorded := hhistory ▸ h
  unreached f hf := absurd (hhistory ▸ hf) (hunreached.none hstage f)

/-- One thing happened, other than that the call was refused a slot. -/
theorem Traced.noted {e : Event ι} (hunreached : Unreached i d.history stage)
    (hstage : ∀ outcome, stage ≠ .ended outcome) (hhistory : d'.history = (d.note e).history)
    (hconcerns : ∀ j, e.Concerns j → j = i) (hwoken : ∀ f, e ≠ .woken i (.error f))
    (h : Recorded i (d.note e).history call stage') : Traced i call d.history d'.history stage' where
  block := ⟨[e], hhistory, fun e' he' => by rwa [List.mem_singleton.1 he']⟩
  recorded := hhistory ▸ h
  unreached f hf := by
    rw [hhistory, Desk.note, List.mem_append, List.mem_singleton] at hf
    rcases hf with hf | hf
    · exact absurd hf (hunreached.none hstage f)
    · exact absurd hf.symm (hwoken f)

/-- The call was refused a slot. -/
theorem Traced.refused {f : Fault} (hunreached : Unreached i d.history stage)
    (hstage : ∀ outcome, stage ≠ .ended outcome) (hf : f.IsExhaustion) (h : reached i d.history = []) :
    Traced i call d.history (d.note (.woken i (.error f))).history (.ended (.error f)) where
  block := by
    refine ⟨[_], rfl, fun e he j hj => ?_⟩
    rw [List.mem_singleton.1 he] at hj
    exact hj.symm
  recorded := .ended (.refused (List.mem_append_right _ (List.mem_singleton_self _)) hf)
  unreached f' hf' := by
    rcases List.mem_append.1 hf' with hold | hnew
    · exact absurd hold (hunreached.none hstage f')
    · cases List.mem_singleton.1 hnew
      exact ⟨(reached_note rfl).trans h, rfl⟩

/-- A turn of a call concerns no other call, and the records of the call go on. -/
theorem Goes.traced (hgoes : Goes i d stage d' stage') (h : Recorded i d.history call stage)
    (hunreached : Unreached i d.history stage) (hsound : d.Sound)
    (hreleased : ∀ c ∈ d.released, c ∈ returned d.history) :
    Traced i call d.history d'.history stage' := by
  cases hgoes with
  | admitted hcall hroom hsets =>
    cases h with
    | fresh hr =>
      obtain ⟨hhistory, hrecorded⟩ := hsets.recorded hcall hr
      exact .unchanged hunreached nofun hhistory hrecorded
  | queues now log hcall hfull =>
    cases h with
    | fresh hr => exact .unchanged hunreached nofun rfl (.queued _ hcall hr)
  | served ht hsets =>
    cases h with
    | queued _ hcall hr =>
      obtain ⟨hhistory, hrecorded⟩ := hsets.recorded hcall ((reached_note rfl).trans hr)
      exact .noted hunreached nofun hhistory (fun _ hj => hj.symm) nofun hrecorded
  | refused ht =>
    cases h with
    | queued _ hcall hr => exact .refused hunreached nofun (hsound.exhaustion_of_outcome ht) hr
  | lends =>
    cases h with
    | lending hcall hr =>
      have hended := explained_lent hcall hr (.ok ⟨(lent d.history).length + 1⟩)
      exact .noted hunreached nofun rfl (fun _ hj => hj.symm) nofun (.ended hended)
  | lendFails f =>
    cases h with
    | lending hcall hr =>
      have hended := explained_lent hcall hr (.error f)
      exact .noted hunreached nofun (Desk.giveBack_history _) (fun _ hj => hj.symm) nofun (.ended hended)
  | @works _ _ q _ answer _ _ hcontinues =>
    cases h with
    | working start hcall hleads =>
      have hreached : reached i (d.note (.answered i q answer)).history
          = reached i d.history ++ [.answered i q answer] :=
        reached_note_of_reaches (decide_eq_true rfl)
      obtain ⟨hhistory, hrecorded⟩ :=
        hcontinues.recorded hcall (hreached ▸ hleads.answered answer)
      exact .noted hunreached nofun hhistory (fun _ hj => hj.symm) nofun hrecorded
  | @returns c result hc hnew =>
    cases h with
    | fresh hr =>
      have hreturned : .returned c result ∈ (d.note (.returned c result)).history :=
        List.mem_append_right _ (List.mem_singleton_self _)
      have hended := Explained.returned ((reached_note rfl).trans hr) hreturned
      exact .noted hunreached nofun (Desk.giveBack_history _) nofun nofun (.ended hended)
  | returnsAgain hc hold =>
    cases h with
    | fresh hr =>
      exact .unchanged hunreached nofun rfl (.ended (.returnedAgain hr (hreleased _ hold)))
  | rests outcome => exact ⟨⟨[], (List.append_nil _).symm, nofun⟩, h, hunreached⟩

end

/-! ## Traffic -/

section

variable [Fintype ι] {w : Surroundings ι} {g : PoolGuard} {calls : ι → Call} {stages : ι → Stage}
  {x : Traffic ι}

/-- Calls under way on a guard, each at a stage. -/
structure Conducted (w : Surroundings ι) (g : PoolGuard) (calls : ι → Call) (stages : ι → Stage)
    (x : Traffic ι) : Prop where
  programs : ∀ i, x.programs i = w.atStage (stages i)
  tally : Tally g x.state stages 0
  recorded : ∀ i, Recorded i x.state.history (calls i) (stages i)
  unreached : ∀ i, Unreached i x.state.history (stages i)

/-- An event that is about no call and no connection changes nothing. -/
theorem Conducted.note (h : Conducted w g calls stages x) {e : Event ι} (hlent : lent [e] = [])
    (hreturned : returned [e] = []) (hquiet : ∀ j, ¬ e.Concerns j) :
    Conducted w g calls stages ⟨x.state.note e, x.programs⟩ := by
  have hblock : ∀ j, ∀ e' ∈ [e], ¬ e'.Concerns j := by
    intro j e' he'
    rw [List.mem_singleton.1 he']
    exact hquiet j
  exact {
    programs := h.programs
    tally := h.tally.note hlent hreturned
    recorded := fun j => (h.recorded j).append (hblock j)
    unreached := fun j => (h.unreached j).append (hblock j) }

/-- Slots are in use wherever a call that has its turn may give one back. -/
theorem Conducted.turns (h : Conducted w g calls stages x) {i : ι}
    (hready : x.state.ready (x.programs i) = true) : w.Turns x.state i (stages i) := by
  rw [h.programs i] at hready
  refine w.turn_atStage x.state i hready (fun hholds => ?_) fun c hc hnew => ?_
  · rw [holds_atStage] at hholds
    exact h.tally.active_of_holds hholds
  · have hunreturned : c ∉ returned x.state.history := fun hmem =>
      hnew ((h.tally.loans.released_iff c).2 hmem)
    exact h.tally.active_of_outstanding (mem_outstanding.2 ⟨hc, hunreturned⟩)

/-- One call goes on; the others stay where they are. -/
theorem Conducted.go (h : Conducted w g calls stages x) {i : ι} {d : Desk (Event ι)} {stage : Stage}
    (hgoes : Goes i x.state (stages i) d stage) :
    Conducted w g calls (Function.update stages i stage)
      ⟨d, Function.update x.programs i (w.atStage stage)⟩ := by
  obtain ⟨⟨block, hhistory, hmine⟩, hrecorded, hunreached⟩ :=
    hgoes.traced (h.recorded i) (h.unreached i) h.tally.sound fun c => (h.tally.loans.released_iff c).1
  have hothers : ∀ j, j ≠ i → ∀ e ∈ block, ¬ e.Concerns j := fun j hj e he hconcerns =>
    hj (hmine e he j hconcerns)
  refine ⟨?_, hgoes.tally h.tally rfl, ?_, ?_⟩
  · refine (Function.forall_update_iff stages fun j stage' =>
      Function.update x.programs i (w.atStage stage) j = w.atStage stage').2 ⟨?_, fun j hj => ?_⟩
    · exact Function.update_self ..
    · rw [Function.update_of_ne hj]
      exact h.programs j
  · refine (Function.forall_update_iff stages fun j => Recorded j d.history (calls j)).2
      ⟨hrecorded, fun j hj => ?_⟩
    exact hhistory ▸ (h.recorded j).append (hothers j hj)
  · refine (Function.forall_update_iff stages fun j => Unreached j d.history).2
      ⟨hunreached, fun j hj => ?_⟩
    exact hhistory ▸ (h.unreached j).append (hothers j hj)

/-- One call has its turn. -/
theorem Conducted.turn (h : Conducted w g calls stages x) (i : ι) :
    ∃ stages', Conducted w g calls stages' (w.step x (.turn i)) := by
  by_cases hready : x.state.ready (x.programs i) = true
  · have hnoted := h.note (e := .turned i) rfl rfl fun _ => not_false
    obtain ⟨d, stage, hturn, hgoes⟩ := hnoted.turns (i := i) (by rwa [Desk.ready_turned])
    have hstep : w.step x (.turn i) = ⟨d, Function.update x.programs i (w.atStage stage)⟩ := by
      rw [Surroundings.step, if_pos hready, Crowd.turn, h.programs i, hturn]
    rw [hstep]
    exact ⟨_, hnoted.go hgoes⟩
  · have hstep : w.step x (.turn i) = x := if_neg hready
    rw [hstep]
    exact ⟨stages, h⟩

/-- A timer fires. -/
theorem Conducted.fire (h : Conducted w g calls stages x) (place : Nat) :
    Conducted w g calls stages (w.step x (.fire place)) := by
  cases htimer : x.state.guard.timers[place]? with
  | none =>
    have hstep : w.step x (.fire place) = x := by simp only [Surroundings.step, htimer]
    rw [hstep]
    exact h
  | some timer =>
    have hnoted := h.note (e := .fired) rfl rfl fun _ => not_false
    have hwaits := hnoted.tally.sound.guard.payload_mem (List.mem_of_getElem? htimer)
    obtain ⟨log, hexpire⟩ := expire_of_mem w.clock waitFor (x.state.note .fired) hwaits
    have hstep : w.step x (.fire place)
        = { x with state := (x.state.note .fired).refuse timer.payload log } := by
      simp only [Surroundings.step, htimer, Surroundings.pool, hexpire]
    rw [hstep]
    exact {
      programs := h.programs
      tally := hnoted.tally.refuse hwaits log
      recorded := hnoted.recorded
      unreached := hnoted.unreached }

/-- Whatever happens to calls under way, they stay under way. -/
theorem Conducted.play (h : Conducted w g calls stages x) (steps : List (Step ι)) :
    ∃ stages', Conducted w g calls stages' (w.play x steps) := by
  induction steps generalizing x stages with
  | nil => exact ⟨stages, h⟩
  | cons s steps ih =>
    cases s with
    | turn i =>
      obtain ⟨stages', hturned⟩ := h.turn i
      exact ih hturned
    | fire place => exact ih (h.fire place)

/-- Calls that have not begun are under way. -/
theorem conducted_opening (w : Surroundings ι) {limit : Option Json} {queueTimeoutMs : Number}
    (hg : PoolGuard.make limit queueTimeoutMs = .ok g) (calls : ι → Call) :
    Conducted w g calls (fun i => .fresh (calls i)) (w.opening g calls) := by
  have hsound := PoolGuard.sound_of_make hg 0
  obtain ⟨n, -, rfl⟩ := PoolGuard.make_eq_ok hg
  refine ⟨fun _ => rfl, ?_, fun _ => .fresh rfl, fun _ _ hwoken => absurd hwoken List.not_mem_nil⟩
  have hholders : ∀ d : Desk (Event ι), holders d (fun i => .fresh (calls i)) = 0 := by
    intro d
    simp [holders, Stage.holds]
  exact {
    sound := .start hsound rfl
    settings_eq := rfl
    loans := ⟨List.nodup_nil, fun _ hlent => absurd hlent List.not_mem_nil,
      fun _ hreturned => absurd hreturned List.not_mem_nil, List.nodup_nil, fun _ => Iff.rfl⟩
    queue := ⟨fun _ hwaits => absurd hwaits List.not_mem_nil,
      fun _ _ _ ht => absurd ht.symm (Option.some_ne_none _),
      fun _ _ ht => absurd ht.symm (Option.some_ne_none _)⟩
    active_eq := by
      show 0 = (outstanding []).length + holders _ _ + 0
      rw [hholders]
      rfl }

/-! ## The account -/

/-- The connections that were lent and not given back, and the calls that hold a slot. -/
def inUse (x : Traffic ι) : Nat :=
  (outstanding x.state.history).length + (Finset.univ.filter fun i => x.state.holds (x.programs i)).card

/-- The account of calls that share a guard, which was made with the settings of the first. -/
structure Accounted (w : Surroundings ι) (g : PoolGuard) (calls : ι → Call) (x : Traffic ι) : Prop where
  active_eq : x.state.guard.active = inUse x
  inUse_le : inUse x ≤ g.limit
  /-- The slot of a connection that is out, or of a call that holds one, can be given back. -/
  release_succeeds : inUse x ≠ 0 → ∃ d, w.pool.release.advance x.state = (d, .ended (.ok ()))
  /-- The client gets no connection back twice. -/
  returned_nodup : (returned x.state.history).Nodup
  /-- A call that is refused a slot fails with the refusal and gets to neither client nor
  operation. -/
  unreached : ∀ i f, .woken i (.error f) ∈ x.state.history →
    reached i x.state.history = [] ∧ x.programs i = .done (.error f)
  explained : ∀ i outcome, x.programs i = .done outcome →
    Explained i x.state.history (calls i) outcome
  idle : x.Ended → (∀ c ∈ lent x.state.history, c ∈ returned x.state.history) →
    x.state.guard.active = 0

/-- The books that turns keep give the account of the calls. -/
theorem Conducted.accounted (h : Conducted w g calls stages x) : Accounted w g calls x := by
  have hactive : x.state.guard.active = inUse x := by
    rw [h.tally.active_eq, Nat.add_zero, inUse, holders]
    simp only [h.programs, holds_atStage]
  have hlimit := PoolGuard.limit_eq_of_settings h.tally.settings_eq
  have hended : ∀ i outcome, x.programs i = .done outcome → stages i = .ended outcome := by
    intro i outcome hdone
    exact w.stage_of_done ((h.programs i).symm.trans hdone)
  refine ⟨hactive, ?_, fun hne => ?_, h.tally.loans.returned_nodup, fun i f hf => ?_,
    fun i outcome hdone => ?_, fun hall hreturned => ?_⟩
  · rw [← hactive, ← hlimit]
    exact h.tally.sound.guard.active_le
  · exact ⟨_, advance_release w.clock waitFor x.state (hactive ▸ hne)⟩
  · obtain ⟨hreached, hstage⟩ := h.unreached i f hf
    refine ⟨hreached, ?_⟩
    rw [h.programs i, hstage]
    rfl
  · have hrecorded := h.recorded i
    rw [hended i outcome hdone] at hrecorded
    cases hrecorded with
    | ended hexplained => exact hexplained
  · have hnone : outstanding x.state.history = [] :=
      List.filter_eq_nil_iff.2 fun c hc => by simpa using hreturned c hc
    have hnobody : (Finset.univ.filter fun i => x.state.holds (x.programs i)) = ∅ := by
      refine Finset.filter_eq_empty_iff.2 fun i _ => ?_
      obtain ⟨outcome, hdone⟩ := hall i
      rw [hdone]
      exact Bool.false_ne_true
    rw [hactive, inUse, hnone, hnobody]
    rfl

/-- Whatever calls share a guard, whatever the client and the operations answer, and in whatever
order the calls have their turns and timers fire, slots are accounted for. -/
theorem Surroundings.play_accounted (w : Surroundings ι) {limit : Option Json} {queueTimeoutMs : Number}
    (hg : PoolGuard.make limit queueTimeoutMs = .ok g) (calls : ι → Call) (steps : List (Step ι)) :
    Accounted w g calls (w.play (w.opening g calls) steps) := by
  obtain ⟨stages, hconducted⟩ := (conducted_opening w hg calls).play steps
  exact hconducted.accounted

end

/-- A connection and a publication share one slot, with an operation that waits for too long; the
connection is given back twice. -/
theorem Surroundings.play_accounted_oneSlot :
    let calls : Fin 5 → Call :=
      ![.reserve, .publish ⟨"news", "hello"⟩, .run "sweep" (.ends (.ok .nothing)), .release ⟨1⟩,
        .release ⟨1⟩]
    let w : Surroundings (Fin 5) := .obliging
    let x := w.play (w.opening .oneSlot calls)
      [.turn 0, .turn 1, .turn 2, .turn 0, .fire 1, .turn 2, .turn 3, .turn 4, .turn 1, .turn 1]
    x.programs 0 = .done (.ok (.connection ⟨1⟩))
      ∧ x.programs 2 = .done (.error (PoolGuard.refusal { PoolGuard.oneSlot with
          active := 1, waiting := [1, 2] } 2))
      ∧ (reached 1 x.state.history).length = 1 ∧ returned x.state.history = [⟨1⟩]
      ∧ x.state.guard.active = 0 ∧ Accounted w .oneSlot calls x :=
  ⟨rfl, rfl, by decide +kernel, by decide +kernel, by decide +kernel,
    play_accounted .obliging PoolGuard.make_oneSlot _ _⟩

end UnitOfWork.Lending
