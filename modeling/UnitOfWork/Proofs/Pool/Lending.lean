import UnitOfWork.Pool.Source
import UnitOfWork.Proofs.Overlap.Crowd
import UnitOfWork.Proofs.Pool.Guard

/-!
# Lending slots

A desk holds a guard with what its borrowers share: the tickets that were drawn, those that were
settled, and the connections that were given back. Borrowing a slot, giving one back and the firing
of a borrower's timer leave the desk as `Desk.occupy` or `Desk.enqueue`, `Desk.giveBack` and
`Desk.refuse` say, and each keeps `Desk.Sound`: a ticket that was drawn is either waiting or
settled, and it is settled once.
-/

namespace UnitOfWork

namespace Pool

variable {S : Signature} {σ α : Type}

/-- What follows an operation that held a slot. -/
def windUp (p : Pool S σ) (name : Text) (start : Time) : Program S σ Unit := do
  let finish ← .read p.journal.now
  if slowThresholdMs.lt (finish - start) then
    p.journal.write .warn ("[pool-guard] slow DB op: " ++ name)
      [("durationMs", .num (finish - start))]
  p.release

/-- An operation takes a slot and reads the clock, and then runs with its winding up ensured. -/
theorem run_eq (p : Pool S σ) (name : Text) (operation : Program S σ α) :
    p.run name operation = p.acquire >>= fun _ => Program.read p.journal.now >>= fun start =>
      operation.ensure (p.windUp name start) := rfl

end Pool

namespace Lending

variable {S : Signature} {ε : Type}

/-! ## Desks -/

/-- A guard, with what its borrowers share and what happened so far. -/
structure Desk (ε : Type) where
  guard : PoolGuard
  /-- Tickets that were drawn; they are numbered in order. -/
  stamps : Nat := 0
  log : Log := {}
  /-- Tickets that were settled, and how. -/
  settled : List (Ticket × Except Fault Unit) := []
  /-- Connections that were given back. -/
  released : List Connection := []
  history : List ε := []

/-- A clock, which may show anything that has a date, whatever happened. -/
structure Clock (ε : Type) where
  time : List ε → Time
  dated : ∀ history, (time history).hasDate = true

/-- A clock that stands still. -/
def Clock.still : Clock ε :=
  ⟨fun _ => .finite 0, fun _ => by decide⟩

namespace Desk

/-- Adds to the history. -/
def note (e : ε) (d : Desk ε) : Desk ε :=
  { d with history := d.history ++ [e] }

/-- How a ticket was settled, if it was. -/
def outcome? (d : Desk ε) (t : Ticket) : Option (Except Fault Unit) :=
  d.settled.lookup t

/-- The ticket was settled with a slot. -/
def granted (d : Desk ε) (t : Ticket) : Bool :=
  (d.outcome? t).any Except.isOk

/-- The tickets that were settled with a slot. -/
def grants (d : Desk ε) : Nat :=
  d.settled.countP (·.2.isOk)

/-- The tickets that were settled without one. -/
def refusals (d : Desk ε) : Nat :=
  d.settled.countP fun p => !p.2.isOk

/-- A borrower gets a free slot. -/
def occupy (d : Desk ε) : Desk ε :=
  { d with guard := { d.guard with active := d.guard.active + 1 }, stamps := d.stamps + 1 }

/-- A borrower joins the queue. -/
def enqueue (now : Time) (log : Log) (d : Desk ε) : Desk ε :=
  { d with guard := (d.guard.acquire now d.stamps).2, stamps := d.stamps + 1, log := log }

/-- A slot is given back, and passed on if somebody waits. -/
def giveBack (d : Desk ε) : Desk ε :=
  match d.guard.release with
  | .error _ => d
  | .ok (none, g) => { d with guard := g }
  | .ok (some t, g) => { d with guard := g, settled := d.settled ++ [(t, .ok ())] }

/-- A borrower that waited too long is turned away. -/
def refuse (t : Ticket) (log : Log) (d : Desk ε) : Desk ε :=
  { d with
    guard := (d.guard.expire t).2
    settled := d.settled ++ [(t, .error (d.guard.refusal t))]
    log := log }

end Desk

/-! ## Sound desks -/

namespace Desk

/-- What a desk keeps: its guard is sound, and a ticket that was drawn is waiting or settled,
once. -/
structure Sound (d : Desk ε) : Prop where
  guard : d.guard.Sound d.stamps
  drawn : ∀ p ∈ d.settled, p.1 < d.stamps
  once : (d.settled.map Prod.fst).Nodup
  apart : ∀ p ∈ d.settled, p.1 ∉ d.guard.waiting
  exhaustion : ∀ t f, (t, .error f) ∈ d.settled → f.IsExhaustion
  exhaustions : d.guard.exhaustions = d.refusals

/-- How a slot that is given back leaves the desk. -/
theorem giveBack_cases {d : Desk ε} (h : d.guard.active ≠ 0) :
    (d.guard.waiting = []
        ∧ d.giveBack = { d with guard := { d.guard with active := d.guard.active - 1 } })
      ∨ ∃ t rest, d.guard.waiting = t :: rest
        ∧ d.giveBack = { d with
            guard := { d.guard with waiting := rest, timers := d.guard.timers.cancel t }
            settled := d.settled ++ [(t, .ok ())] } := by
  cases hw : d.guard.waiting with
  | nil => exact .inl ⟨rfl, by simp only [giveBack, PoolGuard.release_of_nil h hw]⟩
  | cons t rest => exact .inr ⟨t, rest, rfl, by simp only [giveBack, PoolGuard.release_of_cons h hw]⟩

section

variable (d : Desk ε)

@[simp] theorem enqueue_settings (now : Time) (log : Log) :
    (d.enqueue now log).guard.settings = d.guard.settings := by
  unfold enqueue PoolGuard.acquire
  split <;> rfl

@[simp] theorem giveBack_settings : d.giveBack.guard.settings = d.guard.settings := by
  by_cases h : d.guard.active = 0
  · simp only [giveBack, PoolGuard.release_of_zero h]
  · rcases giveBack_cases h with ⟨-, heq⟩ | ⟨t, rest, -, heq⟩ <;> rw [heq] <;> rfl

@[simp] theorem giveBack_history : d.giveBack.history = d.history := by
  by_cases h : d.guard.active = 0
  · simp only [giveBack, PoolGuard.release_of_zero h]
  · rcases giveBack_cases h with ⟨-, heq⟩ | ⟨t, rest, -, heq⟩ <;> rw [heq]

@[simp] theorem refuse_settings (t : Ticket) (log : Log) :
    (d.refuse t log).guard.settings = d.guard.settings := by
  unfold refuse PoolGuard.expire
  dsimp only
  split <;> rfl

end

/-- A ticket that is settled is granted if it is settled with a slot; the others are as they
were. -/
theorem granted_settle {d d' : Desk ε} {t : Ticket} {r : Except Fault Unit} (h : d.outcome? t = none)
    (hsettled : d'.settled = d.settled ++ [(t, r)]) (u : Ticket) :
    d'.granted u = if u = t then r.isOk else d.granted u := by
  rw [granted, outcome?, hsettled, List.lookup_append]
  by_cases hu : u = t
  · subst hu
    rw [outcome?] at h
    rw [h, if_pos rfl, List.lookup_cons_self]
    rfl
  · have hne : (u == t) = false := by simpa using hu
    rw [if_neg hu, granted, outcome?]
    simp [List.lookup_cons, hne]

/-- A slot that is given back is in use no more, or was granted once more. -/
theorem giveBack_balance {d : Desk ε} (h : d.guard.active ≠ 0) :
    d.giveBack.grants + d.guard.active = d.grants + d.giveBack.guard.active + 1 := by
  rcases giveBack_cases h with ⟨-, heq⟩ | ⟨t, rest, -, heq⟩
  · rw [heq]
    show d.grants + d.guard.active = d.grants + (d.guard.active - 1) + 1
    omega
  · have hgrants : d.giveBack.grants = d.grants + 1 := by
      rw [heq, grants, grants, List.countP_append]
      rfl
    rw [hgrants, heq]
    show d.grants + 1 + d.guard.active = d.grants + d.guard.active + 1
    omega

namespace Sound

variable {d : Desk ε}

/-- A desk that was just opened. -/
theorem start {g : PoolGuard} (h : g.Sound 0) (hg : g.exhaustions = 0) :
    ({ guard := g } : Desk ε).Sound :=
  ⟨h, nofun, List.nodup_nil, nofun, nofun, hg⟩

/-- A ticket that was drawn is settled or waiting, once. -/
theorem tickets_nodup (h : d.Sound) : (d.settled.map Prod.fst ++ d.guard.waiting).Nodup := by
  refine List.Nodup.append h.once h.guard.nodup fun t hsettled hwaits => ?_
  obtain ⟨p, hp, rfl⟩ := List.mem_map.1 hsettled
  exact h.apart p hp hwaits

/-- What has nothing to do with tickets keeps the desk sound. -/
theorem congr (h : d.Sound) {d' : Desk ε} (hguard : d'.guard = d.guard) (hstamps : d'.stamps = d.stamps)
    (hsettled : d'.settled = d.settled) : d'.Sound where
  guard := by rw [hguard, hstamps]; exact h.guard
  drawn := by rw [hsettled, hstamps]; exact h.drawn
  once := by rw [hsettled]; exact h.once
  apart := by rw [hsettled, hguard]; exact h.apart
  exhaustion := by rw [hsettled]; exact h.exhaustion
  exhaustions := by rw [refusals, hsettled, hguard]; exact h.exhaustions

/-- A slot that is taken where one is free keeps a desk sound. -/
theorem occupy (h : d.Sound) (hroom : d.guard.active < d.guard.limit) : d.occupy.Sound where
  guard := h.guard.occupy hroom
  drawn p hp := Nat.lt_succ_of_lt (h.drawn p hp)
  once := h.once
  apart := h.apart
  exhaustion := h.exhaustion
  exhaustions := h.exhaustions

/-- A borrower that joins the queue where no slot is free keeps a desk sound. -/
theorem enqueue (h : d.Sound) (hfull : ¬ d.guard.active < d.guard.limit) (now : Time) (log : Log) :
    (d.enqueue now log).Sound := by
  obtain ⟨timers, -, -, hacquire⟩ := PoolGuard.acquire_of_not_lt hfull now d.stamps
  refine ⟨h.guard.enqueue hfull now, fun p hp => Nat.lt_succ_of_lt (h.drawn p hp), h.once,
    fun p hp => ?_, h.exhaustion, ?_⟩
  · have hnew : p.1 ≠ d.stamps := Nat.ne_of_lt (h.drawn p hp)
    simp only [Desk.enqueue, hacquire, List.mem_append, List.mem_singleton, not_or]
    exact ⟨h.apart p hp, hnew⟩
  · simp only [Desk.enqueue, hacquire]
    exact h.exhaustions

/-- A ticket that leaves the queue is settled. -/
theorem settle (h : d.Sound) {t : Ticket} {r : Except Fault Unit} {g : PoolGuard}
    (ht : t ∈ d.guard.waiting) (hg : g.Sound d.stamps)
    (hsub : ∀ u ∈ g.waiting, u ∈ d.guard.waiting ∧ u ≠ t) (hr : ∀ f, r = .error f → f.IsExhaustion)
    (hexhaustions : g.exhaustions = d.guard.exhaustions + if r.isOk then 0 else 1) :
    ({ d with guard := g, settled := d.settled ++ [(t, r)] } : Desk ε).Sound where
  guard := hg
  drawn p hp := by
    rcases List.mem_append.1 hp with hp | hp
    · exact h.drawn p hp
    · rw [List.mem_singleton.1 hp]
      exact h.guard.drawn t ht
  once := by
    rw [List.map_append]
    refine List.Nodup.append h.once (List.nodup_singleton t) ?_
    rw [List.map_singleton, List.disjoint_singleton]
    intro hmem
    obtain ⟨p, hp, rfl⟩ := List.mem_map.1 hmem
    exact h.apart p hp ht
  apart p hp hwaits := by
    obtain ⟨hold, hne⟩ := hsub _ hwaits
    rcases List.mem_append.1 hp with hp | hp
    · exact h.apart p hp hold
    · rw [List.mem_singleton.1 hp] at hne
      exact hne rfl
  exhaustion u f huf := by
    rcases List.mem_append.1 huf with huf | huf
    · exact h.exhaustion u f huf
    · cases List.mem_singleton.1 huf
      exact hr f rfl
  exhaustions := by
    have hcount : ({ d with guard := g, settled := d.settled ++ [(t, r)] } : Desk ε).refusals
        = d.refusals + if r.isOk then 0 else 1 := by
      simp only [refusals, List.countP_append, List.countP_singleton]
      cases r.isOk <;> rfl
    rw [hcount, ← h.exhaustions]
    exact hexhaustions

/-- A ticket that was not drawn yet was not settled. -/
theorem outcome?_stamps (h : d.Sound) : d.outcome? d.stamps = none := by
  rw [outcome?, List.lookup_eq_none_iff]
  intro p hp
  simpa using Nat.ne_of_gt (h.drawn p hp)

/-- A ticket is settled without a slot only after too long a wait. -/
theorem exhaustion_of_outcome (h : d.Sound) {t : Ticket} {f : Fault}
    (ht : d.outcome? t = some (.error f)) : f.IsExhaustion := by
  obtain ⟨before, after, hsettled, -⟩ := List.lookup_eq_some_iff.1 ht
  exact h.exhaustion t f (hsettled ▸ List.mem_append_right _ List.mem_cons_self)

/-- A ticket that waits was not settled. -/
theorem outcome?_waiting (h : d.Sound) {t : Ticket} (ht : t ∈ d.guard.waiting) :
    d.outcome? t = none := by
  rw [outcome?, List.lookup_eq_none_iff]
  intro p hp
  simpa using fun heq : t = p.1 => h.apart p hp (heq ▸ ht)

/-- A slot that is given back keeps a desk sound. -/
theorem giveBack (h : d.Sound) (hactive : d.guard.active ≠ 0) : d.giveBack.Sound := by
  rcases giveBack_cases hactive with ⟨hw, heq⟩ | ⟨t, rest, hw, heq⟩
  · rw [heq]
    exact ⟨h.guard.vacate hw, h.drawn, h.once, h.apart, h.exhaustion, h.exhaustions⟩
  · rw [heq]
    have ht : t ∈ d.guard.waiting := hw ▸ List.mem_cons_self
    have hnodup := h.guard.nodup
    rw [hw, List.nodup_cons] at hnodup
    refine h.settle ht (h.guard.passOn hw) (fun u hu => ⟨?_, ?_⟩) nofun rfl
    · rw [hw]
      exact List.mem_cons_of_mem t hu
    · exact ne_of_mem_of_not_mem hu hnodup.1

/-- A refusal of who waits keeps a desk sound. -/
theorem refuse (h : d.Sound) {t : Ticket} (ht : t ∈ d.guard.waiting) (log : Log) :
    (d.refuse t log).Sound := by
  have hsound := h.guard.expire ht
  have hexpire := PoolGuard.expire_of_mem ht
  have hsettled : (d.refuse t d.log).Sound := by
    refine h.settle ht hsound (fun u hu => ?_) (fun f hf => ?_) (by rw [hexpire]; rfl)
    · rw [hexpire] at hu
      exact ⟨List.mem_of_mem_erase hu, fun heq => h.guard.nodup.not_mem_erase (heq ▸ hu)⟩
    · cases hf
      exact d.guard.refusal_isExhaustion t
  exact hsettled.congr rfl rfl rfl

end Sound

end Desk

/-! ## Programs over a desk -/

/-- Where entries are written. -/
def journal (clock : Clock ε) : Journal (Desk ε) :=
  ⟨⟨Desk.log, fun log d => { d with log := log }⟩, fun d => clock.time d.history⟩

/-- Borrowing slots of the desk's guard, where borrowers wait in a given way. -/
def pool (clock : Clock ε) (wait : Ticket → Program S (Desk ε) Unit) : Pool S (Desk ε) where
  journal := journal clock
  guard := ⟨Desk.guard, fun guard d => { d with guard := guard }⟩
  stamps := ⟨Desk.stamps, fun stamps d => { d with stamps := stamps }⟩
  wait := wait
  settle t outcome d := { d with settled := d.settled ++ [(t, outcome)] }

section

variable (clock : Clock ε) (wait : Ticket → Program S (Desk ε) Unit) (d : Desk ε)

/-- Writing an entry changes the log and no more. -/
theorem exists_written (level : Level) (message : Text) (fields : Json.Members) :
    ∃ log, (journal clock).written level message fields d = .ok { d with log := log } :=
  (journal clock).exists_written (clock.dated d.history) level message fields

/-- A line is written without a stop and changes the log alone. -/
theorem advance_write (level : Level) (message : Text) (fields : Json.Members) :
    ∃ log, ((journal clock).write level message fields : Program S (Desk ε) Unit).advance d
      = ({ d with log := log }, .ended (.ok ())) := by
  obtain ⟨log, h⟩ := exists_written clock d level message fields
  exact ⟨log, by simp [Journal.write, Program.tryChange, Program.advance, h, Except.map]⟩

@[simp] theorem journal_now : (journal clock).now d = clock.time d.history := rfl

@[simp] theorem pool_journal : (pool clock wait).journal = journal clock := rfl

@[simp] theorem pool_guard_get : (pool clock wait).guard.get d = d.guard := rfl

@[simp] theorem pool_guard_update (f : PoolGuard → PoolGuard) :
    (pool clock wait).guard.update f d = { d with guard := f d.guard } := rfl

/-- A free slot is taken at once. -/
theorem advance_acquire_of_lt (h : d.guard.active < d.guard.limit) :
    (pool clock wait).acquire.advance d = (d.occupy, .ended (.ok ())) := by
  have hroom : d.guard.hasRoom = true := by simpa [PoolGuard.hasRoom] using h
  have hreceive : (pool clock wait).receive d = (.granted, d.occupy) := by
    have hacquire := PoolGuard.acquire_of_lt h (clock.time d.history) d.stamps
    simp only [Pool.receive, pool, journal, hacquire]
    rfl
  simp [Pool.acquire, Program.advance_bind, hroom, hreceive]

/-- Where no slot is free, the borrower waits for a ticket of its own. -/
theorem advance_acquire_of_not_lt (h : ¬ d.guard.active < d.guard.limit) :
    ∃ log, (pool clock wait).acquire.advance d
      = (wait d.stamps).advance (d.enqueue (clock.time d.history) log) := by
  have hroom : d.guard.hasRoom = false := by simpa [PoolGuard.hasRoom] using h
  have hreceive : ∀ log, (pool clock wait).receive { d with log := log }
      = (.queued d.stamps, d.enqueue (clock.time d.history) log) := by
    intro log
    obtain ⟨timers, -, -, hacquire⟩ := PoolGuard.acquire_of_not_lt h (clock.time d.history) d.stamps
    simp only [Pool.receive, pool, journal, hacquire, Desk.enqueue]
  by_cases hwarn : Pool.warnThreshold ≤ d.guard.waiting.length
  · obtain ⟨log, hwrite⟩ := advance_write (S := S) clock d .warn
      "[pool-guard] connection queue backing up"
      (Journal.count "queued" d.guard.waiting.length ++ Journal.count "active" d.guard.active)
    refine ⟨log, ?_⟩
    simp [Pool.acquire, Program.advance_bind, hroom, hwarn, hwrite, hreceive]
    rfl
  · refine ⟨d.log, ?_⟩
    have hreceive := hreceive d.log
    simp [Pool.acquire, Program.advance_bind, hroom, hwarn, hreceive]
    rfl

/-- A slot that is not in use cannot be given back. -/
theorem advance_release_of_zero (h : d.guard.active = 0) :
    (pool clock wait).release.advance d = (d, .ended (.error PoolGuard.unmatched)) := by
  simp [Pool.release, Program.advance_bind, PoolGuard.release_of_zero h]

/-- A slot that was taken is given back without a stop. -/
theorem advance_release (h : d.guard.active ≠ 0) :
    (pool clock wait).release.advance d = (d.giveBack, .ended (.ok ())) := by
  cases hw : d.guard.waiting with
  | nil =>
    have hrelease := PoolGuard.release_of_nil h hw
    simp [Pool.release, Program.advance_bind, hrelease, Desk.giveBack]
  | cons t rest =>
    have hrelease := PoolGuard.release_of_cons h hw
    simp [Pool.release, Program.advance_bind, hrelease, Desk.giveBack]
    rfl

/-- The timer of a borrower that waits turns it away. -/
theorem expire_of_mem {t : Ticket} (h : t ∈ d.guard.waiting) :
    ∃ log, (pool clock wait).expire t d = (.ok (), d.refuse t log) := by
  have hexpire := PoolGuard.expire_of_mem h
  obtain ⟨log, hwritten⟩ := exists_written clock { d with guard := (d.guard.expire t).2 } .error
    (((d.guard.refusal t).info?.map (·.message)).getD [])
    (Journal.field "code" ((d.guard.refusal t).textCode?.getD []))
  refine ⟨log, ?_⟩
  rw [hexpire] at hwritten
  simp only [Pool.expire, pool, hexpire, hwritten, Desk.refuse]

/-- What follows an operation gives the slot back. -/
theorem advance_windUp (h : d.guard.active ≠ 0) (name : Text) (start : Time) :
    ∃ log, ((pool clock wait).windUp name start).advance d
      = (({ d with log := log } : Desk ε).giveBack, .ended (.ok ())) := by
  by_cases hslow : Pool.slowThresholdMs.lt (clock.time d.history - start) = true
  · obtain ⟨log, hwrite⟩ := advance_write (S := S) clock d .warn ("[pool-guard] slow DB op: " ++ name)
      [("durationMs", .num (clock.time d.history - start))]
    have hrelease := advance_release clock wait { d with log := log } h
    refine ⟨log, ?_⟩
    simp [Pool.windUp, Program.advance_bind, hslow, hwrite, hrelease]
  · refine ⟨d.log, ?_⟩
    have hrelease := advance_release clock wait d h
    simp [Pool.windUp, Program.advance_bind, hslow, hrelease]

end

end Lending

end UnitOfWork
