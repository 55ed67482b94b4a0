import Mathlib.Data.List.Nodup
import UnitOfWork.Pool.Guard

/-!
# The books of a guard

What a guard keeps, whatever borrowers and timers do to it. `PoolGuard.Sound` says that slots in use
stay within the limit, that nobody waits while a slot is free, and that the timers are those of the
borrowers that wait, each with one. Receiving a borrower, taking a slot back and the firing of a
borrower's timer each keep it, and `acquire_cases`, `release_cases` and `expire_of_mem` say what
else they do.
-/

namespace UnitOfWork

/-- A fault of a borrower that waited for too long. -/
def Fault.IsExhaustion (f : Fault) : Prop :=
  ∃ message, f = .of .poolExhausted message

namespace Timers

/-- Where timers carry the stamps of what they are for, the timer of a stamp is the one for it. -/
theorem map_payload_cancel {timers : Timers Ticket} (h : ∀ t ∈ timers, t.stamp = t.payload)
    (ticket : Ticket) :
    (timers.cancel ticket).map (·.payload) = (timers.map (·.payload)).filter (· ≠ ticket) := by
  rw [List.filter_map, cancel]
  refine congrArg (List.map _) (List.filter_congr fun t ht => ?_)
  simp [h t ht]

end Timers

namespace PoolGuard

/-- What a guard keeps in every state. The tickets of its borrowers are below the bound. -/
structure Sound (g : PoolGuard) (bound : Nat) : Prop where
  active_le : g.active ≤ g.limit
  full : g.waiting ≠ [] → g.active = g.limit
  nodup : g.waiting.Nodup
  drawn : ∀ t ∈ g.waiting, t < bound
  timed : g.timers.map (·.payload) = if g.timesOut then g.waiting else []
  stamped : ∀ t ∈ g.timers, t.stamp = t.payload

/-- The settings of a guard, which never change. -/
def settings (g : PoolGuard) : Nat × Number :=
  (g.limit, g.queueTimeoutMs)

variable {g : PoolGuard} {bound : Nat}

/-- The limit is one of the settings. -/
theorem limit_eq_of_settings {g' : PoolGuard} (h : g'.settings = g.settings) : g'.limit = g.limit :=
  congrArg Prod.fst h

/-- Whether borrowers time out is a matter of the settings. -/
theorem timesOut_eq_of_settings {g' : PoolGuard} (h : g'.settings = g.settings) :
    g'.timesOut = g.timesOut := by
  have htimeout : g'.queueTimeoutMs = g.queueTimeoutMs := congrArg Prod.snd h
  rw [timesOut, timesOut, htimeout]

/-! ## Guards that are made -/

/-- A value that sets a limit is a positive number. -/
theorem limit?_pos {limit : Option Json} {n : Nat} (h : limit? limit = some n) : 1 ≤ n := by
  unfold limit? at h
  split at h
  · split at h
    · split at h
      · cases h
        omega
      · cases h
    · cases h
  · cases h

/-- A guard is made with a positive limit and starts with nothing lent and nobody waiting. -/
theorem make_eq_ok {limit : Option Json} {queueTimeoutMs : Number}
    (h : make limit queueTimeoutMs = .ok g) : ∃ n, 1 ≤ n ∧ g = { limit := n, queueTimeoutMs } := by
  unfold make at h
  split at h
  next n hn =>
    cases h
    exact ⟨n, limit?_pos hn, rfl⟩
  next =>
    cases hquoted : Fault.quoted limit <;> rw [hquoted] at h <;> cases h

/-- A guard is made with every limit that is a positive integer. -/
theorem make_of_pos {value : Number} {n : Nat} (hvalue : value.toInt? = some (n : Int)) (hn : 1 ≤ n)
    (queueTimeoutMs : Number) :
    make (some (.num value)) queueTimeoutMs = .ok { limit := n, queueTimeoutMs } := by
  have hpos : (1 : Int) ≤ n := Int.ofNat_le.2 hn
  have hlimit : limit? (some (.num value)) = some n := by simp [limit?, hvalue, hpos]
  simp only [make, hlimit]

/-- A guard that was just made is sound. -/
theorem sound_of_make {limit : Option Json} {queueTimeoutMs : Number}
    (h : make limit queueTimeoutMs = .ok g) (bound : Nat) : g.Sound bound := by
  obtain ⟨n, -, rfl⟩ := make_eq_ok h
  exact ⟨Nat.zero_le _, fun hne => absurd rfl hne, List.nodup_nil, nofun, by simp, nofun⟩

/-- A guard with one slot, on which nobody waits for longer than fifty milliseconds. -/
def oneSlot : PoolGuard :=
  { limit := 1, queueTimeoutMs := 50 }

theorem make_oneSlot : make (some (.num 1)) 50 = .ok oneSlot := rfl

/-! ## Receiving a borrower -/

/-- Where a slot is free it is granted at once. -/
theorem acquire_of_lt (h : g.active < g.limit) (now : Time) (stamp : Nat) :
    g.acquire now stamp = (.granted, { g with active := g.active + 1 }) := by
  rw [acquire, if_pos (by simpa [hasRoom] using h)]

/-- Where no slot is free the borrower joins the queue, with a timer if borrowers time out. -/
theorem acquire_of_not_lt (h : ¬ g.active < g.limit) (now : Time) (stamp : Nat) :
    ∃ timers : Timers Ticket, timers.map (·.payload) = (if g.timesOut then [stamp] else [])
      ∧ (∀ t ∈ timers, t.stamp = t.payload)
      ∧ g.acquire now stamp
        = (.queued stamp, { g with waiting := g.waiting ++ [stamp], timers := g.timers ++ timers }) := by
  have hroom : ¬ g.hasRoom = true := by simpa [hasRoom] using h
  rw [acquire, if_neg hroom]
  refine ⟨_, ?_, ?_, rfl⟩
  · split <;> rfl
  · split <;> simp

/-- A borrower gets a free slot. Nobody waits then, so nobody is passed over. -/
theorem Sound.occupy (h : g.Sound bound) (hroom : g.active < g.limit) :
    ({ g with active := g.active + 1 } : PoolGuard).Sound (bound + 1) where
  active_le := hroom
  full hne := absurd (h.full hne) (Nat.ne_of_lt hroom)
  nodup := h.nodup
  drawn t ht := Nat.lt_succ_of_lt (h.drawn t ht)
  timed := h.timed
  stamped := h.stamped

/-- A borrower that finds no slot joins the queue under a ticket that nobody else has. -/
theorem Sound.enqueue (h : g.Sound bound) (hfull : ¬ g.active < g.limit) (now : Time) :
    (g.acquire now bound).2.Sound (bound + 1) := by
  obtain ⟨timers, hpayloads, hstamps, heq⟩ := acquire_of_not_lt hfull now bound
  rw [heq]
  have hnew : bound ∉ g.waiting := fun hmem => Nat.lt_irrefl bound (h.drawn bound hmem)
  refine ⟨h.active_le, fun _ => Nat.le_antisymm h.active_le (Nat.not_lt.1 hfull), ?_, ?_, ?_, ?_⟩
  · exact List.Nodup.append h.nodup (List.nodup_singleton bound) (by simpa using hnew)
  · intro t ht
    rcases List.mem_append.1 ht with ht | ht
    · exact Nat.lt_succ_of_lt (h.drawn t ht)
    · rw [List.mem_singleton.1 ht]
      exact Nat.lt_succ_self bound
  · rw [List.map_append, h.timed, hpayloads]
    show _ = if g.timesOut then _ else _
    split <;> rfl
  · intro t ht
    exact (List.mem_append.1 ht).elim (h.stamped t) (hstamps t)

/-! ## Taking a slot back -/

/-- What giving back a slot that is not in use is answered with. -/
def unmatched : Fault :=
  outOfRange "[pool-guard] release() without a matching acquire()"

/-- No slot can be given back that was not taken. -/
theorem release_of_zero (h : g.active = 0) : g.release = .error unmatched := by
  rw [release, if_pos h]
  rfl

/-- A slot that nobody waits for becomes free. -/
theorem release_of_nil (h : g.active ≠ 0) (hw : g.waiting = []) :
    g.release = .ok (none, { g with active := g.active - 1 }) := by
  rw [release, if_neg h, hw]

/-- A slot goes to the head of the queue, whose timer is cancelled. -/
theorem release_of_cons (h : g.active ≠ 0) {t : Ticket} {rest : List Ticket}
    (hw : g.waiting = t :: rest) :
    g.release = .ok (some t, { g with waiting := rest, timers := g.timers.cancel t }) := by
  rw [release, if_neg h, hw]

/-- A slot is free again. -/
theorem Sound.vacate (h : g.Sound bound) (hw : g.waiting = []) :
    ({ g with active := g.active - 1 } : PoolGuard).Sound bound where
  active_le := Nat.le_trans (Nat.sub_le _ _) h.active_le
  full hne := absurd hw hne
  nodup := h.nodup
  drawn := h.drawn
  timed := h.timed
  stamped := h.stamped

/-- Taking a borrower out of the queue and cancelling its timer keeps the books. -/
theorem Sound.drop (h : g.Sound bound) (t : Ticket) :
    ({ g with waiting := g.waiting.filter (· ≠ t), timers := g.timers.cancel t } : PoolGuard).Sound
      bound where
  active_le := h.active_le
  full hne := h.full fun hnil => hne (by rw [hnil]; rfl)
  nodup := h.nodup.filter _
  drawn u hu := h.drawn u (List.mem_of_mem_filter hu)
  timed := by
    rw [Timers.map_payload_cancel h.stamped, h.timed]
    show _ = if g.timesOut then _ else _
    split <;> rfl
  stamped u hu := h.stamped u (List.mem_of_mem_filter hu)

/-- The borrower that waited longest gets the slot that is given back. -/
theorem Sound.passOn (h : g.Sound bound) {t : Ticket} {rest : List Ticket}
    (hw : g.waiting = t :: rest) :
    ({ g with waiting := rest, timers := g.timers.cancel t } : PoolGuard).Sound bound := by
  have hnodup := h.nodup
  rw [hw, List.nodup_cons] at hnodup
  have hrest : g.waiting.filter (· ≠ t) = rest := by
    rw [hw, List.filter_cons_of_neg (by simp), List.filter_eq_self]
    intro u hu
    simpa using ne_of_mem_of_not_mem hu hnodup.1
  have hdrop := h.drop t
  rwa [hrest] at hdrop

/-! ## The timer of a borrower fires -/

/-- What a borrower that waits too long is told. -/
def refusal (g : PoolGuard) (t : Ticket) : Fault :=
  exhausted { g with
    waiting := g.waiting.erase t, exhaustions := g.exhaustions + 1, timers := g.timers.cancel t }

/-- Who waited for too long is refused as the pool is exhausted. -/
theorem refusal_isExhaustion (g : PoolGuard) (t : Ticket) : (g.refusal t).IsExhaustion :=
  ⟨_, rfl⟩

/-- A borrower whose timer fires while it waits is refused and leaves the queue, and the refusal is
counted.
-/
theorem expire_of_mem {t : Ticket} (h : t ∈ g.waiting) :
    g.expire t = (some (g.refusal t), { g with
      waiting := g.waiting.erase t
      exhaustions := g.exhaustions + 1
      timers := g.timers.cancel t }) := by
  have hcontains : g.waiting.contains t = true := by simpa using h
  simp only [expire, hcontains, ↓reduceIte]
  rfl

/-- A refusal keeps a guard sound. -/
theorem Sound.expire (h : g.Sound bound) {t : Ticket} (ht : t ∈ g.waiting) :
    (g.expire t).2.Sound bound := by
  rw [expire_of_mem ht, h.nodup.erase_eq_filter]
  have hdrop := h.drop t
  have hsame : g.waiting.filter (· != t) = g.waiting.filter (· ≠ t) :=
    List.filter_congr fun u _ => Bool.eq_iff_iff.2 (by simp)
  rw [hsame]
  exact ⟨hdrop.active_le, hdrop.full, hdrop.nodup, hdrop.drawn, hdrop.timed, hdrop.stamped⟩

/-- A timer that is pending is that of a borrower that waits. -/
theorem Sound.payload_mem (h : g.Sound bound) {t : Timer Ticket} (ht : t ∈ g.timers) :
    t.payload ∈ g.waiting := by
  have hmem : t.payload ∈ g.timers.map (·.payload) := List.mem_map_of_mem ht
  rw [h.timed] at hmem
  split at hmem
  · exact hmem
  · cases hmem

/-- Where waits have a bound, the pending timers are one for each borrower that waits and no
other. -/
theorem Sound.count_timers (h : g.Sound bound) (htimes : g.timesOut = true) (t : Ticket) :
    g.timers.countP (·.payload = t) = if t ∈ g.waiting then 1 else 0 := by
  have hcount : g.timers.countP (·.payload = t) = (g.timers.map (·.payload)).count t := by
    rw [List.count, List.countP_map]
    exact List.countP_congr fun u _ => by simp
  rw [hcount, h.timed, if_pos htimes]
  split
  next hmem => exact List.count_eq_one_of_mem h.nodup hmem
  next hnot => exact List.count_eq_zero_of_not_mem hnot

/-- Where waits have no bound, there are no timers. -/
theorem Sound.timers_eq_nil (h : g.Sound bound) (htimes : g.timesOut = false) : g.timers = [] := by
  have htimed := h.timed
  rw [htimes] at htimed
  exact List.map_eq_nil_iff.1 htimed

end PoolGuard

end UnitOfWork
