import Mathlib.Data.List.Nodup
import UnitOfWork.Proofs.Session.GivenBack

/-!
# Nested savepoints

Savepoints of a session are numbered in the order in which they are taken, and each is closed before
the one around it. `Nested` is the shape of a history in which they nest: a savepoint that was taken
is followed by its body, and that by the one statement that closes it, on the same connection. Work
may take savepoints within savepoints, and any of their statements may fail: the histories of its
sessions have this shape (`Work.nests`).
-/

namespace UnitOfWork

/-! ## Names -/

/-- A digit can be read back from its unit. -/
theorem Text.ofNat_unit {c : Char} (h : c.isDigit = true) : Char.ofNat (unit c).toNat = c := by
  have hlt : c.toNat < 2 ^ 16 := Nat.lt_of_le_of_lt (Char.isDigit_iff_toNat.1 h).2 (by decide)
  rw [unit, Nat.toUInt16_eq, UInt16.toNat_ofNat_of_lt' hlt, Char.ofNat_toNat]

/-- A number can be read back from its text. -/
theorem Text.ofDigitChars_ofNat (n : Nat) :
    Nat.ofDigitChars 10 ((ofNat n).map fun u => Char.ofNat u.toNat) 0 = n := by
  have hread : (Nat.toDigits 10 n).map (fun c => Char.ofNat (unit c).toNat) = Nat.toDigits 10 n := by
    refine (List.map_congr_left fun c hc => ?_).trans (List.map_id _)
    exact ofNat_unit (Nat.isDigit_of_mem_toDigits (by decide) (by decide) hc)
  rw [ofNat, List.map_map]
  exact (congrArg (Nat.ofDigitChars 10 · 0) hread).trans Nat.ofDigitChars_ten_toDigits

/-- Different numbers have different texts. -/
theorem Text.ofNat_injective : Function.Injective Text.ofNat := fun m n h => by
  rw [← ofDigitChars_ofNat m, h, ofDigitChars_ofNat]

/-- Savepoints of different numbers have different names. -/
theorem savepointName_injective : Function.Injective savepointName := fun _ _ h =>
  Text.ofNat_injective (List.append_cancel_left h)

namespace Trial

variable {υ α : Type} {s s' : SessionState} {H H' block : List SessionEvent} {c : Connection} {n : Nat}

/-! ## Histories of savepoints -/

/-- The event is no part of a savepoint. -/
def SessionEvent.Apart : SessionEvent → Prop
  | executed _ (.savepoint _) _ | executed _ (.releaseSavepoint _) _ | executed _ (.rollbackTo _) _
  | bodyBegan | bodyEnded _ => False
  | _ => True

/-- The savepoints of a history nest. -/
inductive Nested : List SessionEvent → Prop where
  | nil : Nested []
  | apart {e : SessionEvent} {rest : List SessionEvent} (he : e.Apart) (hrest : Nested rest) :
      Nested (e :: rest)
  /-- A savepoint that could not be taken has no body and is not closed. -/
  | refused {c : Connection} {n : Nat} {f : Fault} {rest : List SessionEvent} (hrest : Nested rest) :
      Nested (.executed c (.savepoint n) (some f) :: rest)
  /-- A savepoint that was taken is closed after its body, by RELEASE or by ROLLBACK TO. -/
  | around {c : Connection} {n : Nat} {r f : Option Fault} {body rest : List SessionEvent}
      (hbody : Nested body) (hrest : Nested rest) :
      Nested (.executed c (.savepoint n) none :: .bodyBegan
        :: (body ++ .bodyEnded r :: .executed c (.ending n r) f :: rest))

/-- The number of a savepoint that is taken, or tried to be taken, in an event. -/
def SessionEvent.number? : SessionEvent → Option Nat
  | executed _ (.savepoint n) _ => some n
  | _ => none

/-- The savepoint that is taken in an event, with its connection. -/
def SessionEvent.taking? : SessionEvent → Option (Connection × Nat)
  | executed c (.savepoint n) none => some (c, n)
  | _ => none

/-- The savepoint that a statement tries to close. -/
def SessionEvent.closing? : SessionEvent → Option (Connection × Nat)
  | executed c (.releaseSavepoint n) _ | executed c (.rollbackTo n) _ => some (c, n)
  | _ => none

/-- The numbers of the savepoints that were taken, or tried to be taken, in order. -/
def numbers (history : List SessionEvent) : List Nat :=
  history.filterMap SessionEvent.number?

/-- The savepoints that were taken, in order. -/
def takings (history : List SessionEvent) : List (Connection × Nat) :=
  history.filterMap SessionEvent.taking?

/-- The savepoints that statements tried to close, in order. -/
def closings (history : List SessionEvent) : List (Connection × Nat) :=
  history.filterMap SessionEvent.closing?

/-- The numbers of savepoints in two histories are those of both. -/
@[simp] theorem numbers_append : numbers (H ++ H') = numbers H ++ numbers H' :=
  List.filterMap_append

/-- The savepoints taken in two histories are those of both. -/
@[simp] theorem takings_append : takings (H ++ H') = takings H ++ takings H' :=
  List.filterMap_append

/-- The savepoints closed in two histories are those of both. -/
@[simp] theorem closings_append : closings (H ++ H') = closings H ++ closings H' :=
  List.filterMap_append

/-- An event apart from savepoints numbers, takes and closes none. -/
theorem SessionEvent.Apart.eq_none {e : SessionEvent} (h : e.Apart) :
    e.number? = none ∧ e.taking? = none ∧ e.closing? = none := by
  cases e with
  | executed c st f => cases st <;> first | exact h.elim | exact ⟨rfl, rfl, rfl⟩
  | _ => exact ⟨rfl, rfl, rfl⟩

/-- Events apart from savepoints number none. -/
theorem numbers_of_apart (h : ∀ e ∈ block, e.Apart) : numbers block = [] :=
  List.filterMap_eq_nil_iff.2 fun e he => (h e he).eq_none.1

/-- Histories that are nested are nested one after the other. -/
theorem Nested.append (h : Nested H) (h' : Nested H') : Nested (H ++ H') := by
  induction h with
  | nil => exact h'
  | apart he hrest ih => exact .apart he ih
  | refused hrest ih => exact .refused ih
  | around hbody hrest ihbody ih =>
    rw [List.cons_append, List.cons_append, List.append_assoc]
    exact .around hbody ih

/-- Events apart from savepoints are nested. -/
theorem nested_of_apart (h : ∀ e ∈ block, e.Apart) : Nested block := by
  induction block with
  | nil => exact .nil
  | cons e rest ih =>
    exact .apart (h e List.mem_cons_self) (ih fun e' he' => h e' (List.mem_cons_of_mem e he'))

/-- Every savepoint that was taken is closed, by one statement on its connection, and no other
is. -/
theorem Nested.closings_perm (h : Nested H) : (closings H).Perm (takings H) := by
  induction h with
  | nil => exact .nil
  | @apart e rest he hrest ih =>
    rw [closings, takings, List.filterMap_cons_none he.eq_none.2.2,
      List.filterMap_cons_none he.eq_none.2.1]
    exact ih
  | refused hrest ih => exact ih
  | @around c n r f body rest hbody hrest ihbody ih =>
    have hclosings : closings (.executed c (.savepoint n) none :: .bodyBegan
        :: (body ++ .bodyEnded r :: .executed c (.ending n r) f :: rest))
        = closings body ++ (c, n) :: closings rest := by
      refine closings_append.trans (congrArg (closings body ++ ·) ?_)
      cases r <;> rfl
    have htakings : takings (.executed c (.savepoint n) none :: .bodyBegan
        :: (body ++ .bodyEnded r :: .executed c (.ending n r) f :: rest))
        = (c, n) :: (takings body ++ takings rest) := by
      refine congrArg ((c, n) :: ·) (takings_append.trans (congrArg (takings body ++ ·) ?_))
      cases r <;> rfl
    rw [hclosings, htakings]
    exact List.perm_middle.trans (.cons _ (ihbody.append ih))

/-! ## Stretches of one session -/

/-- A session goes from a state to another by a block in which savepoints nest. They are numbered on
from those that were counted before. -/
structure Spans (s : SessionState) (block : List SessionEvent) (s' : SessionState) : Prop where
  nested : Nested block
  numbered : ∃ k, s'.savepoints = s.savepoints + k ∧ numbers block = List.range' (s.savepoints + 1) k

namespace Spans

/-- Events apart from savepoints, that count none, span none. -/
theorem of_apart (h : ∀ e ∈ block, e.Apart) (hcount : s'.savepoints = s.savepoints) :
    Spans s block s' :=
  ⟨nested_of_apart h, 0, hcount, numbers_of_apart h⟩

/-- What spans some savepoints and then others spans both. -/
theorem trans {s₁ s₂ : SessionState} (h : Spans s H s₁) (h' : Spans s₁ H' s₂) :
    Spans s (H ++ H') s₂ := by
  obtain ⟨k, hk, hnumbers⟩ := h.numbered
  obtain ⟨k', hk', hnumbers'⟩ := h'.numbered
  refine ⟨h.nested.append h'.nested, k + k', by omega, ?_⟩
  rw [numbers_append, hnumbers, hnumbers', hk, Nat.add_right_comm, List.range'_append_1]

/-- A savepoint that could not be taken is counted. -/
theorem refused (s : SessionState) (c : Connection) (f : Fault) :
    Spans s [.executed c (.savepoint (s.savepoints + 1)) (some f)] s.countSavepoint :=
  ⟨.refused .nil, 1, rfl, rfl⟩

/-- A savepoint around a body. -/
theorem around {s₂ : SessionState} {body : List SessionEvent} (h : Spans s.countSavepoint body s₂)
    (hcount : s'.savepoints = s₂.savepoints) (c : Connection) (r f : Option Fault) :
    Spans s (.executed c (.savepoint (s.savepoints + 1)) none :: .bodyBegan
      :: (body ++ [.bodyEnded r, .executed c (.ending (s.savepoints + 1) r) f])) s' := by
  obtain ⟨k, hk, hnumbers⟩ := h.numbered
  have hcounted : s.countSavepoint.savepoints = s.savepoints + 1 := rfl
  refine ⟨.around h.nested .nil, k + 1, by omega, ?_⟩
  have hends : numbers [.bodyEnded r, .executed c (.ending (s.savepoints + 1) r) f] = [] := by
    cases r <;> rfl
  have hbody : numbers (body ++ [.bodyEnded r, .executed c (.ending (s.savepoints + 1) r) f])
      = List.range' (s.savepoints + 1 + 1) k := by
    rw [numbers_append, hends, List.append_nil, hnumbers, hcounted]
  exact congrArg ((s.savepoints + 1) :: ·) hbody

end Spans

/-! ## Operations -/

/-- Coming to hold a connection has nothing to do with savepoints. -/
theorem Attaches.apart (h : Attaches s block c s') :
    (∀ e ∈ block, e.Apart) ∧ s'.savepoints = s.savepoints := by
  cases h with
  | kept h => exact ⟨by simp, rfl⟩
  | borrowed h => exact ⟨by simp [SessionEvent.Apart], rfl⟩

/-- Asking a session for its connection takes no savepoint. -/
theorem Connects.spans {r : Except Fault Connection} (h : Connects s block r s') :
    Spans s block s' := by
  cases h with
  | stuck ho h hi =>
    exact .of_apart (by simpa [or_imp, forall_and, SessionEvent.Apart] using h.apart.1) h.apart.2
  | began ho h hi =>
    exact .of_apart (by simpa [or_imp, forall_and, SessionEvent.Apart] using h.apart.1) h.apart.2
  | _ => exact .of_apart (by simp [SessionEvent.Apart]) rfl

/-- An operation takes no savepoint. -/
theorem Does.spans {call : SessionCall} {f : Option Fault} (h : Does s call block f s') :
    Spans s block s' := by
  have hhanding : ∀ messages : List Message, ∀ e ∈ handing messages, e.Apart := by
    intro messages e he
    cases messages with
    | nil => cases he
    | cons message rest => obtain rfl := List.mem_singleton.1 he; trivial
  cases h with
  | connected h => exact h.spans
  | queried h => exact h.spans.trans (.of_apart (by simp [SessionEvent.Apart]) rfl)
  | notQueried h => exact h.spans
  | committed ho hc =>
    exact .of_apart (by simpa [or_imp, forall_and, SessionEvent.Apart] using hhanding _) rfl
  | flushed ho hc => exact .of_apart (hhanding _) rfl
  | _ => exact .of_apart (by simp [SessionEvent.Apart]) rfl

/-! ## Desks -/

/-- The second desk follows the first, and in each session savepoints nest. -/
def Desk.Nests (d d' : Desk υ) : Prop :=
  ∀ ref, ∃ block, d'.eventsOf ref = d.eventsOf ref ++ block
    ∧ Spans (d.sessions ref) block (d'.sessions ref)

namespace Desk.Nests

variable {d d₁ d₂ d' : Desk υ} {ref : SessionRef}

/-- A desk on which no session has gone through anything is nested as before. -/
theorem of_same (hsessions : d'.sessions = d.sessions)
    (hevents : ∀ ref, d'.eventsOf ref = d.eventsOf ref) : d.Nests d' := fun ref =>
  ⟨[], by rw [hevents, List.append_nil], hsessions ▸ .of_apart (by simp) rfl⟩

/-- What is nested in two parts is nested. -/
theorem trans (h : d.Nests d₁) (h' : d₁.Nests d₂) : d.Nests d₂ := by
  intro ref
  obtain ⟨block, hevents, hspans⟩ := h ref
  obtain ⟨block', hevents', hspans'⟩ := h' ref
  exact ⟨block ++ block', by rw [hevents', hevents, List.append_assoc], hspans.trans hspans'⟩

/-- What one session does. -/
theorem takes (htakes : d.Takes ref block s d') (h : Spans (d.sessions ref) block s) : d.Nests d' := by
  intro r
  by_cases hr : r = ref
  · subst hr
    exact ⟨block, htakes.eventsOf_eq, htakes.session_eq ▸ h⟩
  · exact ⟨[], by rw [htakes.eventsOf_of_ne hr, List.append_nil],
      htakes.session_of_ne hr ▸ .of_apart (by simp) rfl⟩

/-- A savepoint around a body, which may go on in other sessions too. -/
theorem around (hmarks : Marks ref d c n none d₁)
    (hbody : (d₁.note (.session ref .bodyBegan)).Nests d₂) {r f : Option Fault}
    (hends : (d₂.note (.session ref (.bodyEnded r))).Takes ref [.executed c (.ending n r) f] s d')
    (hcount : s.savepoints = (d₂.sessions ref).savepoints) : d.Nests d' := by
  obtain @⟨block, _, s₀, _, d₀, _, hconn, hobtains, hmarks⟩ := hmarks
  have hbegins := (hobtains.trans hmarks).trans
    (hmarks.session_eq ▸ Desk.Takes.note d₁ ref (e := .bodyBegan) rfl)
  have hcloses := (Desk.Takes.note d₂ ref (e := .bodyEnded r) rfl).trans hends
  intro t
  obtain ⟨inner, hinner, hspans⟩ := hbody t
  by_cases ht : t = ref
  · subst ht
    rw [hbegins.session_eq] at hspans
    have hcount' : (d'.sessions t).savepoints = (d₂.sessions t).savepoints := by
      rw [hends.session_eq, hcount]
    refine ⟨_, ?_, hconn.spans.trans (hspans.around hcount' c r f)⟩
    rw [hcloses.eventsOf_eq, hinner, hbegins.eventsOf_eq]
    simp
  · rw [hbegins.session_of_ne ht] at hspans
    refine ⟨inner, ?_, ?_⟩
    · rw [hcloses.eventsOf_of_ne ht, hinner, hbegins.eventsOf_of_ne ht]
    · rw [hcloses.session_of_ne ht]
      exact hspans

end Desk.Nests

/-- A savepoint that could not be taken. -/
theorem Marks.nests {d d' : Desk υ} {ref : SessionRef} {f : Fault}
    (h : Marks ref d c n (some f) d') : d.Nests d' := by
  obtain ⟨hconn, hobtains, hmarks⟩ := h
  exact .takes (hobtains.trans hmarks) (hconn.spans.trans (.refused _ c f))

/-- A savepoint call is nested if its body is and settles. -/
theorem Saves.nests {w : Surroundings} {ref : SessionRef} {body : Program Calls (Desk υ) α}
    {r : Except Fault α} {d d' : Desk υ} (h : Saves w ref body d r d')
    (hsettles : ∀ c n d₁, Marks ref d c n none d₁ →
      Settles (body.run w.serve (d₁.note (.session ref .bodyBegan))).1)
    (hbody : ∀ c n d₁, Marks ref d c n none d₁ →
      (d₁.note (.session ref .bodyBegan)).Nests
        (body.run w.serve (d₁.note (.session ref .bodyBegan))).2) : d.Nests d' := by
  cases h with
  | refused hconn htakes => exact .takes htakes hconn.spans
  | unmarked hmarks => exact hmarks.nests
  | returned hmarks hrun hends =>
    have hinner := hbody _ _ _ hmarks
    rw [hrun] at hinner
    exact .around (r := none) hmarks hinner hends rfl
  | @failed c n f g d₁ d₂ _ hmarks hrun hf hends =>
    have hinner := hbody _ _ _ hmarks
    rw [hrun] at hinner
    exact .around (r := some f) hmarks hinner hends rfl
  | stranded hmarks hrun hf =>
    have hsettled := hsettles _ _ _ hmarks
    rw [hrun] at hsettled
    exact absurd (settles_error.1 hsettled) hf

/-- The desk on which a body begins hangs together if the desk before the savepoint does. -/
theorem Marks.orderly_began {d d₁ : Desk υ} {ref : SessionRef} {f : Option Fault}
    (h : Marks ref d c n f d₁) (hd : d.Orderly) : (d₁.note (.session ref .bodyBegan)).Orderly := by
  obtain ⟨hconn, hobtains, hmarks⟩ := h
  exact (hobtains.trans hmarks).orderly hd (hconn.orderly (hd ref)).countSavepoint

/-- Whatever work does and whatever fails, savepoints nest in its sessions. -/
theorem Work.nests (w : Surroundings) {work : Work υ α} (h : work.Sayable) {d : Desk υ}
    (hd : d.Orderly) : d.Nests ((work.play w).run w.serve d).2 := by
  induction work generalizing d with
  | done outcome => exact .of_same rfl fun _ => rfl
  | act update next ih =>
    have hkept : d.Nests { d with own := update d.own } := .of_same rfl fun _ => rfl
    exact hkept.trans (ih d.own (h _) hd)
  | consult question next ih =>
    obtain ⟨r, hr, hserve⟩ := w.serve_consult question d
    rw [Work.play, Program.run_ask, hserve]
    have hnote : d.Nests (d.note (.consulted question)) := .of_same rfl fun ref => by
      simp [Desk.note, Desk.eventsOf, sessionEvents, Event.of?]
    exact hnote.trans (ih r (h r hr) hd)
  | openSession next ih =>
    have hopens : d.Nests d.openSession.2 := .of_same rfl fun ref => by
      simp [Desk.openSession, Desk.note, Desk.eventsOf, sessionEvents, Event.of?]
    exact hopens.trans (ih d.opened (h _) hd)
  | look ref next ih => exact ih (d.sessions ref) (h _) hd
  | use ref c text next ih =>
    rw [Work.play, Program.run_andThen]
    by_cases ho : ref < d.opened
    · obtain ⟨f, d', hrun, hf, htakes⟩ := w.takes_execute ref d c (.other text)
      rw [run_onceOpened_of_lt ho, hrun]
      exact .trans (.takes htakes (.of_apart (by simp [SessionEvent.Apart]) rfl))
        (ih _ (h _ hf) (htakes.orderly hd (hd ref)))
    · rw [run_onceOpened_of_not_lt ho]
      exact ih _ (h _ (settles_of_isError rfl)) hd
  | call ref call next ih =>
    rw [Work.play, Program.run_andThen]
    by_cases ho : ref < d.opened
    · obtain ⟨r, block, s, d', hrun, hr, hdoes, htakes⟩ := w.run_calling ref d call (hd ref).sound
      rw [run_onceOpened_of_lt ho, hrun]
      have hspans : Spans (d.sessions ref) ([.called call] ++ block ++ [.settled call (Fault.of? r)])
          s :=
        ((Spans.of_apart (by simp [SessionEvent.Apart]) rfl).trans hdoes.spans).trans
          (.of_apart (by simp [SessionEvent.Apart]) rfl)
      exact .trans (.takes htakes hspans) (ih r (h r hr) (htakes.orderly hd (hdoes.orderly (hd ref))))
    · rw [run_onceOpened_of_not_lt ho]
      exact ih _ (h _ (settles_of_isError rfl)) hd
  | savepoint ref body next ihbody ih =>
    rw [Work.play, Program.run_andThen]
    by_cases ho : ref < d.opened
    · have hwalks : Walks w Label.Regular (ref + 1) (body.play w) := Work.walks_regular h.1 _
      obtain ⟨r, d', hrun, hr, hsaves⟩ := w.run_savepoint ref d (hd ref).sound (body.play w)
      rw [run_onceOpened_of_lt ho, hrun]
      have hsettles := fun c n d₁ (hmarks : Marks ref d c n none d₁) =>
        settles_of_regular (hmarks.walk_body ref trivial hd ho hwalks rfl).1
      have hnests : d.Nests d' :=
        hsaves.nests hsettles fun c n d₁ hmarks => ihbody h.1 (hmarks.orderly_began hd)
      exact hnests.trans (ih r (h.2 r hr) ((hsaves.walk ref trivial hd ho hwalks).orderly hd))
    · rw [run_onceOpened_of_not_lt ho]
      exact ih _ (h.2 _ (settles_of_isError rfl)) hd

end Trial

end UnitOfWork
