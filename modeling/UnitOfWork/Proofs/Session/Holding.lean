import UnitOfWork.Proofs.Session.Bracketing

/-!
# What a history says is held

The connection that a session holds can be read off its history: the last event that moves the grip
says it. `gripAfter` reads it, `Reachable.gripAfter_eq` ties it to the session's state, and
`Reachable.kept_iff` to the connections that were taken and not given back, at every point of a
history.
-/

namespace UnitOfWork.Trial

variable {kinds : Action → Prop} {s s' : SessionState} {H P S block : List SessionEvent} {c : Connection}

/-- The grip that an event leaves, if it moves the grip. -/
def SessionEvent.grip? : SessionEvent → Option Grip
  | executed c (.begin _) none => some ⟨some c, true⟩
  | reserved (.ok c) | executed c (.begin _) (some _) | executed c .commit _
  | executed c .rollback _ => some ⟨some c, false⟩
  | released _ _ => some ⟨none, false⟩
  | _ => none

/-- The last event of a history that moved the grip. -/
def lastMove (history : List SessionEvent) : Option SessionEvent :=
  (history.filter (·.grip?.isSome)).getLast?

/-- The grip after a history that began with a grip. -/
def gripFrom (g : Grip) (history : List SessionEvent) : Grip :=
  ((lastMove history).bind SessionEvent.grip?).getD g

/-- The grip after a history. -/
def gripAfter (history : List SessionEvent) : Grip :=
  gripFrom ⟨none, false⟩ history

/-! ## Reading on -/

@[simp] theorem lastMove_nil : lastMove [] = none := rfl

/-- The last move is in the later part, if there is one. -/
@[simp] theorem lastMove_append : lastMove (P ++ S) = (lastMove S).or (lastMove P) := by
  rw [lastMove, List.filter_append, List.getLast?_append, lastMove, lastMove]

/-- An event is a move if it sets a grip. -/
theorem lastMove_singleton (e : SessionEvent) :
    lastMove [e] = if e.grip?.isSome then some e else none := by
  cases h : e.grip? <;> simp [lastMove, h]

/-- The last move is a move. -/
theorem grip?_isSome_of_lastMove {e : SessionEvent} (h : lastMove H = some e) :
    e.grip?.isSome = true :=
  (List.mem_filter.1 (List.mem_of_getLast? h)).2

/-- What a history makes of a grip it makes of it in two parts. -/
theorem gripFrom_append (g : Grip) : gripFrom g (P ++ S) = gripFrom (gripFrom g P) S := by
  rw [gripFrom, lastMove_append, gripFrom]
  cases hS : lastMove S with
  | none => rfl
  | some e =>
    obtain ⟨g', hg'⟩ := Option.isSome_iff_exists.1 (grip?_isSome_of_lastMove hS)
    simp [hg']

/-- The grip after a history is what its end makes of the grip before. -/
theorem gripAfter_append : gripAfter (P ++ S) = gripFrom (gripAfter P) S :=
  gripFrom_append _

/-- An event sets a grip or leaves it. -/
theorem gripFrom_singleton (g : Grip) (e : SessionEvent) : gripFrom g [e] = e.grip?.getD g := by
  rw [gripFrom, lastMove_singleton]
  cases h : e.grip? <;> simp [h]

/-! ## Paths of moves -/

/-- An event that concerns no connection moves no grip. -/
theorem SessionEvent.Idle.grip?_eq_none {e : SessionEvent} (h : e.Idle) : e.grip? = none := by
  cases e with
  | executed c statement f => cases statement <;> first | rfl | cases h
  | reserved r => cases r <;> first | rfl | cases h
  | released c f => cases h
  | _ => rfl

/-- Where a move leads can be read off its event. -/
theorem Moves.eq_gripFrom {g g' : Grip} {e : SessionEvent} (h : Moves g e g') :
    g' = gripFrom g [e] := by
  rw [gripFrom_singleton]
  cases h with
  | idle _ he => rw [he.grip?_eq_none]; rfl
  | _ => rfl

/-- Where a path leads is what its events make of the grip. -/
theorem Path.eq_gripFrom {g g' : Grip} (h : Path g block g') : g' = gripFrom g block := by
  induction h with
  | nil g => rfl
  | cons hm _ ih => rw [ih, hm.eq_gripFrom, ← gripFrom_append]; rfl

/-- A path that leads over two blocks leads over the first one. -/
theorem Path.before {g g' : Grip} (h : Path g (P ++ S) g') : Path g P (gripFrom g P) := by
  induction P generalizing g with
  | nil => exact .nil g
  | cons e P ih =>
    cases h with
    | cons hm hrest =>
      have hrest' := ih hrest
      rw [hm.eq_gripFrom, ← gripFrom_append] at hrest'
      exact .cons hm (hm.eq_gripFrom ▸ hrest')

/-! ## Histories of a session -/

/-- The whole history of a session is a path. -/
theorem Reachable.path (h : Reachable kinds s H) : Path ⟨none, false⟩ H (.ofState s) := by
  induction h with
  | start => exact .nil _
  | step h hstep hkind hfresh ih => exact ih.append (hstep.path h.orderly.sound)

/-- A session holds what its history says. -/
theorem Reachable.gripAfter_eq (h : Reachable kinds s H) : gripAfter H = .ofState s :=
  h.path.eq_gripFrom.symm

/-- At every point of a history its grip agrees with what happened until then. -/
theorem Reachable.tracked_before (h : Reachable kinds s (P ++ S)) : Tracked (gripAfter P) P := by
  have hnew := h.taken_nodup
  rw [taken_append] at hnew
  exact (h.path.before.tracked .start .nil (List.nodup_append.1 hnew).1).1

/-- At every point of a history a connection that was taken and not given back is the one that is
held. -/
theorem Reachable.kept_iff (h : Reachable kinds s (P ++ S)) :
    Kept c P ↔ (gripAfter P).held = some c :=
  ⟨h.tracked_before.holds.of_kept, h.tracked_before.holds.kept c⟩

end UnitOfWork.Trial
