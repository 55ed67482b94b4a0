import UnitOfWork.Proofs.Apart.Binding

/-!
# Scopes do not leak

However many errands run side by side and however they take turns, the registry acts on the session
of the innermost scope or attempt that the calling errand is in, and every errand does what it does
when it runs alone (`Setting.scopes_apart`), as long as the bus fails with what log entries can
tell. Where it does not, a scope may fail among others that returns alone (`fails_beside_others`).
No errand keeps another from its end (`exists_ended`).
-/

namespace UnitOfWork.Apart

variable {υ α : Type}

/-! ## Errands end -/

/-- The last turn comes after all others. -/
theorem moves_concat (c : Errands υ α) (turns : List Turn) (t : Turn) :
    moves c (turns ++ [t]) = move (moves c turns) t := by
  simp [moves]

/-- The first turns of an endless row. -/
def firstTurns (row : Nat → Turn) (n : Nat) : List Turn :=
  (List.range n).map row

/-- One more of the first turns is the next one of the row. -/
theorem moves_firstTurns_succ (c : Errands υ α) (row : Nat → Turn) (n : Nat) :
    moves c (firstTurns row (n + 1)) = move (moves c (firstTurns row n)) (row n) := by
  rw [firstTurns, List.range_succ, List.map_append, List.map_singleton, moves_concat]
  rfl

section

variable (c : Errands υ α) {i : Nat} {row : Nat → Turn} (hrow : ∀ n, ∃ m, n ≤ m ∧ (row m).who = i)

include hrow

/-- Until an errand has its next turn, it has the same left to do. -/
theorem exists_next_turn (n : Nat) :
    ∃ m, (row m).who = i
      ∧ (moves c (firstTurns row m)).programs i = (moves c (firstTurns row n)).programs i := by
  obtain ⟨m, hm, hwho⟩ := hrow n
  induction hdistance : m - n generalizing n with
  | zero =>
    obtain rfl : m = n := by omega
    exact ⟨m, hwho, rfl⟩
  | succ distance ih =>
    by_cases hself : (row n).who = i
    · exact ⟨n, hself, rfl⟩
    · obtain ⟨k, hk, hsame⟩ := ih (n + 1) (by omega) (by omega)
      rw [moves_firstTurns_succ, move_of_ne _ (Ne.symm hself)] at hsame
      exact ⟨k, hk, hsame⟩

/-- An errand that gets turns again and again comes to its end, whatever the others do. -/
theorem exists_ended : ∃ n r, (moves c (firstTurns row n)).programs i = .done r := by
  suffices h : ∀ p n, (moves c (firstTurns row n)).programs i = p →
      ∃ n r, (moves c (firstTurns row n)).programs i = .done r from h _ 0 rfl
  intro p
  induction p with
  | done r => exact fun n hn => ⟨n, r, hn⟩
  | act update next ih =>
    intro n hn
    obtain ⟨m, rfl, hm⟩ := exists_next_turn c hrow n
    refine ih (moves c (firstTurns row m)).state (m + 1) ?_
    rw [moves_firstTurns_succ, move_act _ _ (hm.trans hn)]
    exact Function.update_self ..
  | ask request next ih =>
    intro n hn
    obtain ⟨m, rfl, hm⟩ := exists_next_turn c hrow n
    refine ih (respond (row m).who request (row m).reply (moves c (firstTurns row m)).state).1 (m + 1) ?_
    rw [moves_firstTurns_succ, move_ask _ _ (hm.trans hn)]
    exact Function.update_self ..

end

/-! ## Each errand does what it does alone -/

/-- Scopes of any number of errands that run side by side do not leak into one another. Whatever
turns have been taken, what the registry told or queued for an errand concerned the session of the
innermost scope or attempt around the call, and failed outside of all. And if the calls of an errand
have the same results as when it runs alone, and its bus fails, if it does, with what log entries
can tell, then so far it has done what it does alone, with the same statements, the same messages
handed over and the same outcome of each scope, and once it has ended there is nothing else that it
does. The buses of the others may do anything. -/
theorem Setting.scopes_apart (T : Setting υ α) (errands : Nat → Errand υ α) (own : Nat → υ)
    (turns : List Turn) (i : Nat) :
    T.Heedful ((T.sideBySide errands own turns).state.histories i)
      ∧ ∀ oracle : Site υ α → Request → Reply,
        (∀ t ∈ turns, t.who = i → Trial.Settles t.reply.published) →
        (∀ s request, Trial.Settles (oracle s request).published) →
        SameResults ((T.sideBySide errands own turns).state.histories i)
            ((T.byItself i (errands i) own oracle).2.histories i) →
          (T.sideBySide errands own turns).state.histories i
              <+: (T.byItself i (errands i) own oracle).2.histories i
            ∧ ∀ r, (T.sideBySide errands own turns).programs i = .done r →
              (T.byItself i (errands i) own oracle).1 = r
                ∧ (T.byItself i (errands i) own oracle).2.histories i
                  = (T.sideBySide errands own turns).state.histories i := by
  refine ⟨((mindful_start errands own).moves turns).heedful i, fun oracle hturns htold hsame => ?_⟩
  have haccompanied := (T.accompanied_start errands own i oracle).moves htold (T.tame_start errands own)
    turns hturns hsame
  exact ⟨haccompanied.isPrefix htold, fun r hr => haccompanied.ended htold hr⟩

/-- A setting in which the clock stands still. -/
def Setting.still (υ α : Type) : Setting υ α where
  label _ := "session"
  clock _ := .finite 0
  dated _ := by decide
  publishAttempts := .finite 1
  registryRef := 0

/-- Nothing fails. -/
def Reply.plain : Reply where
  lent := .ok ⟨1⟩
  carriedOut := .ok ()
  advice := .ok .null
  published := .ok ()
  drawn := .finite 0

/-- Executes a statement in a scope and asks for the session that is bound. -/
def querying (i : Nat) : Errand Unit SessionRef :=
  .inScope true (fun ref => .call ref (.query (if i = 0 then "SELECT 0" else "SELECT 1")) fun _ =>
    .current .done) .done

/-- Two errands take turns. -/
def alternating (rounds : Nat) : List Turn :=
  (List.replicate rounds [⟨0, .plain⟩, ⟨1, .plain⟩]).flatten

/-- Two scopes that take turns. -/
abbrev twoScopes : Errands Unit SessionRef :=
  (Setting.still Unit SessionRef).sideBySide querying (fun _ => ()) (alternating 40)

/-- The second of them, alone. -/
abbrev oneScope : Except Fault SessionRef × Site Unit SessionRef :=
  (Setting.still Unit SessionRef).byItself 1 (querying 1) (fun _ => ()) fun _ _ => .plain

set_option maxRecDepth 2000 in
/-- Of two scopes that take turns at every step, one ends as it does alone. -/
theorem scopes_apart_twoScopes :
    SameResults (twoScopes.state.histories 1) (oneScope.2.histories 1)
      ∧ twoScopes.programs 1 = .done (.ok 2) ∧ oneScope.1 = .ok 2 := by
  have hhistories : twoScopes.state.histories 1 = oneScope.2.histories 1 := by
    with_unfolding_all rfl
  have hended : twoScopes.programs 1 = .done (.ok 2) := by
    with_unfolding_all rfl
  have hsame : SameResults (twoScopes.state.histories 1) (oneScope.2.histories 1) := by
    rw [hhistories]
    exact .refl _
  obtain ⟨-, happart⟩ :=
    (Setting.still Unit SessionRef).scopes_apart querying (fun _ => ()) (alternating 40) 1
  have hturns : ∀ t ∈ alternating 40, t.who = 1 → Trial.Settles t.reply.published := by
    intro t ht _
    obtain ⟨pair, hpair, ht⟩ := List.mem_flatten.1 ht
    cases List.eq_of_mem_replicate hpair
    rcases List.mem_cons.1 ht with rfl | ht
    · exact Trial.settles_ok _
    · cases List.mem_singleton.1 ht
      exact Trial.settles_ok _
  obtain ⟨-, hsettles⟩ := happart (fun _ _ => .plain) hturns (fun _ _ => Trial.settles_ok _) hsame
  exact ⟨hsame, hended, (hsettles _ hended).1⟩

/-- Queues a message in a scope that commits. -/
def announcing (_ : Nat) : Errand Unit Unit :=
  .inScope true (fun _ => .queue "chat" (some (.str "hello")) .done) .done

/-- What is left of an errand that has failed. -/
def failed : Program Calls (Site υ α) α → Bool
  | .done (.error _) => true
  | _ => false

/-- What has failed has failed with a fault. -/
theorem exists_of_failed {p : Program Calls (Site υ α) α} (h : failed p = true) :
    ∃ f, p = .done (.error f) := by
  cases p with
  | done r =>
    cases r with
    | ok a => cases h
    | error f => exact ⟨f, rfl⟩
  | act update next => cases h
  | ask request next => cases h

/-- A bus throws what log entries cannot tell while two scopes take turns. With the same results of
all its calls to the store, of which there are none, one of them fails that returns alone. -/
theorem fails_beside_others :
    let e : Fault := .value (some (.obj [("toString", .ofNat 1)]))
    let turns : List Turn :=
      (List.replicate 23 [⟨0, { Reply.plain with published := .error e }⟩, ⟨1, .plain⟩]).flatten
    let c := (Setting.still Unit Unit).sideBySide announcing (fun _ => ()) turns
    let solo := (Setting.still Unit Unit).byItself 0 (announcing 0) (fun _ => ()) fun _ _ => .plain
    SameResults (c.state.histories 0) (solo.2.histories 0)
      ∧ (∃ f, c.programs 0 = .done (.error f)) ∧ solo.1 = .ok () := by
  intro e turns c solo
  have hsilent : (c.state.histories 0).all (fun e => e.request?.isNone) = true := by decide +kernel
  refine ⟨.of_silent (fun e he => ?_) _, exists_of_failed (by decide +kernel), ?_⟩
  · exact Option.isNone_iff_eq_none.1 (List.all_eq_true.1 hsilent e he)
  · with_unfolding_all rfl

end UnitOfWork.Apart
