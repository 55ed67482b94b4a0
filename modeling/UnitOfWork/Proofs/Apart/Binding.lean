import UnitOfWork.Proofs.Apart.Alone

/-!
# The session that is bound

The history of an errand tells which sessions are bound around each of its steps, the innermost
first (`bound`). A history is heedful if whatever the registry tells or queues there concerns the
innermost of them, and fails where there is none (`Setting.Heedful`). Scopes, attempts and
savepoints keep what is bound however the work inside ends (`Stays`), so every history that an
errand may have is heedful, also while others take turns (`Setting.heedful_moves`).
-/

namespace UnitOfWork.Apart

variable {υ α β : Type}

/-! ## Heedful histories -/

/-- The sessions that are bound after an event. -/
def Event.binds (stack : List SessionRef) : Event α → List SessionRef
  | noted (.began ref) => ref :: stack
  | noted (.ended _) => stack.tail
  | _ => stack

/-- The sessions that are bound after a history, the innermost first. -/
def bound (history : List (Event α)) : List SessionRef :=
  history.foldl Event.binds []

/-- What is bound after one more event is what that binds. -/
@[simp] theorem bound_concat (history : List (Event α)) (e : Event α) :
    bound (history ++ [e]) = e.binds (bound history) := by
  simp [bound]

/-- An event that is not a note binds nothing. -/
theorem Event.Quiet.binds {e : Event α} (h : e.Quiet) (stack : List SessionRef) :
    e.binds stack = stack := by
  cases e with
  | noted n => exact absurd rfl (h n)
  | _ => rfl

namespace Setting

variable (T : Setting υ α)

/-- What queueing a message in a session comes to: the result, and the state that is set if one
is. -/
def queueing (ref : SessionRef) (x : SessionState) (channel : Text) (message : Option Json) :
    Except Fault Unit × List (Event α) :=
  if x.closed then (.error (T.session ref).closedFault, [])
  else
    match Session.body? message with
    | none => (.error (Session.messageFault channel), [])
    | some body => (.ok (), [.changed ref x { x with outbox := x.outbox.queue ⟨channel, body⟩ }])

/-- What the registry tells or queues concerns the innermost session that is bound. -/
def Heeds (before : List (Event α)) : Event α → Prop
  | .noted (.current r) =>
    match (bound before).head? with
    | none => r = .error Registry.unboundFault
    | some ref => r = .ok ref
  | .noted (.queued channel message r) =>
    match (bound before).head? with
    | none => r = .error Registry.unboundFault
    | some ref => ∃ earlier,
        r = (T.queueing ref (stateAfter ref earlier) channel message).1
          ∧ before = earlier ++ (T.queueing ref (stateAfter ref earlier) channel message).2
  | _ => True

/-- Whatever the registry tells or queues in a history concerns the innermost session that is bound
there. -/
def Heedful (history : List (Event α)) : Prop :=
  ∀ before e after, history = before ++ e :: after → T.Heeds before e

variable {T}

/-- An empty history is heedful. -/
theorem heedful_nil : T.Heedful [] := by
  intro before e after h
  simp at h

/-- A heedful history stays so by an event that heeds it. -/
theorem Heedful.concat {history : List (Event α)} (h : T.Heedful history) {e : Event α}
    (he : T.Heeds history e) : T.Heedful (history ++ [e]) := by
  intro before e' after heq
  rcases List.eq_nil_or_concat after with rfl | ⟨after, last, rfl⟩
  · obtain ⟨rfl, hlast⟩ := List.append_inj' heq rfl
    cases hlast
    exact he
  · rw [List.concat_eq_append, ← List.cons_append, ← List.append_assoc] at heq
    exact h before e' after (List.append_inj_left' heq rfl)

/-- An event that is not a note heeds whatever came before. -/
theorem heeds_of_quiet {history : List (Event α)} {e : Event α} (h : e.Quiet) : T.Heeds history e := by
  cases e with
  | noted n => exact absurd rfl (h n)
  | _ => trivial

/-- Events that are not notes keep a history heedful and what is bound. -/
theorem Heedful.append_quiet {history : List (Event α)} (h : T.Heedful history)
    {events : List (Event α)} (hquiet : ∀ e ∈ events, e.Quiet) :
    T.Heedful (history ++ events) ∧ bound (history ++ events) = bound history := by
  induction events generalizing history with
  | nil => simpa using h
  | cons e events ih =>
    obtain ⟨he, hevents⟩ := List.forall_mem_cons.1 hquiet
    obtain ⟨hheedful, hbound⟩ := ih (h.concat (heeds_of_quiet he)) hevents
    rw [List.append_assoc, List.singleton_append] at hheedful hbound
    exact ⟨hheedful, by rw [hbound, bound_concat, he.binds]⟩

end Setting

/-! ## Programs that uphold a property of the history -/

/-- Whatever the requests of an errand are answered with and whatever others do meanwhile, its
history has a property after each step, and at the end it is as `post` says. -/
def Upholds (i : Nat) (P : List (Event α) → Prop) (post : Except Fault β → List (Event α) → Prop) :
    Program Calls (Site υ α) β → List (Event α) → Prop
  | .done r, history => post r history
  | .act update next, history => ∀ s : Site υ α, s.Recorded → s.histories i = history →
      P ((update s).histories i) ∧ Upholds i P post (next s) ((update s).histories i)
  | .ask request next, history => ∀ reply (s : Site υ α), s.Recorded → s.histories i = history →
      P ((respond i request reply s).2.histories i)
        ∧ Upholds i P post (next (respond i request reply s).1) ((respond i request reply s).2.histories i)

section

variable {i : Nat} {P : List (Event α) → Prop} {post post' : Except Fault β → List (Event α) → Prop}
  {p : Program Calls (Site υ α) β} {history : List (Event α)}

/-- What a program upholds it upholds for every weaker end. -/
theorem Upholds.mono (h : Upholds i P post p history)
    (hpost : ∀ r history, post r history → post' r history) :
    Upholds i P post' p history := by
  induction p generalizing history with
  | done r => exact hpost r history h
  | act update next ih =>
    exact fun s hs hhistory => ⟨(h s hs hhistory).1, ih s (h s hs hhistory).2⟩
  | ask request next ih =>
    exact fun reply s hs hhistory =>
      ⟨(h reply s hs hhistory).1, ih _ (h reply s hs hhistory).2⟩

/-- What follows goes on from what is upheld at the end. -/
theorem Upholds.andThen {γ : Type} {next : Except Fault β → Program Calls (Site υ α) γ}
    {post : Except Fault γ → List (Event α) → Prop}
    (h : Upholds i P (fun r history => Upholds i P post (next r) history) p history) :
    Upholds i P post (p.andThen next) history := by
  induction p generalizing history with
  | done r => exact h
  | act update rest ih =>
    exact fun s hs hhistory => ⟨(h s hs hhistory).1, ih s (h s hs hhistory).2⟩
  | ask request rest ih =>
    exact fun reply s hs hhistory =>
      ⟨(h reply s hs hhistory).1, ih _ (h reply s hs hhistory).2⟩

end

/-- What is bound stays bound, however the program ends. -/
def Stays (T : Setting υ α) (i : Nat) (stack : List SessionRef) (p : Program Calls (Site υ α) β) : Prop :=
  ∀ history, T.Heedful history → bound history = stack →
    Upholds i T.Heedful (fun _ history => T.Heedful history ∧ bound history = stack) p history

namespace Stays

variable {γ : Type} {T : Setting υ α} {i : Nat} {stack : List SessionRef}
  {p : Program Calls (Site υ α) β}

/-- Nothing is bound or unbound where nothing is noted. -/
theorem of_quiet (h : KeepsTo true i Event.Quiet p) : Stays T i stack p := by
  intro history hheedful hbound
  induction p generalizing history with
  | done r => exact ⟨hheedful, hbound⟩
  | act update next ih =>
    intro s _ hs
    obtain ⟨events, hquiet, hgrows⟩ := (h s).1.grows
    obtain ⟨hheedful', hbound'⟩ := hheedful.append_quiet hquiet
    rw [hgrows, hs]
    exact ⟨hheedful', ih s (h s).2 _ hheedful' (hbound'.trans hbound)⟩
  | ask request next ih =>
    intro reply s _ hs
    have hchanges : s.Changes i Event.Quiet _ := respond_changes request reply s fun _ => id
    obtain ⟨events, hquiet, hgrows⟩ := hchanges.grows
    obtain ⟨hheedful', hbound'⟩ := hheedful.append_quiet hquiet
    rw [hgrows, hs]
    exact ⟨hheedful', ih _ (h _ (respond_due_heard request reply s)) _ hheedful' (hbound'.trans hbound)⟩

/-- A request binds nothing. -/
theorem asking (request : Request) : Stays T i stack (Setting.asking (υ := υ) (α := α) request) :=
  of_quiet fun _ _ => trivial

/-- A program that has ended binds nothing. -/
theorem done (r : Except Fault β) : Stays T i stack (.done r) :=
  fun _ hheedful hbound => ⟨hheedful, hbound⟩

/-- What is bound stays so throughout two programs, one after the other. -/
theorem andThen (h : Stays T i stack p) {next : Except Fault β → Program Calls (Site υ α) γ}
    (hnext : ∀ r, Stays T i stack (next r)) : Stays T i stack (p.andThen next) :=
  fun history hheedful hbound => .andThen <|
    (h history hheedful hbound).mono fun r history h => hnext r history h.1 h.2

/-- A program of two parts keeps to its binding if both do, also where the second runs only if the
first returns. -/
theorem bind (h : Stays T i stack p) {next : β → Program Calls (Site υ α) γ}
    (hnext : ∀ a, Stays T i stack (next a)) : Stays T i stack (p >>= next) :=
  h.andThen fun r => by
    cases r with
    | ok a => exact hnext a
    | error f => exact done _

/-- A program with a handler keeps to its binding if both do. -/
theorem rescue (h : Stays T i stack p) {handler : Fault → Program Calls (Site υ α) β}
    (hhandler : ∀ f, Stays T i stack (handler f)) : Stays T i stack (p.rescue handler) :=
  h.andThen fun r => by
    cases r with
    | ok a => exact done _
    | error f => exact hhandler f

/-- A program with a clean-up keeps to its binding if both do. -/
theorem ensure (h : Stays T i stack p) {cleanup : Program Calls (Site υ α) Unit}
    (hcleanup : Stays T i stack cleanup) : Stays T i stack (p.ensure cleanup) :=
  h.andThen fun r => hcleanup.bind fun _ => done r

/-- A choice of programs keeps to its binding if both do. -/
theorem ite {c : Prop} [Decidable c] {q : Program Calls (Site υ α) β} (h : Stays T i stack p)
    (h' : Stays T i stack q) : Stays T i stack (if c then p else q) := by
  split
  · exact h
  · exact h'

/-- A session that is opened is one of the errand. -/
theorem create {next : SessionRef → Program Calls (Site υ α) γ}
    (h : ∀ ref, owner ref = i → Stays T i stack (next ref)) :
    Stays T i stack (T.registry.create >>= next) := by
  intro history hheedful hbound reply s hrecorded hs
  have hopened := hheedful.concat (e := .opened (sessionName i (s.opened i))) trivial
  have hgrows : (s.openFor i).histories i = history ++ [.opened (sessionName i (s.opened i))] := by
    rw [← hs]
    exact Site.note_histories ..
  show T.Heedful ((s.openFor i).histories i) ∧ Upholds i T.Heedful _ _ ((s.openFor i).histories i)
  rw [hgrows]
  refine ⟨hopened, h _ (owner_sessionName ..) _ hopened ?_⟩
  simpa [Event.binds] using hbound

/-! ## Scopes, attempts and savepoints -/

/-- A session of an errand is linked with itself by events that are not notes. -/
theorem session_linked {ref : SessionRef} (href : owner ref = i) :
    Session.Linked (link (υ := υ) true i Event.Quiet) (T.session ref) (T.session ref) :=
  T.session_linked (fun _ => id) href

section

variable [Nonempty υ]

/-- What the session of an errand does by itself binds nothing. -/
theorem of_linked {β' : Type} {V : β → β' → Prop} {p' : Program Calls (Site υ α) β'}
    (h : Linked (link true i Event.Quiet).toLink V p p') : Stays T i stack p :=
  ‹Nonempty υ›.elim fun x => of_quiet (keepsTo_of_linked h { own := fun _ => x })

variable {scope : Scope} {work : SessionRef → Scoped Calls (Site υ α) β}

/-- A scope leaves what is bound as it was, if its work does. -/
theorem runScoped (commit : Bool)
    (hwork : ∀ ref, owner ref = i → Stays T i stack (work ref (⟨T.registryRef, ref⟩ :: scope))) :
    Stays T i stack (T.registry.runScoped commit work scope) := by
  refine create fun ref href => ?_
  have hs := session_linked (T := T) href
  refine ensure (rescue ?_ fun f => of_linked (Registry.Linked.abandon (V := Eq) hs rfl)) ?_
  · refine (hwork ref href).bind fun a => ite ?_ (done _)
    exact (of_linked hs.commit).bind fun _ =>
      (of_linked (hs.journal.write _ .debug _ [] _ [])).bind fun _ => done _
  · exact (of_linked hs.close).bind fun _ => of_linked (hs.journal.write _ .debug _ [] _ [])

/-- An attempt at a serialized transaction keeps to its binding if the work and what follows a
conflict do.
-/
theorem attemptSerialized
    (hwork : ∀ ref, owner ref = i → Stays T i stack (work ref (⟨T.registryRef, ref⟩ :: scope)))
    (attempt : Nat) (result : β → γ)
    {onConflict : Session Calls (Site υ α) → Nat → Fault → Program Calls (Site υ α) γ}
    (hconflict : ∀ s, Session.Linked (link true i Event.Quiet) s s → ∀ f f', f = f' →
      Linked (link true i Event.Quiet).toLink (fun _ _ => True) (onConflict s attempt f)
        (onConflict s attempt f')) :
    Stays T i stack (T.registry.attemptSerialized work scope attempt result onConflict) := by
  refine create fun ref href => ?_
  have hs := session_linked (T := T) href
  refine ensure (rescue ?_ fun f => ?_) (of_linked hs.close)
  · refine (of_linked (hs.setIsolation .serializable)).bind fun _ => ?_
    exact (hwork ref href).bind fun a => (of_linked hs.commit).bind fun _ => done _
  · exact of_linked (Registry.Linked.concludeAttempt hs attempt (hconflict _ hs) rfl)

/-- The attempts at a serialized transaction keep to their binding if the work does. -/
theorem runSerialized (limit rate : Number)
    (hwork : ∀ ref, owner ref = i → Stays T i stack (work ref (⟨T.registryRef, ref⟩ :: scope))) :
    Stays T i stack (T.registry.runSerialized ((T.ground i).retry limit rate) work scope) := by
  rw [Registry.runSerialized]
  generalize Retry.furtherAttempts _ = further
  generalize 1 = attempt
  induction further generalizing attempt with
  | zero =>
    refine attemptSerialized hwork attempt id fun s hs f f' hf => ?_
    exact (hs.journal.writeFault hf ..).bind fun _ _ _ => .fail (congrArg _ hf)
  | succ further ih =>
    refine (attemptSerialized hwork attempt some fun s hs f f' _ => ?_).bind fun o => ?_
    · exact (hs.journal.write ..).bind fun _ _ _ => .pure trivial
    · cases o with
      | some a => exact done _
      | none => exact (asking .draw).bind fun _ => (asking (.sleep _)).bind fun _ => ih (attempt + 1)

/-- A savepoint leaves what is bound as it was, if its body does. -/
theorem savepoint {ref : SessionRef} (href : owner ref = i) (hp : Stays T i stack p) :
    Stays T i stack ((T.session ref).savepoint p) := by
  have hs := session_linked (T := T) href
  refine (of_linked hs.connection).bind fun c => ?_
  have hcount := hs.modifies (f := SessionState.countSavepoint) fun _ l => ⟨l, id, rfl⟩
  refine (of_linked hcount).bind fun _ => ?_
  refine (of_linked hs.loads).bind fun x => ?_
  cases c with
  | none => exact done _
  | some c =>
    refine (of_linked (hs.execute c _ _ (.same _))).bind fun _ => ?_
    refine (hp.rescue fun f => of_linked (hs.undoSavepoint (V := Eq) c _ rfl)).bind fun a => ?_
    exact (of_linked (hs.execute c _ _ (.same _))).bind fun _ => done _

end

/-! ## Errands -/

section

variable {scope : Scope}

/-- What is done with a session that is held concerns a session of the errand. -/
theorem reaching {ref : SessionRef} (h : owner ref = i → Stays T i stack p) :
    Stays T i stack ((T.ground i).reaching ref p) := by
  intro history hheedful hbound s _ hs
  refine ⟨hs.symm ▸ hheedful, ?_⟩
  rw [show (id s).histories i = history from hs]
  show Upholds i _ _ (if Site.holds i ref s = true then p else _) history
  by_cases hholds : Site.holds i ref s = true
  · rw [if_pos hholds]
    rw [Site.holds, Bool.and_eq_true, decide_eq_true_eq] at hholds
    exact h hholds.1 history hheedful hbound
  · rw [if_neg hholds]
    exact ⟨hheedful, hbound⟩

/-- What is noted is heeded, and what follows goes on with what is bound then. -/
theorem upholds_noting {n : Note α} {history : List (Event α)}
    {post : Except Fault β → List (Event α) → Prop}
    (hheedful : T.Heedful (history ++ [.noted n]))
    (hp : Upholds i T.Heedful post p (history ++ [.noted n])) :
    Upholds i T.Heedful post ((T.ground i).noting n p) history := by
  intro s _ hs
  have hgrows : (s.note i (.noted n)).histories i = history ++ [.noted n] := by
    rw [← hs]
    exact Site.note_histories ..
  show T.Heedful ((s.note i (.noted n)).histories i) ∧ _
  rw [show (T.ground i).note n s = s.note i (.noted n) from rfl, hgrows]
  exact ⟨hheedful, hp⟩

/-- A scope has ended: nothing is bound or unbound. -/
theorem settled (r : Except Fault α) (h : Stays T i stack p) :
    Stays T i stack ((T.ground i).noting (.settled r) p) := by
  intro history hheedful hbound
  have hheedful' : T.Heedful (history ++ [.noted (.settled r)]) := hheedful.concat trivial
  exact upholds_noting hheedful' (h _ hheedful' (by simpa [Event.binds] using hbound))

/-- What runs with a session bound leaves what is bound as it was. -/
theorem within {ref : SessionRef} {body : Scoped Calls (Site υ α) α}
    (h : Stays T i (ref :: stack) (body scope)) :
    Stays T i stack ((T.ground i).within ref body scope) := by
  intro history hheedful hbound
  have hbegan : T.Heedful (history ++ [.noted (.began ref)]) := hheedful.concat trivial
  refine upholds_noting hbegan (.andThen ?_)
  refine (h _ hbegan (by simp [Event.binds, hbound])).mono fun r history' h' => ?_
  have hended : T.Heedful (history' ++ [.noted (.ended ref)]) := h'.1.concat trivial
  exact upholds_noting hended ⟨hended, by simp [Event.binds, h'.2]⟩

end

end Stays

/-! ## Queueing through the registry -/

section

variable {T : Setting υ α} {i : Nat} {ref : SessionRef} (href : owner ref = i)
  {post : Except Fault β → List (Event α) → Prop} {history : List (Event α)}
  (hheedful : T.Heedful history)

include href hheedful in
/-- The state of a session is the one that the history tells. -/
theorem upholds_load {next : SessionState → Program Calls (Site υ α) β}
    (h : Upholds i T.Heedful post (next (stateAfter ref history)) history) :
    Upholds i T.Heedful post ((T.session ref).state.load >>= next) history := by
  intro s hrecorded hs
  have hstate : s.sessions ref = stateAfter ref history := by rw [hrecorded ref, href, hs]
  refine ⟨hs.symm ▸ hheedful, ?_⟩
  show Upholds i _ _ (next (s.sessions ref)) (s.histories i)
  rw [hstate, hs]
  exact h

include href in
/-- A change of a session is an event of the history. -/
theorem upholds_modify {post : Except Fault Unit → List (Event α) → Prop}
    {f : SessionState → SessionState} {e : Event α}
    (he : e = .changed ref (stateAfter ref history) (f (stateAfter ref history)))
    (h : T.Heedful (history ++ [e]) ∧ post (.ok ()) (history ++ [e])) :
    Upholds i T.Heedful post ((T.session ref).state.modify f) history := by
  intro s hrecorded hs
  have hstate : s.sessions ref = stateAfter ref history := by rw [hrecorded ref, href, hs]
  have hgrows : ((T.session ref).state.update f s).histories i = history ++ [e] := by
    subst href
    rw [← hs, he, ← hstate]
    exact Site.note_histories ..
  rw [hgrows]
  exact h

include hheedful in
/-- An entry in the log is no event of any history. -/
theorem upholds_write {level : Level} {message : Text} {fields : Json.Members}
    {next : Unit → Program Calls (Site υ α) β} (h : Upholds i T.Heedful post (next ()) history) :
    Upholds i T.Heedful post (T.journal.write level message fields >>= next) history := by
  intro s _ hs
  obtain ⟨log, hlog⟩ := T.exists_written level message fields s
  simp only [hlog]
  exact ⟨hs.symm ▸ hheedful, hs.symm ▸ h⟩

include href hheedful in
/-- Queueing in a session does what is due, at the state that the session has then. -/
theorem upholds_queue (channel : Text) (message : Option Json) :
    Upholds i T.Heedful (fun r history' => T.Heedful history' ∧ bound history' = bound history
        ∧ r = (T.queueing ref (stateAfter ref history) channel message).1
        ∧ history' = history ++ (T.queueing ref (stateAfter ref history) channel message).2)
      ((T.session ref).queueMessage channel message) history := by
  refine .andThen (upholds_load href hheedful ?_)
  cases hclosed : (stateAfter ref history).closed with
  | true => exact ⟨hheedful, rfl, by simp [Setting.queueing, hclosed],
    by simp [Setting.queueing, hclosed]⟩
  | false =>
    show Upholds i _ _ (match Session.body? message with | none => _ | some body => _) history
    cases hbody : Session.body? message with
    | none =>
      exact ⟨hheedful, rfl, by simp [Setting.queueing, hclosed, hbody],
        by simp [Setting.queueing, hclosed, hbody]⟩
    | some body =>
      refine upholds_write hheedful (upholds_modify href rfl ?_)
      have hchanged := hheedful.concat (e := .changed ref (stateAfter ref history)
        { stateAfter ref history with outbox := (stateAfter ref history).outbox.queue ⟨channel, body⟩ })
        trivial
      refine ⟨hchanged, hchanged, by simp [Event.binds], ?_, ?_⟩
      all_goals simp [Setting.queueing, hclosed, hbody]

end

/-! ## Errands -/

/-- The bindings around a step are those that its history tells of. -/
structure Setting.Stacked (T : Setting υ α) (i : Nat) (scope : Scope) (stack : List SessionRef) : Prop where
  current?_eq : T.registry.current? scope = stack.head?
  owned : ∀ ref ∈ stack, owner ref = i

namespace Setting.Stacked

variable {T : Setting υ α} {i : Nat} {scope : Scope} {stack : List SessionRef}

/-- One more session is bound, the innermost. -/
theorem cons (h : T.Stacked i scope stack) {ref : SessionRef} (href : owner ref = i) :
    T.Stacked i (⟨T.registryRef, ref⟩ :: scope) (ref :: stack) :=
  ⟨by simp [Registry.current?, Setting.registry], List.forall_mem_cons.2 ⟨href, h.owned⟩⟩

variable (h : T.Stacked i scope stack) {p : Except Fault β → Program Calls (Site υ α) β}

include h

/-- The registry tells the innermost session. -/
theorem current {next : Except Fault SessionRef → Program Calls (Site υ α) β}
    (hnext : ∀ r, Stays T i stack (next r)) :
    Stays T i stack
      ((T.registry.current scope).andThen fun r => (T.ground i).noting (.current r) (next r)) := by
  intro history hheedful hbound
  obtain ⟨r, hr, hcurrent⟩ : ∃ r, T.registry.current scope = (.done r : Program Calls (Site υ α) _)
      ∧ T.Heeds history (.noted (.current r)) := by
    rw [Registry.current, h.current?_eq, ← hbound]
    cases hhead : (bound history).head? with
    | none => exact ⟨_, rfl, by simp [Heeds, hhead]⟩
    | some ref => exact ⟨_, rfl, by simp [Heeds, hhead]⟩
  rw [hr]
  have hnoted := hheedful.concat hcurrent
  exact Stays.upholds_noting hnoted (hnext r _ hnoted (by simpa [Event.binds] using hbound))

/-- The registry queues in the innermost session. -/
theorem queue (channel : Text) (message : Option Json)
    {next : Except Fault Unit → Program Calls (Site υ α) β} (hnext : ∀ r, Stays T i stack (next r)) :
    Stays T i stack ((T.registry.queueMessage channel message scope).andThen fun r =>
      (T.ground i).noting (.queued channel message r) (next r)) := by
  intro history hheedful hbound
  have hqueue : Upholds i T.Heedful (fun r history' => T.Heedful history' ∧ bound history' = stack
      ∧ T.Heeds history' (.noted (.queued channel message r)))
      (T.registry.queueMessage channel message scope) history := by
    rw [Registry.queueMessage, Registry.current, h.current?_eq]
    cases hhead : stack.head? with
    | none => exact ⟨hheedful, hbound, by simp [Heeds, hbound, hhead]⟩
    | some ref =>
      have href : owner ref = i := h.owned ref (List.mem_of_head? hhead)
      refine (upholds_queue href hheedful channel message).mono fun r history' h' => ?_
      obtain ⟨hheedful', hbound', hr, hhistory'⟩ := h'
      refine ⟨hheedful', hbound'.trans hbound, ?_⟩
      simp only [Heeds, hbound', hbound, hhead]
      exact ⟨history, hr, hhistory'⟩
  refine .andThen (hqueue.mono fun r history' h' => ?_)
  obtain ⟨hheedful', hbound', hheeds⟩ := h'
  have hnoted := hheedful'.concat hheeds
  exact Stays.upholds_noting hnoted (hnext r _ hnoted (by simpa [Event.binds] using hbound'))

end Setting.Stacked

/-- An errand keeps what is bound around it. -/
theorem Setting.stays_play [Nonempty υ] (T : Setting υ α) {i : Nat} (errand : Errand υ α) {scope : Scope}
    {stack : List SessionRef} (h : T.Stacked i scope stack) :
    Stays T i stack (errand.play (T.ground i) scope) := by
  have hsession {ref : SessionRef} (href : owner ref = i) := Stays.session_linked (T := T) href
  induction errand generalizing scope stack with
  | done outcome => exact .done outcome
  | act update next ih =>
    intro history hheedful hbound s _ hs
    show T.Heedful (s.histories i) ∧ Upholds i _ _ _ (s.histories i)
    rw [hs]
    exact ⟨hheedful, ih _ h history hheedful hbound⟩
  | consult question next ih => exact (Stays.asking _).andThen fun r => ih r h
  | current next ih => exact h.current fun r => ih r h
  | queue channel message next ih => exact h.queue channel message fun r => ih r h
  | openSession next ih => exact Stays.create fun ref _ => ih ref h
  | identify ref next ih => exact (Stays.reaching fun _ => .done _).bind fun id => ih id h
  | look ref next ih =>
    exact (Stays.reaching fun href => .of_linked (hsession href).loads).bind fun x => ih x h
  | use ref c text next ih =>
    exact (Stays.reaching fun href => .of_linked ((hsession href).execute c _ _ (.same _))).andThen
      fun r => ih r h
  | call ref c next ih =>
    exact (Stays.reaching fun href => .of_linked ((hsession href).perform c)).andThen fun r => ih r h
  | savepoint ref body next ihbody ih =>
    exact (Stays.reaching fun href => .savepoint href (ihbody h)).andThen fun r => ih r h
  | bind ref body next ihbody ih =>
    exact (Stays.reaching fun href => .within (ihbody (h.cons href))).andThen fun r => ih r h
  | inScope commit work next ihwork ih =>
    exact (Stays.runScoped commit fun ref href => .within (ihwork ref (h.cons href))).andThen fun r =>
      .settled r (ih r h)
  | serialized limit rate work next ihwork ih =>
    exact (Stays.runSerialized limit rate fun ref href => .within (ihwork ref (h.cons href))).andThen
      fun r => .settled r (ih r h)

/-! ## Turns -/

/-- The histories are true and heedful, and whatever the errands have left to do keeps them so. -/
structure Setting.Mindful (T : Setting υ α) (c : Errands υ α) : Prop where
  tame : Tame c
  recorded : c.state.Recorded
  heedful : ∀ i, T.Heedful (c.state.histories i)
  upholds : ∀ i, Upholds i T.Heedful (fun _ _ => True) (c.programs i) (c.state.histories i)

namespace Setting

variable {T : Setting υ α}

/-- Errands that start side by side are mindful. -/
theorem mindful_start (errands : Nat → Errand υ α) (own : Nat → υ) :
    T.Mindful (T.start errands own) where
  tame := T.tame_start errands own
  recorded _ := rfl
  heedful _ := heedful_nil
  upholds i :=
    have : Nonempty υ := ⟨own i⟩
    have hstacked : T.Stacked i [] [] := ⟨rfl, nofun⟩
    (T.stays_play (errands i) hstacked [] heedful_nil rfl).mono fun _ _ _ => trivial

/-- Every turn keeps that. -/
theorem Mindful.move {c : Errands υ α} (h : T.Mindful c) (t : Turn) : T.Mindful (move c t) := by
  obtain ⟨htame, hchanges⟩ := h.tame.move t
  have hwho : T.Heedful ((Apart.move c t).state.histories t.who)
      ∧ Upholds t.who T.Heedful (fun _ _ => True) ((Apart.move c t).programs t.who)
        ((Apart.move c t).state.histories t.who) := by
    have hupholds := h.upholds t.who
    cases hp : c.programs t.who with
    | done r =>
      simp only [Apart.move, hp]
      exact ⟨h.heedful t.who, trivial⟩
    | act update next =>
      rw [hp] at hupholds
      rw [move_act c t.reply hp]
      simpa using hupholds c.state h.recorded rfl
    | ask request next =>
      rw [hp] at hupholds
      rw [move_ask c t.reply hp]
      simpa using hupholds t.reply c.state h.recorded rfl
  refine ⟨htame, hchanges.recorded h.recorded, fun i => ?_, fun i => ?_⟩
  all_goals by_cases hi : i = t.who
  · exact hi ▸ hwho.1
  · exact (hchanges.others i hi).histories ▸ h.heedful i
  · exact hi ▸ hwho.2
  · rw [move_of_ne c hi, ← (hchanges.others i hi).histories]
    exact h.upholds i

/-- Errands stay mindful of their bindings, whatever turns they have. -/
theorem Mindful.moves {c : Errands υ α} (h : T.Mindful c) (turns : List Turn) :
    T.Mindful (moves c turns) := by
  induction turns generalizing c with
  | nil => exact h
  | cons t turns ih => exact ih (h.move t)

end Setting

end UnitOfWork.Apart
