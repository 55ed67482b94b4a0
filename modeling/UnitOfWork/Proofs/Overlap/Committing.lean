import UnitOfWork.Proofs.Overlap.Turns

/-!
# Commits that overlap with other calls

A commit takes its messages from the outbox last, after its statement was executed and the
connection given back. A rollback, a closing or a transaction that begins empties the outbox at
once, also while the commit waits: the statement succeeds and the messages are gone.
`handedOver_iff` says that the messages of a commit that succeeds are handed over exactly if nothing
empties the outbox from the call of the commit until the connection was given back, for any number
of other calls and every schedule.
-/

namespace UnitOfWork.Trial

variable {υ ι : Type} {s s' : SessionState} {B block : List SessionEvent} {φ φ' : Stage υ}
  {M : List Message}

/-! ## Emptying the outbox, and giving the connection back -/

namespace SessionEvent

/-- The outbox of an open session is emptied. -/
def Empties : SessionEvent → Prop
  | called .rollback | called .close | executed _ (.begin _) none => True
  | _ => False

/-- A transaction is committed. -/
def Commits : SessionEvent → Prop
  | executed _ .commit none => True
  | _ => False

/-- A connection is given back. -/
def isRelease : SessionEvent → Bool
  | released _ _ => true
  | _ => false

end SessionEvent

/-- The events before the first connection was given back. -/
def beforeRelease (B : List SessionEvent) : List SessionEvent :=
  B.takeWhile (!·.isRelease)

/-- The outbox was emptied before the first connection was given back. -/
def EmptiedEarly (B : List SessionEvent) : Prop :=
  ∃ e ∈ beforeRelease B, e.Empties

/-- A connection was given back. -/
def Released (B : List SessionEvent) : Prop :=
  ∃ e ∈ B, e.isRelease = true

/-- A transaction was committed. -/
def Committed (B : List SessionEvent) : Prop :=
  ∃ e ∈ B, e.Commits

/-- What follows a block counts as long as the block gives nothing back. -/
theorem beforeRelease_append (B block : List SessionEvent) :
    Released B ∧ beforeRelease (B ++ block) = beforeRelease B
      ∨ ¬ Released B ∧ beforeRelease (B ++ block) = B ++ beforeRelease block := by
  induction B with
  | nil => exact .inr ⟨by simp [Released], rfl⟩
  | cons e B ih =>
    cases he : e.isRelease with
    | true => exact .inl ⟨⟨e, List.mem_cons_self, he⟩, by simp [beforeRelease, he]⟩
    | false =>
      have hcons : ∀ B', beforeRelease (e :: B') = e :: beforeRelease B' := fun B' =>
        List.takeWhile_cons_of_pos (by simp [he])
      have hreleased : Released (e :: B) ↔ Released B := by simp [Released, he]
      rw [List.cons_append, hcons, hcons, hreleased]
      exact ih.imp (.imp_right (congrArg _)) (.imp_right (congrArg _))

/-- What was emptied early was emptied early, whatever happens later. -/
theorem EmptiedEarly.append (h : EmptiedEarly B) (block : List SessionEvent) :
    EmptiedEarly (B ++ block) := by
  obtain ⟨e, he, hempties⟩ := h
  rcases beforeRelease_append B block with ⟨-, heq⟩ | ⟨-, heq⟩
  · exact ⟨e, by rwa [heq], hempties⟩
  · exact ⟨e, by rw [heq]; exact List.mem_append_left _ (List.takeWhile_subset _ he), hempties⟩

/-- Once a connection was given back, nothing is emptied early any more. -/
theorem Released.emptiedEarly_append (h : Released B) (block : List SessionEvent) :
    EmptiedEarly (B ++ block) ↔ EmptiedEarly B := by
  rcases beforeRelease_append B block with ⟨-, heq⟩ | ⟨hnot, -⟩
  · rw [EmptiedEarly, heq, EmptiedEarly]
  · exact absurd h hnot

/-- Nothing was handed over, the outbox was not emptied and nothing was given back. -/
structure Untouched (B : List SessionEvent) : Prop where
  batches_eq : batches B = []
  kept : ∀ e ∈ B, ¬ e.Empties
  held : ∀ e ∈ B, e.isRelease = false

namespace Untouched

/-- Nothing was given back in an untouched block, so all of it comes before the first return. -/
theorem beforeRelease_append (h : Untouched B) (block : List SessionEvent) :
    beforeRelease (B ++ block) = B ++ beforeRelease block := by
  rcases Trial.beforeRelease_append B block with ⟨⟨e, he, hrelease⟩, -⟩ | ⟨-, heq⟩
  · rw [h.held e he] at hrelease
    cases hrelease
  · exact heq

/-- Blocks that leave the messages waiting do so one after the other. -/
theorem append (h : Untouched B) (h' : Untouched block) : Untouched (B ++ block) where
  batches_eq := by rw [batches_append, h.batches_eq, h'.batches_eq, List.append_nil]
  kept e he := (List.mem_append.1 he).elim (h.kept e) (h'.kept e)
  held e he := (List.mem_append.1 he).elim (h.held e) (h'.held e)

/-- An event that hands nothing over, empties no outbox and gives nothing back leaves the messages
waiting.
-/
theorem single {e : SessionEvent} (hbatch : e.batch? = none) (hempties : ¬ e.Empties)
    (hrelease : e.isRelease = false) : Untouched [e] :=
  ⟨by simp [batches, hbatch], by simpa using hempties, by simpa using hrelease⟩

/-- An event that empties the outbox empties it early. -/
theorem emptiedEarly (h : Untouched B) {e : SessionEvent} (he : e.Empties)
    (hrelease : e.isRelease = false) : EmptiedEarly (B ++ [e]) :=
  ⟨e, by rw [h.beforeRelease_append]; simp [beforeRelease, hrelease], he⟩

/-- If a connection is given back next, nothing is emptied early. -/
theorem not_emptiedEarly (h : Untouched B) {e : SessionEvent} (hrelease : e.isRelease = true)
    (block : List SessionEvent) : ¬ EmptiedEarly (B ++ e :: block) := by
  rintro ⟨e', he', hempties⟩
  rw [h.beforeRelease_append] at he'
  simp only [beforeRelease, hrelease, Bool.not_true, List.takeWhile_cons, Bool.false_eq_true, ↓reduceIte,
    List.append_nil] at he'
  exact h.kept e' he' hempties

end Untouched

/-- A transaction is committed in two blocks if it is in either. -/
theorem committed_append {B B' : List SessionEvent} :
    Committed (B ++ B') ↔ Committed B ∨ Committed B' := by
  simp [Committed, or_and_right, exists_or]

/-- What is handed over next is all that was handed over, if nothing was before. -/
theorem flatten_batches_handed (h : batches B = []) {e : SessionEvent} (he : e.batch? = none)
    (messages : List Message) : (batches (B ++ ([e] ++ handing messages))).flatten = messages := by
  have hbatch : batches [e] = [] := by simp [batches, he]
  rw [batches_append, batches_append, h, hbatch]
  exact flatten_batches_handing messages

/-! ## The other calls -/

/-- The stages of calls other than a commit. -/
def Stage.Other : Stage υ → Prop
  | fresh call _ => call ≠ .commit
  | committing _ | parting _ | delivering _ _ => False
  | _ => True

/-- A closing that has begun and is not over. -/
def Stage.Closes : Stage υ → Prop
  | undoing _ | returning _ => True
  | _ => False

/-- A commit that handed its messages over is no closing. -/
theorem Stage.Handed.not_closes (h : φ.Handed) : ¬ φ.Closes := by
  cases φ <;> first | exact not_false | exact h.elim

/-- A call other than a commit stays one. -/
theorem Goes.other (h : Goes s φ block s' φ') (hφ : φ.Other) : φ'.Other := by
  cases h with
  | commits | flushes => exact absurd rfl hφ
  | notCommitted | committed | committedBare | parted | delivers => exact hφ.elim
  | _ => trivial

/-- A call other than a commit hands nothing over and commits nothing. -/
theorem Goes.of_other (h : Goes s φ block s' φ') (hφ : φ.Other) :
    batches block = [] ∧ ¬ Committed block := by
  have hsingle : ∀ {e}, block = [e] → e.batch? = none → ¬ e.Commits →
      batches block = [] ∧ ¬ Committed block := by
    rintro e rfl hbatch hcommits
    exact ⟨by simp [batches, hbatch], by simpa [Committed] using hcommits⟩
  cases h with
  | flushes => exact absurd rfl hφ
  | committed | committedBare | parted | delivers => exact hφ.elim
  | rests => exact ⟨rfl, by simp [Committed]⟩
  | _ => exact hsingle rfl rfl not_false

/-- An outbox that is empty stays empty. -/
theorem Goes.empty (h : Goes s φ block s' φ') (hs : s.outbox.entries = []) :
    s'.outbox.entries = [] := by
  cases h <;> first | exact hs | rfl

/-- Closing a session begins by marking it closed, and it stays so. -/
theorem Goes.unclosed (h : Goes s φ block s' φ') (ho : s'.closed = false) :
    s.closed = false ∧ (φ'.Closes → φ.Closes) := by
  cases h with
  | closesBare | closesIdle | closesActive => cases ho
  | undone => exact ⟨ho, fun _ => trivial⟩
  | flushes _ _ hstage => exact ⟨ho, fun hcloses => absurd hcloses hstage.not_closes⟩
  | committedBare _ hstage => exact ⟨ho, fun hcloses => absurd hcloses hstage.not_closes⟩
  | parted hstage => exact ⟨ho, fun hcloses => absurd hcloses hstage.not_closes⟩
  | _ => exact ⟨ho, False.elim⟩

/-- On an open session that nobody is closing, a turn of another call empties the outbox, or leaves
it as it is and gives nothing back. -/
theorem Goes.rival (h : Goes s φ block s' φ') (hφ : φ.Other) (hopen : ¬ φ.Closes)
    (ho : s.closed = false) :
    (∃ e, block = [e] ∧ e.Empties ∧ e.isRelease = false ∧ s'.outbox.entries = [])
      ∨ Untouched block ∧ s'.outbox = s.outbox ∧ s'.closed = false
        ∧ (s'.connection = none → s.connection = none) := by
  cases h with
  | barred _ hs => rw [ho] at hs; cases hs
  | asks => exact .inr ⟨.single rfl not_false rfl, rfl, ho, id⟩
  | finds => exact .inr ⟨.single rfl not_false rfl, rfl, ho, id⟩
  | findsIdle => exact .inr ⟨.single rfl not_false rfl, rfl, ho, id⟩
  | refused => exact .inr ⟨.single rfl not_false rfl, rfl, ho, id⟩
  | takes => exact .inr ⟨.single rfl not_false rfl, rfl, ho, nofun⟩
  | takesIdle => exact .inr ⟨.single rfl not_false rfl, rfl, ho, nofun⟩
  | begins => exact .inl ⟨_, rfl, trivial, rfl, rfl⟩
  | stuck => exact .inr ⟨.single rfl not_false rfl, rfl, ho, id⟩
  | commits | flushes => exact absurd rfl hφ
  | notCommitted | committed | committedBare | parted | delivers => exact hφ.elim
  | rollsBack => exact .inl ⟨_, rfl, trivial, rfl, rfl⟩
  | clears => exact .inl ⟨_, rfl, trivial, rfl, rfl⟩
  | rolledBack => exact .inr ⟨.single rfl not_false rfl, rfl, ho, id⟩
  | closedAgain hs => rw [ho] at hs; cases hs
  | closesBare => exact .inl ⟨_, rfl, trivial, rfl, rfl⟩
  | closesIdle => exact .inl ⟨_, rfl, trivial, rfl, rfl⟩
  | closesActive => exact .inl ⟨_, rfl, trivial, rfl, rfl⟩
  | undone | undoneBare | returned => exact absurd trivial hopen
  | rests => exact .inr ⟨⟨rfl, nofun, nofun⟩, rfl, ho, id⟩

/-! ## The commit -/

/-- Where a commit stands whose call began with messages in the outbox, by the events since then. -/
inductive Fate (M : List Message) (B : List SessionEvent) (s : SessionState) : Stage υ → Prop where
  /-- The statement is awaited, and the messages wait. -/
  | waiting (c : Connection) (ho : s.closed = false) (hc : s.connection ≠ none)
      (hM : s.outbox.entries = M) (hB : Untouched B) (hcommit : ¬ Committed B) :
      Fate M B s (.committing c)
  /-- The connection is being given back, and the messages wait. -/
  | parting (c : Connection) (ho : s.closed = false) (hM : s.outbox.entries = M) (hB : Untouched B) :
      Fate M B s (.parting c)
  /-- The statement is awaited, and the messages are gone. -/
  | emptied (c : Connection) (hs : s.outbox.entries = []) (hB : batches B = [])
      (hearly : EmptiedEarly B) (hcommit : ¬ Committed B) : Fate M B s (.committing c)
  /-- The connection is being given back, and the messages are gone. -/
  | emptiedParting (c : Connection) (hs : s.outbox.entries = []) (hB : batches B = [])
      (hearly : EmptiedEarly B) : Fate M B s (.parting c)
  /-- The messages were handed over. -/
  | handed {χ : Stage υ} (hχ : χ.Handed) (hM : (batches B).flatten = M) (hreleased : Released B)
      (hearly : ¬ EmptiedEarly B) : Fate M B s χ
  /-- Nothing was there to be handed over. -/
  | dropped {χ : Stage υ} (hχ : χ.Handed) (hB : (batches B).flatten = []) (hearly : EmptiedEarly B) :
      Fate M B s χ
  /-- The statement failed. -/
  | uncommitted {χ : Stage υ} (hχ : χ.Handed) (hcommit : ¬ Committed B) : Fate M B s χ

namespace Fate

/-- Another call has a turn. -/
theorem rival (h : Fate M B s φ) {ψ ψ' : Stage υ} (hgoes : Goes s ψ block s' ψ') (hψ : ψ.Other)
    (hopen : s.closed = false → ¬ ψ.Closes) : Fate M (B ++ block) s' φ := by
  obtain ⟨hbatches, hcommits⟩ := hgoes.of_other hψ
  have hflat : batches (B ++ block) = batches B := by rw [batches_append, hbatches, List.append_nil]
  have hcommitted : ¬ Committed B → ¬ Committed (B ++ block) := by
    rintro hnot ⟨e, he, hcommit⟩
    rcases List.mem_append.1 he with he | he
    · exact hnot ⟨e, he, hcommit⟩
    · exact hcommits ⟨e, he, hcommit⟩
  cases h with
  | waiting c ho hc hM hB hcommit =>
    rcases hgoes.rival hψ (hopen ho) ho with ⟨e, rfl, he, hrelease, hs'⟩ | ⟨hblock, hsame, ho', hc'⟩
    · exact .emptied c hs' (hflat.trans hB.batches_eq) (hB.emptiedEarly he hrelease) (hcommitted hcommit)
    · exact .waiting c ho' (fun hbare => hc (hc' hbare)) (hsame ▸ hM) (hB.append hblock)
        (hcommitted hcommit)
  | parting c ho hM hB =>
    rcases hgoes.rival hψ (hopen ho) ho with ⟨e, rfl, he, hrelease, hs'⟩ | ⟨hblock, hsame, ho', -⟩
    · exact .emptiedParting c hs' (hflat.trans hB.batches_eq) (hB.emptiedEarly he hrelease)
    · exact .parting c ho' (hsame ▸ hM) (hB.append hblock)
  | emptied c hs hB hearly hcommit =>
    exact .emptied c (hgoes.empty hs) (hflat.trans hB) (hearly.append block) (hcommitted hcommit)
  | emptiedParting c hs hB hearly =>
    exact .emptiedParting c (hgoes.empty hs) (hflat.trans hB) (hearly.append block)
  | handed hχ hM hreleased hearly =>
    obtain ⟨e, he, hrelease⟩ := hreleased
    have hreleased' : Released (B ++ block) := ⟨e, List.mem_append_left _ he, hrelease⟩
    exact .handed hχ (by rwa [hflat]) hreleased'
      ((Released.emptiedEarly_append ⟨e, he, hrelease⟩ block).not.2 hearly)
  | dropped hχ hB hearly => exact .dropped hχ (by rwa [hflat]) (hearly.append block)
  | uncommitted hχ hcommit => exact .uncommitted hχ (hcommitted hcommit)

/-- A commit that took its messages from the outbox has another turn. -/
theorem rests {χ χ' : Stage υ} (hχ : χ.Handed) (hgoes : Goes s χ block s' χ') :
    block = [] ∧ χ'.Handed := by
  cases hgoes <;> first | exact ⟨rfl, trivial⟩ | exact hχ.elim

/-- The commit has a turn. -/
theorem own (h : Fate M B s φ) (hgoes : Goes s φ block s' φ') : Fate M (B ++ block) s' φ' := by
  cases h with
  | waiting c ho hc hM hB hcommit =>
    cases hgoes with
    | @notCommitted _ f =>
      refine .uncommitted trivial ?_
      rw [committed_append]
      exact fun hor => hor.elim hcommit (by simp [Committed, SessionEvent.Commits])
    | committed hb => exact .parting _ ho hM (hB.append (.single rfl not_false rfl))
    | committedBare hb => exact absurd hb hc
  | parting c ho hM hB =>
    cases hgoes with
    | @parted _ f _ hstage =>
      refine .handed hstage ?_ ⟨.released c f, by simp, rfl⟩ (hB.not_emptiedEarly rfl _)
      rw [flatten_batches_handed hB.batches_eq rfl, hM]
  | emptied c hs hB hearly hcommit =>
    cases hgoes with
    | notCommitted =>
      refine .uncommitted trivial ?_
      rw [committed_append]
      exact fun hor => hor.elim hcommit (by simp [Committed, SessionEvent.Commits])
    | committed hb =>
      refine .emptiedParting _ hs ?_ (hearly.append _)
      rw [batches_append, hB]
      rfl
    | committedBare hb hstage =>
      refine .dropped hstage ?_ (hearly.append _)
      rw [flatten_batches_handed hB rfl, hs]
  | emptiedParting c hs hB hearly =>
    cases hgoes with
    | parted hstage =>
      refine .dropped hstage ?_ (hearly.append _)
      rw [flatten_batches_handed hB rfl, hs]
  | handed hχ hM hreleased hearly =>
    obtain ⟨rfl, hφ'⟩ := rests hχ hgoes
    rw [List.append_nil]
    exact .handed hφ' hM hreleased hearly
  | dropped hχ hB hearly =>
    obtain ⟨rfl, hφ'⟩ := rests hχ hgoes
    rw [List.append_nil]
    exact .dropped hφ' hB hearly
  | uncommitted hχ hcommit =>
    obtain ⟨rfl, hφ'⟩ := rests hχ hgoes
    rw [List.append_nil]
    exact .uncommitted hφ' hcommit

/-- A commit that is over: its messages were handed over, or there were none, or they were gone. -/
theorem flatten_batches_iff (h : Fate M B s φ) (hφ : φ.Handed) (hcommit : Committed B) :
    (batches B).flatten = M ↔ M = [] ∨ ¬ EmptiedEarly B := by
  cases h with
  | waiting | parting | emptied | emptiedParting => exact hφ.elim
  | handed _ hM _ hearly => exact iff_of_true hM (.inr hearly)
  | dropped _ hB hearly =>
    rw [hB]
    exact ⟨fun hM => .inl hM.symm, fun hor => (hor.resolve_right (not_not.2 hearly)).symm⟩
  | uncommitted _ hnot => exact absurd hcommit hnot

end Fate

/-- A commit begins: its messages wait, unless no transaction is active. -/
theorem Goes.fate {call : SessionCall} {hcall : call.Contends}
    (h : Goes s (.fresh call hcall) block s' φ') (hcommit : call = .commit) :
    Fate s.outbox.entries block s' φ' := by
  subst hcommit
  have hnot : ∀ messages, ¬ Committed ([.called .commit] ++ handing messages) := by
    intro messages
    by_cases hm : messages = [] <;> simp [Committed, handing, hm, SessionEvent.Commits]
  cases h with
  | barred => exact .uncommitted trivial (hnot [])
  | @commits _ c ho hc =>
    have hheld := (SessionState.activeConnection?_eq_some hc).2
    refine .waiting c ho ?_ rfl (.single rfl not_false rfl) (hnot [])
    rw [hheld]
    exact Option.some_ne_none c
  | flushes _ _ hstage => exact .uncommitted hstage (hnot _)

/-! ## Whole schedules -/

section

variable {w : Surroundings} {ref : SessionRef} {stages : ι → Stage υ} {i₀ : ι}
  {c : Crowd Calls (Desk υ) (Option Connection) ι}

/-- A crowd of calls of which at most one is a commit. -/
structure Contending (w : Surroundings) (ref : SessionRef) (i₀ : ι) (stages : ι → Stage υ)
    (c : Crowd Calls (Desk υ) (Option Connection) ι) : Prop where
  underway : Underway w ref stages c
  other : ∀ j, j ≠ i₀ → (stages j).Other
  unclosed : (c.state.sessions ref).closed = false → ∀ j, ¬ (stages j).Closes

variable [DecidableEq ι]

/-- A turn of any call goes by stages, and the calls contend as before. -/
theorem Contending.turn (h : Contending w ref i₀ stages c) (i : ι) :
    ∃ block s stage, Goes (c.state.sessions ref) (stages i) block s stage
      ∧ c.state.Follows ref block s (c.turn w.serve i).state
      ∧ Contending w ref i₀ (Function.update stages i stage) (c.turn w.serve i) := by
  obtain ⟨block, s, stage, hgoes, hfollows, hnext⟩ := h.underway.turn i
  refine ⟨block, s, stage, hgoes, hfollows, hnext, fun j hj => ?_, fun ho j => ?_⟩
  · by_cases hji : j = i
    · subst hji
      rw [Function.update_self]
      exact hgoes.other (h.other j hj)
    · rw [Function.update_of_ne hji]
      exact h.other j hj
  · rw [hfollows.session_eq] at ho
    obtain ⟨hbefore, hcloses⟩ := hgoes.unclosed ho
    by_cases hji : j = i
    · subst hji
      rw [Function.update_self]
      exact fun hlater => h.unclosed hbefore j (hcloses hlater)
    · rw [Function.update_of_ne hji]
      exact h.unclosed hbefore j

/-- Before the commit has its first turn, it stays unbegun. -/
theorem Contending.play_unbegun (h : Contending w ref i₀ stages c) {P : List ι} (hP : i₀ ∉ P) :
    ∃ stages', Contending w ref i₀ stages' (c.play w.serve P) ∧ stages' i₀ = stages i₀ := by
  induction P generalizing stages c with
  | nil => exact ⟨stages, h, rfl⟩
  | cons i P ih =>
    obtain ⟨block, s, stage, -, -, hnext⟩ := h.turn i
    obtain ⟨stages', hlast, hsame⟩ := ih hnext fun hi => hP (List.mem_cons_of_mem _ hi)
    have hi : i₀ ≠ i := fun heq => hP (heq ▸ List.mem_cons_self)
    exact ⟨stages', hlast, hsame.trans (Function.update_of_ne hi _ _)⟩

/-- Turns of all calls keep the fate of the commit. -/
theorem Contending.play_fate (h : Contending w ref i₀ stages c)
    (hfate : Fate M B (c.state.sessions ref) (stages i₀)) (S : List ι) :
    ∃ block stages', Contending w ref i₀ stages' (c.play w.serve S)
      ∧ (c.play w.serve S).state.eventsOf ref = c.state.eventsOf ref ++ block
      ∧ Fate M (B ++ block) ((c.play w.serve S).state.sessions ref) (stages' i₀) := by
  induction S generalizing stages c B with
  | nil => exact ⟨[], stages, h, (List.append_nil _).symm, by rwa [List.append_nil]⟩
  | cons i S ih =>
    obtain ⟨block, s, stage, hgoes, hfollows, hnext⟩ := h.turn i
    have hfate' : Fate M (B ++ block) ((c.turn w.serve i).state.sessions ref)
        (Function.update stages i stage i₀) := by
      rw [hfollows.session_eq]
      by_cases hi : i₀ = i
      · subst hi
        rw [Function.update_self]
        exact hfate.own hgoes
      · rw [Function.update_of_ne hi]
        exact hfate.rival hgoes (h.other i fun heq => hi heq.symm) fun ho => h.unclosed ho i
    obtain ⟨block', stages', hlast, hevents, hfate''⟩ := ih hnext hfate'
    refine ⟨block ++ block', stages', hlast, ?_, by rwa [← List.append_assoc]⟩
    rw [Crowd.play_cons, hevents, hfollows.eventsOf_eq, List.append_assoc]

end

/-- A commit of a session overlaps with any number of calls for its connection, rollbacks and
closings, which may be under way when it begins. Once it is over and its statement has succeeded,
what was handed over since it began is the messages that waited then, each once and in order,
exactly if there were none or nothing emptied the outbox before the connection was given back. -/
theorem handedOver_iff [DecidableEq ι] (w : Surroundings) (ref : SessionRef) (calls : ι → SessionCall)
    (hcalls : ∀ i, (calls i).Contends) {i₀ : ι} (hi₀ : calls i₀ = .commit)
    (hothers : ∀ j, j ≠ i₀ → calls j ≠ .commit) (d : Desk υ) (P S : List ι) (hP : i₀ ∉ P) :
    let c := (callsOn w ref calls d).play w.serve P
    let c' := c.play w.serve (i₀ :: S)
    ∀ B outcome, c'.programs i₀ = .done outcome →
      c'.state.eventsOf ref = c.state.eventsOf ref ++ B → Committed B →
      ((batches B).flatten = (c.state.sessions ref).outbox.entries
        ↔ (c.state.sessions ref).outbox.entries = [] ∨ ¬ EmptiedEarly B) := by
  intro c c' B outcome hdone hevents hcommit
  have hfirst : Contending w ref i₀ (fun i => .fresh (calls i) (hcalls i)) (callsOn w ref calls d) :=
    ⟨underway_callsOn hcalls d, hothers, fun _ _ => not_false⟩
  obtain ⟨stages, hcontending, hfresh⟩ := hfirst.play_unbegun hP
  obtain ⟨block, s, stage, hgoes, hfollows, hnext⟩ := hcontending.turn i₀
  have hbegun : Fate (c.state.sessions ref).outbox.entries block ((c.turn w.serve i₀).state.sessions ref)
      (Function.update stages i₀ stage i₀) := by
    rw [hfollows.session_eq, Function.update_self]
    rw [hfresh] at hgoes
    exact hgoes.fate hi₀
  obtain ⟨block', stages', hlast, hrest, hfate⟩ := hnext.play_fate hbegun S
  have hB : B = block ++ block' := by
    rw [hfollows.eventsOf_eq, List.append_assoc] at hrest
    exact List.append_cancel_left (hevents.symm.trans hrest)
  subst hB
  have hhanded : (stages' i₀).Handed := by
    rcases hlast.underway.ended hdone with ⟨p, hp, hstage⟩ | hstage <;> rw [hstage] <;> trivial
  exact hfate.flatten_batches_iff hhanded hcommit

/-- A commit of a session, and a call for its connection. -/
def commitAndConnection : Fin 2 → SessionCall
  | 0 => .commit
  | 1 => .connection

/-- A new session in whose transaction a message was queued. -/
def oneQueued : Desk Unit :=
  let s : Session Calls (Desk Unit) := Surroundings.calm.session 0
  let work : Program Calls (Desk Unit) Unit := do
    discard s.connection
    s.queueMessage "orders" (some (.str "placed"))
  (work.run Surroundings.calm.serve ({ own := () } : Desk Unit).openSession.2).2

/-- A call for the connection that comes while the statement is awaited finds the transaction
active, and the message of the commit is handed over. -/
theorem handedOver_despite_connection :
    let c := (callsOn .calm 0 commitAndConnection oneQueued).play Surroundings.calm.serve [0, 1, 0, 0, 0]
    c.programs 0 = .done (.ok none)
      ∧ (batches (c.state.eventsOf 0)).flatten = [⟨"orders", "placed"⟩] := by
  have hcalls : ∀ i, (commitAndConnection i).Contends := fun
    | 0 => trivial
    | 1 => trivial
  have hothers : ∀ j, j ≠ 0 → commitAndConnection j ≠ .commit := fun
    | 0, h => absurd rfl h
    | 1, _ => nofun
  have hkept : ¬ EmptiedEarly [.called .commit, .called .connection, .executed ⟨1⟩ .commit none,
      .released ⟨1⟩ none, .handedOver [⟨"orders", "placed"⟩]] := by
    simp [EmptiedEarly, beforeRelease, SessionEvent.isRelease, SessionEvent.Empties]
  refine ⟨rfl, ?_⟩
  exact (handedOver_iff .calm 0 commitAndConnection hcalls rfl hothers oneQueued [] [1, 0, 0, 0]
    List.not_mem_nil _ _ rfl rfl ⟨_, List.mem_of_getElem? (i := 2) rfl, trivial⟩).2 (.inr hkept)

/-- A call for the connection that comes while the connection is being given back begins a
transaction on another one, and the message of the commit is gone. -/
theorem lost_at_release :
    let c := (callsOn .calm 0 commitAndConnection oneQueued).play Surroundings.calm.serve
      [0, 0, 1, 1, 1, 0]
    (oneQueued.sessions 0).outbox.entries = [⟨"orders", "placed"⟩]
      ∧ (oneQueued.sessions 0).transaction = .active
      ∧ c.programs 0 = .done (.ok none) ∧ c.programs 1 = .done (.ok (some ⟨2⟩))
      ∧ Committed (c.state.eventsOf 0) ∧ batches (c.state.eventsOf 0) = [] := by
  have hcommitted : Committed (((callsOn .calm 0 commitAndConnection oneQueued).play
      Surroundings.calm.serve [0, 0, 1, 1, 1, 0]).state.eventsOf 0) :=
    ⟨_, List.mem_of_getElem? (i := 3) rfl, trivial⟩
  exact ⟨rfl, rfl, rfl, rfl, hcommitted, rfl⟩

end UnitOfWork.Trial
