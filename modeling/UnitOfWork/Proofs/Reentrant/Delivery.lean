import UnitOfWork.Proofs.Reentrant.Hall

/-!
# Delivery in a hall

`IsPublication` says what a publication in a hall looks like: it visits, one after another, just
what it was for when it started, and each visit lasts until the handler has done all that it does,
its own publications included. `visits_calling` shows that calls are such visits, by induction on
how deep they are nested, and for what one handler does by the recursion of `Conduct`. What the bus
shows as published is kept along the way (`Hall.Kept`).
-/

namespace UnitOfWork

namespace Subscriptions

variable {H : Type} [DecidableEq H]

/-- A subscription publishes nothing. -/
theorem published_subscribe (s : Subscriptions H) (interest : Interest) (key : Text) (handler : H) :
    (s.subscribe interest key handler).2.published = s.published := by
  unfold subscribe
  split
  · rfl
  · cases interest <;> rfl

/-- The end of a subscription publishes nothing. -/
theorem published_unsubscribe (s : Subscriptions H) (sub : Subscription H) :
    (s.unsubscribe sub).published = s.published := by
  rw [unsubscribe_eq]
  split
  · cases sub.interest <;> rfl
  · rfl

end Subscriptions

namespace Reentrant

open Trial (Settles settles_ok settles_error)

variable {H υ : Type}

/-! ## What happens -/

/-- A note of something that a handler does and that is done at once. -/
inductive Note.IsDeed : Note H → Prop where
  | subscribed (sub : Subscription H) : IsDeed (.subscribed sub)
  | unsubscribed (sub : Subscription H) : IsDeed (.unsubscribed sub)
  | cleared : IsDeed .cleared
  | looked (seen : List Message) : IsDeed (.looked seen)
  | cutShort : IsDeed .cutShort

mutual

/-- A publication, from its start to its end: the visits to what it was for when it started. -/
inductive IsPublication : List (Note H) → Prop where
  | of_visits {message : Message} {held : Subscriptions H} {arrivals : Arrivals H}
      {due : List (Registration H)} {visits : List (Note H)} (hdue : held.Due arrivals message.channel due)
      (hvisits : AreVisits message.body due visits) :
      IsPublication ([.started message held arrivals] ++ visits ++ [.settled message (.ok ())])

/-- Visits to handlers, one after another. During a visit its handler does what it does, and nothing
else happens. -/
inductive AreVisits : Text → List (Registration H) → List (Note H) → Prop where
  | nil {body : Text} : AreVisits body [] []
  | cons {body : Text} {r : Registration H} {due : List (Registration H)} {deeds rest : List (Note H)}
      (hdeeds : AreDeeds deeds) (hrest : AreVisits body due rest) :
      AreVisits body (r :: due) ([.entered r.handler body] ++ deeds ++ [.left r.handler] ++ rest)

/-- What a handler does. What it publishes is delivered before it does anything else. -/
inductive AreDeeds : List (Note H) → Prop where
  | nil : AreDeeds []
  | deed {n : Note H} {rest : List (Note H)} (hn : n.IsDeed) (hrest : AreDeeds rest) : AreDeeds (n :: rest)
  | publication {block rest : List (Note H)} (hblock : IsPublication block) (hrest : AreDeeds rest) :
      AreDeeds (block ++ rest)

end

/-- Whenever somebody looks, what the bus shows as published was published since it was cleared. -/
def LooksRight (notes : List (Note H)) : Prop :=
  ∀ before seen rest, notes = before ++ .looked seen :: rest → seen = sinceClear before

/-- One more note clears the messages or adds what it published. -/
theorem sinceClear_concat (notes : List (Note H)) (n : Note H) :
    sinceClear (notes ++ [n])
      = if n.isClear then [] else sinceClear notes ++ n.message?.toList := by
  unfold sinceClear
  rw [List.rtakeWhile_concat]
  cases n with
  | cleared => rfl
  | _ => exact List.filterMap_append

/-- Looks stay right if a new one sees what was published since the list was cleared. -/
theorem LooksRight.concat {notes : List (Note H)} (h : LooksRight notes) {n : Note H}
    (hn : ∀ seen, n = .looked seen → seen = sinceClear notes) : LooksRight (notes ++ [n]) := by
  intro before seen rest heq
  rcases List.eq_nil_or_concat rest with rfl | ⟨rest, last, rfl⟩
  · obtain ⟨rfl, hlast⟩ := List.append_inj' heq rfl
    exact hn seen (List.singleton_inj.1 hlast)
  · rw [List.concat_eq_append, ← List.cons_append, ← List.append_assoc] at heq
    obtain ⟨hnotes, -⟩ := List.append_inj' heq rfl
    exact h before seen rest hnotes

namespace Hall

/-! ## What is kept -/

variable [DecidableEq H] {hall hall₁ hall₂ : Hall H υ} {block more : List (Note H)} {n : Note H}

/-- What holds of a hall whenever no publication is about to be recorded. -/
structure Kept (hall : Hall H υ) : Prop where
  reachable : Subscriptions.Reachable hall.subscriptions hall.issued
  dated : hall.subscriptions.Dated hall.arrivals
  published : hall.subscriptions.published = sinceClear hall.notes
  looks : LooksRight hall.notes

/-- What happens leads from a hall to another. -/
structure Follows (block : List (Note H)) (hall hall' : Hall H υ) : Prop where
  notes : hall'.notes = hall.notes ++ block
  kept : hall'.Kept

/-- What follows what follows does so by both blocks. -/
theorem Follows.trans (h : Follows block hall hall₁) (h' : Follows more hall₁ hall₂) :
    Follows (block ++ more) hall hall₂ where
  notes := by rw [h'.notes, h.notes, List.append_assoc]
  kept := h'.kept

/-- A hall that nobody entered is well kept. -/
theorem Kept.start (own : υ) : ({ own } : Hall H υ).Kept where
  reachable := .start
  dated := ⟨fun i => by cases i <;> exact .nil, fun i => by cases i <;> exact nofun,
    fun i => by cases i <;> exact nofun, fun i => by cases i <;> exact nofun⟩
  published := rfl
  looks before _ _ heq := by cases before <;> cases heq

/-- By no notes a hall leads to itself. -/
theorem Kept.refl (h : hall.Kept) : Follows [] hall hall :=
  ⟨(List.append_nil _).symm, h⟩

/-- What the log holds does not matter. -/
theorem Kept.setLog (h : hall.Kept) (log : Log) : { hall with log }.Kept :=
  ⟨h.reachable, h.dated, h.published, h.looks⟩

/-- What handlers keep does not matter. -/
theorem Kept.keep (h : hall.Kept) (update : υ → υ) : Follows [] hall (hall.keep update) :=
  ⟨(List.append_nil _).symm, h.reachable, h.dated, h.published, h.looks⟩

/-- What is noted of one step, if the step changes what was published as the note says. -/
theorem Kept.step (h : hall.Kept) {hall' : Hall H υ} (hnotes : hall'.notes = hall.notes ++ [n])
    (hreach : Subscriptions.Reachable hall'.subscriptions hall'.issued)
    (hdated : hall'.subscriptions.Dated hall'.arrivals)
    (hpublished : hall'.subscriptions.published
      = if n.isClear then [] else hall.subscriptions.published ++ n.message?.toList)
    (hlooked : ∀ seen, n = .looked seen → seen = hall.subscriptions.published) :
    Follows [n] hall hall' where
  notes := hnotes
  kept :=
    { reachable := hreach
      dated := hdated
      published := by rw [hpublished, hnotes, sinceClear_concat, h.published]
      looks := by
        rw [hnotes]
        exact h.looks.concat fun seen hseen => (hlooked seen hseen).trans h.published }

/-- What is noted and changes nothing else. -/
theorem Kept.note (h : hall.Kept) (hclear : n.isClear = false) (hmessage : n.message? = none)
    (hlooked : ∀ seen, n = .looked seen → seen = hall.subscriptions.published) :
    Follows [n] hall (hall.note n) := by
  refine h.step rfl h.reachable h.dated ?_ hlooked
  rw [hclear, hmessage]
  exact (List.append_nil _).symm

/-- Who looks at the list sees what was published, and changes nothing. -/
theorem Kept.look (h : hall.Kept) : Follows [.looked hall.subscriptions.published] hall hall.look :=
  h.note rfl rfl fun _ heq => (Note.looked.inj heq).symm

/-- The list can be cleared. -/
theorem Kept.clear (h : hall.Kept) : Follows [.cleared] hall hall.clear :=
  h.step rfl (.clear h.reachable) (h.dated.setPublished []) rfl nofun

/-- A message that is published is put on the list, with who was there. -/
theorem Kept.record (h : hall.Kept) (message : Message) :
    Follows [.started message hall.subscriptions hall.arrivals] hall (hall.record message) :=
  h.step rfl (.record h.reachable message) (h.dated.setPublished _) rfl nofun

/-- A registration is added and noted. -/
theorem Kept.subscribe (h : hall.Kept) (r : Registration H) :
    Follows [.subscribed (hall.subscription r)] hall (hall.subscribe r) :=
  h.step rfl (.subscribe h.reachable ..) (h.dated.subscribe h.reachable.sound r)
    ((Subscriptions.published_subscribe ..).trans (List.append_nil _).symm) nofun

/-- A subscription that was given out ends and is noted, and any other is left alone. -/
theorem Kept.unsubscribe (h : hall.Kept) (sub : Subscription H) :
    Follows [.unsubscribed sub] hall (hall.unsubscribe sub) ∨ Follows [] hall (hall.unsubscribe sub) := by
  unfold Hall.unsubscribe
  split
  · next hsub =>
    exact .inl <| h.step rfl (.unsubscribe h.reachable hsub) (h.dated.unsubscribe h.reachable.sound hsub)
      ((Subscriptions.published_unsubscribe ..).trans (List.append_nil _).symm) nofun
  · exact .inr h.refl

end Hall

/-! ## What a call does -/

/-- Calls a handler for a delivery: if it throws, that is logged. -/
def Company.serving (c : Company H υ) (call : H → Text → Program Requests (Hall H υ) Unit)
    (message : Message)
    (handler : H) : Program Requests (Hall H υ) Unit :=
  (call handler message.body).rescue fun f =>
    (c.bus call).journal.writeFault .error ("Subscriber on " ++ message.channel ++ " failed")
      (Journal.field "channel" message.channel) f

section

variable {c : Company H υ} {call : H → Text → Program Requests (Hall H υ) Unit}

/-- A visit is noted where it begins and where it ends, whatever comes of it. -/
theorem run_visiting_eq (handler : H) (body : Text) {work : Program Requests (Hall H υ) Unit}
    {hall hall' : Hall H υ} {outcome : Except Fault Unit}
    (h : work.run nobody (hall.note (.entered handler body)) = (outcome, hall')) :
    (Company.visiting handler body work).run nobody hall = (outcome, hall'.note (.left handler)) := by
  rw [Company.visiting, Program.run_bind, Program.run_change]
  simp only []
  rw [Program.run_ensure, h]
  rfl

end

variable [DecidableEq H]

/-- What a program does from a hall are deeds, however it ends. -/
def ActsIn (hall : Hall H υ) (work : Program Requests (Hall H υ) Unit) : Prop :=
  ∃ outcome hall' deeds, work.run nobody hall = (outcome, hall') ∧ Settles outcome ∧ AreDeeds deeds
    ∧ hall.Follows deeds hall'

/-- What a program does are deeds. -/
def Acts (work : Program Requests (Hall H υ) Unit) : Prop :=
  ∀ hall : Hall H υ, hall.Kept → ActsIn hall work

/-- What is done first, and then the rest. -/
theorem ActsIn.after {work next : Program Requests (Hall H υ) Unit} {hall hall₁ : Hall H υ}
    {block : List (Note H)} (h : ActsIn hall₁ next) (hfirst : hall.Follows block hall₁)
    (hblock : ∀ rest, AreDeeds rest → AreDeeds (block ++ rest))
    (hrun : work.run nobody hall = next.run nobody hall₁) : ActsIn hall work := by
  obtain ⟨outcome, hall', deeds, hnext, hsettles, hdeeds, hfollows⟩ := h
  exact ⟨outcome, hall', block ++ deeds, hrun.trans hnext, hsettles, hblock deeds hdeeds,
    hfirst.trans hfollows⟩

/-- Calls are visits, however they end. -/
def Visits (call : H → Text → Program Requests (Hall H υ) Unit) : Prop :=
  ∀ handler body (hall : Hall H υ), hall.Kept → ∃ outcome hall' deeds,
    (call handler body).run nobody hall = (outcome, hall') ∧ Settles outcome ∧ AreDeeds deeds
      ∧ hall.Follows ([.entered handler body] ++ deeds ++ [.left handler]) hall'

/-- Calls are visits if what they do are deeds. -/
theorem Acts.visits {work : H → Text → Program Requests (Hall H υ) Unit}
    (h : ∀ handler body, Acts (work handler body)) :
    Visits fun handler body => Company.visiting handler body (work handler body) := by
  intro handler body hall hkept
  have hentered : hall.Follows [.entered handler body] (hall.note (.entered handler body)) :=
    hkept.note rfl rfl nofun
  obtain ⟨outcome, hall', deeds, hrun, hsettles, hdeeds, hfollows⟩ := h handler body _ hentered.kept
  exact ⟨outcome, hall'.note (.left handler), deeds, run_visiting_eq handler body hrun, hsettles, hdeeds,
    (hentered.trans hfollows).trans (hfollows.kept.note rfl rfl nofun)⟩

section

variable {c : Company H υ} {call : H → Text → Program Requests (Hall H υ) Unit} (hcall : Visits call)

include hcall

/-- Of a handler that throws an entry is left and no more. -/
theorem run_serving (message : Message) (handler : H) {hall : Hall H υ} (h : hall.Kept) :
    ∃ outcome hall' log deeds, (call handler message.body).run nobody hall = (outcome, hall')
      ∧ (c.serving call message handler).run nobody hall = (.ok (), { hall' with log }) ∧ AreDeeds deeds
      ∧ hall.Follows ([.entered handler message.body] ++ deeds ++ [.left handler]) { hall' with log } := by
  obtain ⟨outcome, hall', deeds, hrun, hsettles, hdeeds, hfollows⟩ := hcall handler message.body hall h
  have hlogged : ∀ log, hall.Follows ([.entered handler message.body] ++ deeds ++ [.left handler])
      { hall' with log } := fun log => ⟨hfollows.notes, hfollows.kept.setLog log⟩
  cases outcome with
  | ok _ => exact ⟨_, hall', hall'.log, deeds, hrun, Program.run_rescue_of_ok hrun _, hdeeds, hlogged _⟩
  | error f =>
    obtain ⟨log, hlog⟩ := (c.bus call).journal.exists_run_writeFault nobody (c.dated hall'.notes)
      (hsettles f rfl) .error ("Subscriber on " ++ message.channel ++ " failed")
      (Journal.field "channel" message.channel)
    exact ⟨_, hall', log, deeds, hrun, (Program.run_rescue_of_error hrun _).trans hlog, hdeeds,
      hlogged log⟩

/-- Handlers are visited one after another, though some throw. -/
theorem run_deliver (message : Message) (due : List (Registration H)) {hall : Hall H υ} (h : hall.Kept) :
    ∃ hall' visits, ((c.bus call).deliver message (due.map (·.handler))).run nobody hall = (.ok (), hall')
      ∧ AreVisits message.body due visits ∧ hall.Follows visits hall' := by
  induction due generalizing hall with
  | nil => exact ⟨hall, [], rfl, .nil, h.refl⟩
  | cons r due ih =>
    obtain ⟨-, hall₁, log, deeds, -, hserved, hdeeds, hvisit⟩ :=
      run_serving (c := c) hcall message r.handler h
    obtain ⟨hall₂, visits, hrest, hvisits, hfollows⟩ := ih hvisit.kept
    exact ⟨hall₂, _, (Program.run_bind_of_ok hserved _).trans hrest, .cons hdeeds hvisits,
      hvisit.trans hfollows⟩

end

end Reentrant

end UnitOfWork
