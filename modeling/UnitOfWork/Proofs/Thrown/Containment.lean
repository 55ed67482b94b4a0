import UnitOfWork.Proofs.Publisher.Attempts
import UnitOfWork.Proofs.Scope.Settling
import UnitOfWork.Proofs.Thrown.Bench

/-!
# Which thrown values are contained

Four places go on after something is thrown: a scope rolls back and throws it again, a publisher
parks the message, the bus in memory calls the next subscriber, and a mailer fails as one error.
Each of them first makes a text of what was thrown. `contained_iff` says that each contains exactly
what can be told: every error, and every value that has a plain text.
-/

namespace UnitOfWork.Thrown

open Publisher.Notes (eventsIn lettersIn eventsIn_append lettersIn_append)

variable {H υ α : Type} {f : Fault}

/-! ## Scopes -/

section

variable (w : Trial.Surroundings)

/-- A scope whose work fails has the outcome of what follows the failure; closing its session does
not change that. -/
theorem run_runScoped_of_error {commit : Bool}
    {work : SessionRef → Scoped Trial.Calls (Trial.Desk υ) α} {scope : Scope} {d d₁ : Trial.Desk υ}
    (hwork : (work d.opened (⟨w.registryRef, d.opened⟩ :: scope)).run w.serve d.openSession.2
      = (.error f, d₁)) :
    ((w.registry.runScoped commit work scope).run w.serve d).1
      = ((Registry.abandon (w.session d.opened) f : Program Trial.Calls (Trial.Desk υ) α).run
          w.serve d₁).1 := by
  rcases habandon : (Registry.abandon (w.session d.opened) f :
    Program Trial.Calls (Trial.Desk υ) α).run w.serve d₁ with ⟨outcome, d₂⟩
  obtain ⟨d', hclose, -⟩ := Trial.run_closing w d.opened d₂ .debug
    "Session complete, db session closed" (w.session (υ := υ) d.opened).mark
  have hbody : ∀ next : α → Program Trial.Calls (Trial.Desk υ) α,
      (((work d.opened (⟨w.registryRef, d.opened⟩ :: scope)).bind next).rescue
        (Registry.abandon (w.session d.opened))).run w.serve d.openSession.2 = (outcome, d₂) := by
    intro next
    rw [Program.run_rescue, Program.bind, Program.run_andThen, hwork]
    exact habandon
  obtain ⟨next, hscope⟩ : ∃ next, (w.registry.runScoped commit work scope).run w.serve d
      = ((((work d.opened (⟨w.registryRef, d.opened⟩ :: scope)).bind next).rescue
          (Registry.abandon (w.session d.opened))).ensure (do
            (w.session d.opened).close
            (w.session d.opened).journal.write .debug "Session complete, db session closed"
              (w.session (υ := υ) d.opened).mark)).run w.serve d.openSession.2 := ⟨_, rfl⟩
  rw [hscope, Program.run_ensure, hbody, hclose]

/-- What cannot be told is replaced by the fault of telling it, and nothing is rolled back. -/
theorem run_abandon_of_not_sayable (hf : ¬ f.Sayable) (ref : SessionRef) (d : Trial.Desk υ) :
    (Registry.abandon (w.session ref) f : Program Trial.Calls (Trial.Desk υ) α).run w.serve d
      = (.error .noPlainText, d) := by
  rw [Registry.abandon, Program.run_bind, Journal.writeFault, Program.run_bind,
    Program.run_ofExcept, Fault.report_of_not_sayable hf]

end

/-- A scope whose work throws the fault fails with it: whatever the work did, whether or not a
commit was asked for, and whatever else fails that can be told. -/
def ScopeRethrows (f : Fault) : Prop :=
  ∀ (υ α : Type) (w : Trial.Surroundings) (commit : Bool)
    (work : SessionRef → Scoped Trial.Calls (Trial.Desk υ) α) (scope : Scope) (d d₁ : Trial.Desk υ),
    (work d.opened (⟨w.registryRef, d.opened⟩ :: scope)).run w.serve d.openSession.2 = (.error f, d₁) →
      ((w.registry.runScoped commit work scope).run w.serve d).1 = .error f

/-- A scope fails with what its work threw exactly if that can be told. -/
theorem scopeRethrows_iff : ScopeRethrows f ↔ f.Sayable := by
  constructor
  · intro hrethrows
    by_contra hf
    have hcalm := hrethrows Unit Unit .calm false (fun _ _ => .fail f) [] { own := () } _ rfl
    rw [run_runScoped_of_error .calm rfl, run_abandon_of_not_sayable .calm hf] at hcalm
    exact hf (Except.error.inj hcalm ▸ Fault.sayable_of_isError rfl)
  · intro hf υ α w commit work scope d d₁ hwork
    obtain ⟨g, d₂, habandon, -⟩ := Trial.run_abandon (α := α) w d.opened hf d₁
    rw [run_runScoped_of_error w hwork, habandon]

/-! ## Publishing after a commit -/

/-- The messages that were tried, in order. -/
def tried (calls : List (Request H)) : List Message :=
  calls.filterMap fun
    | .publish message => some message
    | _ => none

/-- The publications of two rows of calls are those of both. -/
theorem tried_append (calls calls' : List (Request H)) :
    tried (calls ++ calls') = tried calls ++ tried calls' :=
  List.filterMap_append

/-- A message was given up after a number of attempts. Its dead letter holds the error that stands
for what the bus threw. -/
structure GivenUp (f : Fault) (attempts : Nat) (message : Message) (letter : DeadLetter) :
    Prop where
  message_eq : letter.message = message
  error_eq : f.toError = .ok letter.error
  attempts_eq : letter.attempts = attempts

/-- A publisher over a bus that throws the fault at every attempt takes a batch to an end. With a
limit that is a positive integer it tries each message so often, and then parks it with the error
that stands for the fault. -/
def FlushParks (f : Fault) : Prop :=
  ∀ (H : Type) (w : Surroundings H) (limit : Nat), 1 ≤ limit →
    (∀ calls message, w.fault? calls (.publish message) = some f) →
    (∀ calls ms, w.fault? calls (.pause ms) = none) →
    ∀ (origin : Json.Members) (messages : List Message) (b : Bench H), ∃ b' letters,
      ((w.publisher (.finite limit)).flush origin messages).run w.serve b = (.ok (), b')
      ∧ tried b'.calls = tried b.calls ++ messages.flatMap (List.replicate limit)
      ∧ b'.deadLetters = b.deadLetters ++ letters
      ∧ List.Forall₂ (GivenUp f limit) messages letters

/-- What is noted of a publisher: attempts, with what they fail with, and records among the dead
letters. -/
def notes : Publisher.Notes ((Message × Option Fault) ⊕ DeadLetter) where
  published message f := .inl (message, f)
  paused _ := []
  parked letter := .inr letter

/-- Every attempt among what is noted failed with the fault. -/
def Refused (f : Fault) (block : List ((Message × Option Fault) ⊕ DeadLetter)) : Prop :=
  ∀ message f?, .inl (message, f?) ∈ block → f? = some f

/-- The second bench follows the first by some notes. All attempts among them were refused. -/
structure Bench.Posts (f : Fault) (block : List ((Message × Option Fault) ⊕ DeadLetter))
    (b b' : Bench H) : Prop where
  tried : tried b'.calls = tried b.calls ++ (eventsIn block).map Prod.fst
  deadLetters : b'.deadLetters = b.deadLetters ++ lettersIn block
  refused : Refused f block

namespace Bench.Posts

/-- What is posted in two parts is posted. -/
theorem trans {block more : List ((Message × Option Fault) ⊕ DeadLetter)} {b b₁ b₂ : Bench H}
    (h : b.Posts f block b₁) (h' : b₁.Posts f more b₂) : b.Posts f (block ++ more) b₂ where
  tried := by rw [h'.tried, h.tried, eventsIn_append, List.map_append, List.append_assoc]
  deadLetters := by rw [h'.deadLetters, h.deadLetters, lettersIn_append, List.append_assoc]
  refused message f? hmem :=
    (List.mem_append.1 hmem).elim (h.refused message f?) (h'.refused message f?)

/-- Nothing is tried or parked. -/
theorem keep {b b' : Bench H} (htried : Thrown.tried b'.calls = Thrown.tried b.calls)
    (hletters : b'.deadLetters = b.deadLetters) : b.Posts f [] b' :=
  ⟨htried.trans (List.append_nil _).symm, hletters.trans (List.append_nil _).symm, nofun⟩

end Bench.Posts

/-- A publisher over a bus that refuses every attempt does what the notes tell. -/
theorem publisher_tells (w : Surroundings H) (limit : Nat) (hf : f.Sayable)
    (hbus : ∀ calls message, w.fault? calls (.publish message) = some f)
    (hpause : ∀ calls ms, w.fault? calls (.pause ms) = none) :
    notes.Tell (w.publisher (.finite limit)) w.serve (Bench.Posts f) limit where
  limit := rfl
  nil _ := .keep rfl rfl
  trans := Bench.Posts.trans
  writes level message fields b := by
    obtain ⟨log, hrun⟩ := w.run_write level message fields b
    exact ⟨_, hrun, .keep rfl rfl⟩
  publishes message b := by
    refine ⟨some f, (w.serve (.publish message) b).2, ?_, ⟨tried_append b.calls _, ?_, ?_⟩, ?_⟩
    · show ((w.serve (.publish message) b).1, _) = _
      rw [Surroundings.serve, hbus]
    · exact (List.append_nil _).symm
    · intro m f? hmem
      cases List.mem_singleton.1 hmem
      rfl
    · exact fun g hg => Option.some.inj hg ▸ hf
  pauses ms b := by
    refine ⟨(w.serve (.pause ms) b).2, ?_, .keep ?_ rfl⟩
    · show ((w.serve (.pause ms) b).1, _) = _
      rw [Surroundings.serve, hpause]
      rfl
    · exact (tried_append b.calls [.pause ms]).trans (List.append_nil _)
  parks letter b := ⟨(List.append_nil _).symm, rfl, by simp [Refused, notes]⟩

/-- Failed attempts try their message, and leave no dead letter. -/
theorem eventsIn_failed (message : Message) (faults : List Fault) :
    (eventsIn (notes.failed message faults)).map Prod.fst = List.replicate faults.length message
      ∧ lettersIn (notes.failed message faults) = [] := by
  induction faults using List.reverseRecOn with
  | nil => exact ⟨rfl, rfl⟩
  | append_singleton faults f ih =>
    rw [Publisher.Notes.failed_snoc, eventsIn_append, lettersIn_append, List.map_append, ih.1, ih.2,
      List.length_append, List.length_singleton, List.replicate_succ']
    exact ⟨rfl, rfl⟩

section

variable {limit : Nat}

/-- A message whose attempts all failed is parked. -/
theorem givenUp_of_refused {message : Message} {block : List ((Message × Option Fault) ⊕ DeadLetter)}
    (h : notes.Settled limit message block) (hrefused : Refused f block) :
    (eventsIn block).map Prod.fst = List.replicate limit message
      ∧ ∃ letter, lettersIn block = [letter] ∧ GivenUp f limit message letter := by
  cases h with
  | published faults h => cases hrefused message none (by simp [notes])
  | @parked faults g letter h hmessage hg hself hattempts =>
    obtain rfl : g = f := Option.some.inj (hrefused message (some g) (by simp [notes]))
    obtain ⟨htried, hletters⟩ := eventsIn_failed message faults
    rw [eventsIn_append, lettersIn_append, List.map_append, htried, hletters, ← h, List.replicate_succ']
    exact ⟨rfl, letter, rfl, hmessage, hg, hattempts.trans h.symm⟩

/-- A batch whose attempts all failed is parked. -/
theorem allGivenUp_of_refused {messages : List Message}
    {block : List ((Message × Option Fault) ⊕ DeadLetter)}
    (h : notes.AllSettled limit messages block) (hrefused : Refused f block) :
    (eventsIn block).map Prod.fst = messages.flatMap (List.replicate limit)
      ∧ List.Forall₂ (GivenUp f limit) messages (lettersIn block) := by
  induction h with
  | nil => exact ⟨rfl, .nil⟩
  | cons hsettled _ ih =>
    obtain ⟨htried, letter, hletter, hgiven⟩ := givenUp_of_refused hsettled fun m f? hmem =>
      hrefused m f? (List.mem_append_left _ hmem)
    obtain ⟨htried', hletters'⟩ := ih fun m f? hmem => hrefused m f? (List.mem_append_right _ hmem)
    rw [eventsIn_append, lettersIn_append, List.map_append, htried, htried', hletter, List.flatMap_cons]
    exact ⟨rfl, .cons hgiven hletters'⟩

end

/-- A flush over a bus that throws what cannot be told fails at its first message, which is not
parked. -/
theorem run_flush_of_not_sayable (w : Surroundings H) (hf : ¬ f.Sayable) {limit : Nat}
    (hlimit : 1 ≤ limit)
    (hbus : ∀ calls message, w.fault? calls (.publish message) = some f) (origin : Json.Members)
    (message : Message) (rest : List Message) (b : Bench H) :
    ∃ b', ((w.publisher (.finite limit)).flush origin (message :: rest)).run w.serve b
        = (.error .noPlainText, b')
      ∧ b'.deadLetters = b.deadLetters := by
  obtain ⟨left, rfl⟩ := Nat.exists_eq_add_of_le' hlimit
  obtain ⟨log, hwrite⟩ := w.run_write .debug ("Publishing message to " ++ message.channel)
    (Publisher.context origin message ++ Journal.field "payload" message.body) b
  have hpublish : ((w.publisher (.finite (left + 1 : Nat))).publish message).run w.serve { b with log }
      = (.error f, (w.serve (.publish message) { b with log }).2) := by
    show ((w.serve (.publish message) _).1, _) = _
    rw [Surroundings.serve, hbus]
    rfl
  have htry : ((w.publisher (.finite (left + 1 : Nat))).publishOrPark origin message).run w.serve
      { b with log } = (.error .noPlainText, (w.serve (.publish message) { b with log }).2) := by
    rw [Publisher.publishOrPark, show (w.publisher (.finite (left + 1 : Nat))).maxAttempts
      = .finite (left + 1 : Nat) from rfl, Publisher.attemptsWithin_natCast, Publisher.tryFrom,
      Program.run_rescue_of_error hpublish]
    refine Program.run_bind_of_error ?_ _
    rw [Program.run_ofExcept, Fault.toError_of_not_sayable hf]
  exact ⟨_, (Program.run_bind_of_ok hwrite _).trans (Program.run_bind_of_error htry _), rfl⟩

/-- A flush parks what the bus refuses exactly if the fault can be told. -/
theorem flushParks_iff : FlushParks f ↔ f.Sayable := by
  constructor
  · intro hparks
    by_contra hf
    obtain ⟨b', letters, hrun, -⟩ := hparks Unit (.throwing f) 1 (Nat.le_refl 1) (fun _ _ => rfl)
      (fun _ _ => rfl) [] [⟨[], []⟩] {}
    obtain ⟨b₁, hfails, -⟩ := run_flush_of_not_sayable (.throwing f) hf (Nat.le_refl 1)
      (fun _ _ => rfl) [] ⟨[], []⟩ [] ({} : Bench Unit)
    rw [hfails] at hrun
    cases hrun
  · intro hf H w limit hlimit hbus hpause origin messages b
    obtain ⟨b', block, hrun, hposts, hall⟩ :=
      (publisher_tells w limit hf hbus hpause).run_flush origin hlimit messages b
    obtain ⟨htried, hgiven⟩ := allGivenUp_of_refused hall hposts.refused
    exact ⟨b', lettersIn block, hrun, htried ▸ hposts.tried, hposts.deadLetters, hgiven⟩

/-! ## Subscribers -/

/-- A bus some of whose subscribers throw the fault, or any of them at some times, calls all that
are subscribed when a message is published, in order, whatever they do to the subscriptions
meanwhile; and then it has published the message. -/
def PublishGoesOn (f : Fault) : Prop :=
  ∀ (H : Type) (w : Surroundings H),
    (∀ calls subscriber body, w.fault? calls (.handle subscriber body) = none
      ∨ w.fault? calls (.handle subscriber body) = some f) →
    ∀ (message : Message) (b : Bench H), ∃ b',
      (w.bus.publish message).run w.serve b = (.ok (), b')
      ∧ b'.calls = b.calls
        ++ (b.subscriptions.recipients message.channel).map (.handle · message.body)

/-- Subscribers are called one after another, though some throw what can be told. -/
theorem run_deliver (w : Surroundings H) (hf : f.Sayable)
    (hthrows : ∀ calls subscriber body, w.fault? calls (.handle subscriber body) = none
      ∨ w.fault? calls (.handle subscriber body) = some f)
    (message : Message) (subscribers : List H) (b : Bench H) :
    ∃ b', (w.bus.deliver message subscribers).run w.serve b = (.ok (), b')
      ∧ b'.calls = b.calls ++ subscribers.map (.handle · message.body) := by
  induction subscribers generalizing b with
  | nil => exact ⟨b, rfl, (List.append_nil _).symm⟩
  | cons subscriber rest ih =>
    -- a subscriber that throws leaves an entry and no more
    obtain ⟨log, hcall⟩ : ∃ log, ((w.bus.call subscriber message.body).rescue fun g =>
        w.journal.writeFault .error ("Subscriber on " ++ message.channel ++ " failed")
          (Journal.field "channel" message.channel) g).run w.serve b
        = (.ok (), { (w.serve (.handle subscriber message.body) b).2 with log }) := by
      have hserve : (w.bus.call subscriber message.body).run w.serve b
          = (Fault.toResult (w.fault? b.calls (.handle subscriber message.body)),
            (w.serve (.handle subscriber message.body) b).2) := rfl
      rcases hthrows b.calls subscriber message.body with hnone | hthrown
      · rw [hnone] at hserve
        exact ⟨b.log, Program.run_rescue_of_ok hserve _⟩
      · rw [hthrown] at hserve
        rw [Program.run_rescue_of_error hserve]
        exact w.run_writeFault .error _ _ _ hf
    obtain ⟨b', hrest, hcalls⟩ := ih { (w.serve (.handle subscriber message.body) b).2 with log }
    refine ⟨b', (Program.run_bind_of_ok hcall _).trans hrest, ?_⟩
    rw [hcalls, List.map_cons]
    show b.calls ++ [_] ++ _ = _
    rw [List.append_assoc]
    rfl

/-- After a subscriber that throws what cannot be told, no other is called. -/
theorem run_deliver_of_not_sayable (w : Surroundings H) (hf : ¬ f.Sayable) {message : Message}
    {subscriber : H} (rest : List H) {b : Bench H}
    (hthrown : w.fault? b.calls (.handle subscriber message.body) = some f) :
    (w.bus.deliver message (subscriber :: rest)).run w.serve b
      = (.error .noPlainText, (w.serve (.handle subscriber message.body) b).2) := by
  have hserve : (w.bus.call subscriber message.body).run w.serve b
      = (Fault.toResult (w.fault? b.calls (.handle subscriber message.body)),
        (w.serve (.handle subscriber message.body) b).2) := rfl
  rw [hthrown] at hserve
  exact Program.run_bind_of_error ((Program.run_rescue_of_error hserve _).trans
    (w.run_writeFault_of_not_sayable .error _ _ _ hf)) _

/-- A bus goes on to its other subscribers exactly if what one threw can be told. -/
theorem publishGoesOn_iff : PublishGoesOn f ↔ f.Sayable := by
  constructor
  · intro hgoes
    by_contra hf
    let b : Bench Unit := { subscriptions := (({} : Subscriptions Unit).subscribe .channel [] ()).2 }
    obtain ⟨b', hrun, -⟩ := hgoes Unit (.throwing f) (fun _ _ _ => .inr rfl) ⟨[], []⟩ b
    have hfails : ((Surroundings.throwing f).bus.publish ⟨[], []⟩).run
        (Surroundings.throwing f).serve b = (.error .noPlainText, _) :=
      run_deliver_of_not_sayable (.throwing f) hf [] rfl
    rw [hfails] at hrun
    cases hrun
  · intro hf H w hthrows message b
    exact run_deliver w hf hthrows message _ _

/-! ## Mail -/

/-- A mailer whose transport throws the fault, when it is made or when it relays an email, fails as
one error that has the fault for its cause. -/
def SendFailsAsOne (f : Fault) : Prop :=
  ∀ (H : Type) (w : Surroundings H) (account : MailAccount) (email : Email),
    (∀ calls options, w.fault? calls (.connect options) = none
      ∨ w.fault? calls (.connect options) = some f) →
    (∀ calls, w.fault? calls (.relay email) = some f) →
    ∀ b : Bench H, ∃ info b', (w.mail.send (.smtp account) email).run w.serve b
        = (.error (.caused info f), b')
      ∧ info.errorClass = .messenger

section

variable (w : Surroundings H) (account : MailAccount) (email : Email)

/-- What follows a failure to relay. -/
theorem run_refuse (hf : f.Sayable) (b : Bench H) :
    ∃ b', (w.mail.refuse email f).run w.serve b = (.error (Mailer.relayFault f), b') := by
  obtain ⟨text, htext⟩ := hf.message
  obtain ⟨log, hlog⟩ := w.run_write .error "Failed to relay notification email"
    (Journal.field "subject" email.subject
      ++ Journal.member "error" (.obj (Journal.field "message" text))) b
  refine ⟨_, (Program.run_bind_of_ok (a := text) ?_ _).trans ((Program.run_bind_of_ok hlog _).trans rfl)⟩
  rw [Program.run_ofExcept, htext]

/-- What cannot be told is not logged, and the mailer fails with that. -/
theorem run_refuse_of_not_sayable (hf : ¬ f.Sayable) (b : Bench H) :
    (w.mail.refuse email f).run w.serve b = (.error .noPlainText, b) := by
  refine Program.run_bind_of_error ?_ _
  rw [Program.run_ofExcept, Fault.message_of_not_sayable hf]

/-- An email is not relayed. -/
theorem run_dispatch
    (hconnect : ∀ calls options, w.fault? calls (.connect options) = none
      ∨ w.fault? calls (.connect options) = some f)
    (hrelay : ∀ calls, w.fault? calls (.relay email) = some f) (b : Bench H) :
    ∃ b', (w.mail.dispatch account email).run w.serve b = (.error f, b') := by
  have hconnects : ∀ b : Bench H, (w.mail.connect account.transport).run w.serve b
      = (Fault.toResult (w.fault? b.calls (.connect account.transport)),
        (w.serve (.connect account.transport) b).2) := fun _ => rfl
  have hrelays : ∀ b : Bench H, (w.mail.relay email).run w.serve b
      = (.error f, (w.serve (.relay email) b).2) := fun b => by
    show (Fault.toResult (w.fault? b.calls (.relay email)), _) = _
    rw [hrelay]
    rfl
  have hload : (w.mail.mailbox.load : Program (Requests H) (Bench H) Mailbox).run w.serve b
      = (.ok b.mailbox, b) := rfl
  cases hconnected : b.mailbox.connected with
  | true =>
    refine ⟨(w.serve (.relay email) b).2, (Program.run_bind_of_ok hload _).trans ?_⟩
    rw [hconnected]
    exact hrelays b
  | false =>
    rcases hconnect b.calls account.transport with hnone | hthrown
    · have hmade := hconnects b
      rw [hnone] at hmade
      refine ⟨(w.serve (.relay email) (w.mail.mailbox.update (fun m => { m with connected := true })
        (w.serve (.connect account.transport) b).2)).2, (Program.run_bind_of_ok hload _).trans ?_⟩
      rw [hconnected]
      exact (Program.run_bind_of_ok hmade _).trans
        ((Program.run_bind_of_ok (Program.run_modify ..) _).trans (hrelays _))
    · have hfailed := hconnects b
      rw [hthrown] at hfailed
      refine ⟨(w.serve (.connect account.transport) b).2, (Program.run_bind_of_ok hload _).trans ?_⟩
      rw [hconnected]
      exact Program.run_bind_of_error hfailed _

end

/-- How a fault to relay is told. -/
theorem relayFault_eq (f : Fault) :
    ∃ info, Mailer.relayFault f = .caused info f ∧ info.errorClass = .messenger := by
  unfold Mailer.relayFault
  split <;> exact ⟨_, rfl, rfl⟩

/-- A mailer fails with one error of its own exactly if the cause can be told. -/
theorem sendFailsAsOne_iff : SendFailsAsOne f ↔ f.Sayable := by
  constructor
  · intro hfails
    by_contra hf
    let email : Email := ⟨[], [], [], []⟩
    let account : MailAccount := ⟨[], [], []⟩
    let w : Surroundings Unit := .throwing f
    obtain ⟨info, b', hrun, -⟩ := hfails Unit w account email (fun _ _ => .inr rfl) (fun _ => rfl) {}
    obtain ⟨b₁, hdispatch⟩ := run_dispatch w account email (fun _ _ => .inr rfl) (fun _ => rfl) {}
    have hsend : (w.mail.send (.smtp account) email).run w.serve {} = (.error .noPlainText, b₁) :=
      Program.run_bind_of_error ((Program.run_rescue_of_error hdispatch _).trans
        (run_refuse_of_not_sayable w email hf b₁)) _
    rw [hsend] at hrun
    cases hrun
  · intro hf H w account email hconnect hrelay b
    obtain ⟨b₁, hdispatch⟩ := run_dispatch w account email hconnect hrelay b
    obtain ⟨b₂, hrefuse⟩ := run_refuse w email hf b₁
    obtain ⟨info, heq, hclass⟩ := relayFault_eq f
    rw [heq] at hrefuse
    exact ⟨info, b₂, Program.run_bind_of_error ((Program.run_rescue_of_error hdispatch _).trans hrefuse) _,
      hclass⟩

/-! ## What is contained -/

/-- What is thrown can be told in a log entry exactly if it is an error or has a plain text, and
exactly then each of the four places contains it. -/
theorem contained_iff (f : Fault) :
    ((∃ report, f.report = .ok report)
        ↔ f.isError = true ∨ ∃ v text, f = .value v ∧ Fault.valueText? v = some text)
      ∧ (ScopeRethrows f ↔ ∃ report, f.report = .ok report)
      ∧ (FlushParks f ↔ ∃ report, f.report = .ok report)
      ∧ (PublishGoesOn f ↔ ∃ report, f.report = .ok report)
      ∧ (SendFailsAsOne f ↔ ∃ report, f.report = .ok report) :=
  ⟨Fault.sayable_iff, scopeRethrows_iff, flushParks_iff, publishGoesOn_iff, sendFailsAsOne_iff⟩

/-- An object whose own member hides how it becomes a text is contained nowhere. -/
theorem uncontained_toString :
    let f : Fault := .value (some (.obj [("toString", .ofNat 1)]))
    f.report = .error .noPlainText ∧ ¬ ScopeRethrows f ∧ ¬ FlushParks f ∧ ¬ PublishGoesOn f
      ∧ ¬ SendFailsAsOne f := by
  intro f
  have hreport : f.report = .error .noPlainText := rfl
  have hf : ¬ f.Sayable := by
    rintro ⟨report, h⟩
    rw [hreport] at h
    cases h
  exact ⟨hreport, mt scopeRethrows_iff.1 hf, mt flushParks_iff.1 hf, mt publishGoesOn_iff.1 hf,
    mt sendFailsAsOne_iff.1 hf⟩

end UnitOfWork.Thrown
