import UnitOfWork.Proofs.InPlace.Soundness

/-!
# The bus that is used

Whatever a chore does with a data layer, the messages that a session of a scope or of a serialized
transaction hands over go to the bus that the registry in place was made for
(`settles_on_registry_bus`). That is the bus that the data layer answers with when the scope or the
transaction starts, unless another one was set since the registry was made; then the answer and the
bus that is used differ (`settled_elsewhere`).
-/

namespace UnitOfWork.InPlace

open Trial (SessionCall)

variable {υ α β : Type}

/-! ## What is known along the way -/

/-- A sound office in which the sessions that are bound were opened. -/
structure Office.Ready (scope : Scope) (o : Office υ) : Prop where
  sound : o.Sound
  bound : ∀ b ∈ scope, ∃ bus, o.busOf? b.session = some bus

/-- Something started before, with a registry that was made for a bus. -/
structure Office.Called (before : Office υ) (scope : Scope) (registry : RegistryRef) (bus : BusRef)
    (o : Office υ) : Prop where
  ready : o.Ready scope
  since : before.history <+: o.history
  parts : ∃ parts, o.layer.registries[registry]? = some parts ∧ parts.bus = bus

namespace Scene

variable (T : Scene υ)

/-- The office is ready for what a chore asks. -/
def ready (scope : Scope) : T.course.Fact where
  holds := Office.Ready scope
  lasts h ho :=
    ⟨h.sound ho.sound, fun b hb => (ho.bound b hb).imp fun _ =>
      Office.busOf?_of_isPrefix h.owners h.registries⟩

/-- Something started, and its registry is at hand. -/
def called (before : Office υ) (scope : Scope) (registry : RegistryRef) (bus : BusRef) :
    T.course.Fact where
  holds := Office.Called before scope registry bus
  lasts h ho :=
    ⟨(T.ready scope).lasts h ho.ready, ho.since.trans h.history,
      ho.parts.imp fun _ hparts => ⟨Office.getElem?_of_isPrefix h.registries hparts.1, hparts.2⟩⟩

/-- A session was opened, for a bus. -/
def holding (scope : Scope) (ref : SessionRef) (bus : BusRef) : T.course.Fact where
  holds o := o.Ready scope ∧ o.busOf? ref = some bus
  lasts h ho := ⟨(T.ready scope).lasts h ho.1, Office.busOf?_of_isPrefix h.owners h.registries ho.2⟩

/-- A session was opened for what started. -/
def serving (before : Office υ) (scope : Scope) (registry : RegistryRef) (bus : BusRef)
    (ref : SessionRef) : T.course.Fact where
  holds o := Office.Called before scope registry bus o ∧ o.busOf? ref = some bus
  lasts h ho :=
    ⟨(T.called before scope registry bus).lasts h ho.1,
      Office.busOf?_of_isPrefix h.owners h.registries ho.2⟩

variable {T} {before : Office υ} {scope : Scope} {registry : RegistryRef} {bus : BusRef}

/-! ## The registry in place -/

/-- A bus that is in place is the answer. -/
theorem answer_of_bus {o : Office υ} (h : o.layer.bus = some bus) : T.answer o = .ok bus := by
  rw [answer, T.run_messageBus_of_some h]

/-- A registry that is in place is used with the bus that it was made for. -/
theorem used_of_standing {o : Office υ} (hstands : Stands o.layer (standing? o.history))
    (hregistry : o.layer.registry = some registry) :
    ∃ parts, o.layer.registries[registry]? = some parts ∧ Used o.history (T.answer o) parts.bus := by
  cases hstanding : standing? o.history with
  | none =>
    rw [hstanding] at hstands
    exact absurd (hregistry.symm.trans hstands) nofun
  | some s =>
    rw [hstanding] at hstands
    obtain ⟨⟨r, parts, hr, hparts, hbus⟩, hnow⟩ := hstands
    obtain rfl : registry = r := Option.some.inj (hregistry.symm.trans hr)
    refine ⟨parts, hparts, ?_⟩
    obtain ⟨bus, since⟩ := s
    subst hbus
    cases since with
    | none => exact .kept hstanding (answer_of_bus (hnow _ rfl))
    | some set => exact .passedOver hstanding fun b hb => answer_of_bus (hnow b hb)

/-- A registry is made. -/
theorem leads_of_made (o : Office υ) (parts : RegistryParts) (platform : Platform) (clients : Clients) :
    o.Leads
      { o with
        platform, clients
        layer := ⟨some parts.bus, some o.layer.registries.length, o.layer.registries ++ [parts]⟩
        history := o.history ++ [.made parts] } :=
  .extend List.prefix_rfl (List.prefix_append _ _) rfl (fun _ => .made _ parts) (fun _ href => .inl href)
    (.other trivial .nil) (by simp)

/-- Asking for the registry in place gives one for the bus that what starts then uses. -/
theorem exists_sessionRegistry {o : Office υ} (ho : o.Ready scope) :
    ∃ r o', T.layer.sessionRegistry.run T.serve o = (r, o') ∧ o.Leads o'
      ∧ ∀ registry, r = .ok registry → ∃ bus, Used o.history (T.answer o) bus
        ∧ Office.Called o scope registry bus o' := by
  have hstands := ho.sound.stands
  cases hregistry : o.layer.registry with
  | some registry =>
    refine ⟨_, o, T.run_sessionRegistry_of_some hregistry, .refl o, fun r hr => ?_⟩
    cases hr
    obtain ⟨parts, hparts, hused⟩ := used_of_standing hstands hregistry
    exact ⟨parts.bus, hused, ho, List.prefix_rfl, parts, hparts, rfl⟩
  | none =>
    rcases T.run_sessionRegistry_of_none hregistry with
      ⟨f, platform, clients, hrun⟩ | ⟨platform, clients, parts, hanswer, hrun⟩
    · exact ⟨_, _, hrun, Office.leads_of_same rfl rfl rfl, nofun⟩
    · have hleads := leads_of_made o parts platform clients
      refine ⟨_, _, hrun, hleads, fun r hr => ?_⟩
      cases hr
      refine ⟨parts.bus, .made ?_ hanswer, (T.ready scope).lasts hleads ho, hleads.history, parts,
        List.getElem?_concat_length, rfl⟩
      cases hstanding : standing? o.history with
      | none => rfl
      | some s =>
        rw [hstanding] at hstands
        obtain ⟨⟨r, parts, hr, -⟩, -⟩ := hstands
        exact absurd (hregistry.symm.trans hr) nofun

/-- What goes on with the registry in place keeps the course. -/
theorem leads_sessionRegistry {o : Office υ} (ho : o.Ready scope)
    {next : RegistryRef → Program Calls (Office υ) β}
    (hnext : ∀ registry bus, Used o.history (T.answer o) bus →
      (T.called o scope registry bus).Keeps (next registry)) :
    o.Leads ((T.layer.sessionRegistry >>= next).run T.serve o).2 := by
  obtain ⟨r, o', hrun, hleads, hcalled⟩ := exists_sessionRegistry (T := T) ho
  rw [Program.run_bind, hrun]
  cases r with
  | error f => exact hleads
  | ok registry =>
    obtain ⟨bus, hused, ho'⟩ := hcalled registry rfl
    exact hleads.trans (hnext registry bus hused o' ho')

/-! ## What started with a registry -/

/-- The registry of a scope keeps the bus that serves it. -/
theorem registry_keeps :
    (T.registry registry).Keeps (T.called before scope registry bus)
      (T.serving before scope registry bus) where
  create o ho := by
    obtain ⟨parts, hparts, hbus⟩ := ho.parts
    have hnew : Office.busOf? { o with owners := o.owners ++ [registry] } o.owners.length = some bus :=
      Office.busOf?_eq_some.2 ⟨registry, parts, List.getElem?_concat_length, hparts, hbus⟩
    have hleads : o.Leads { o with owners := o.owners ++ [registry] } := by
      refine .extend (List.prefix_append _ _) List.prefix_rfl (List.append_nil _).symm
        (fun hs => hs.stands) (fun ref href => ?_) .nil nofun
      rw [List.length_append, List.length_singleton, Nat.lt_succ_iff_lt_or_eq] at href
      exact href.imp_right fun (h : ref = _) => h ▸ ⟨bus, hnew⟩
    exact ⟨_, _, rfl, hleads, (T.called before scope registry bus).lasts hleads ho, hnew⟩
  session ref := session_keeps fun o ho => ⟨bus, ho.2⟩

/-- Work of what started is noted with the bus that it uses. -/
theorem within_keeps (hused : Used before.history (T.answer before) bus) {ref : SessionRef}
    {body : Scoped Calls (Office υ) α} {inner : Scope}
    (hbody : (T.serving before scope registry bus ref).Keeps (body inner)) :
    (T.serving before scope registry bus ref).Keeps (T.within before ref body inner) := by
  refine .act (fun o ho => ?_) fun _ => hbody
  refine .extend List.prefix_rfl List.prefix_rfl rfl (fun hs => hs.stands) (fun _ href => .inl href)
    (.other trivial .nil) fun r start answer hbegan => ?_
  cases List.mem_singleton.1 hbegan
  obtain ⟨more, hmore⟩ := ho.1.since
  have hnow : (o.note (.began ref before.history.length (T.answer before))).history
      = before.history ++ (more ++ [.began ref before.history.length (T.answer before)]) := by
    rw [← List.append_assoc, hmore]
    rfl
  refine ⟨bus, ho.2, ?_, ?_⟩
  · rw [hnow, List.length_append]
    exact Nat.le_add_right _ _
  · rwa [hnow, List.take_left]

/-- Where a bus serves a session the scope is ready. -/
theorem ready_of_serving {ref : SessionRef} {o : Office υ}
    (h : (T.serving before scope registry bus ref).holds o) : o.Ready (⟨registry, ref⟩ :: scope) :=
  ⟨h.1.ready.sound, List.forall_mem_cons.2 ⟨⟨bus, h.2⟩, h.1.ready.bound⟩⟩

/-! ## What a chore asks of the data layer -/

variable (T)

/-- Asking for the bus keeps every fact. -/
theorem messageBus_keeps {F : T.course.Fact} : F.Keeps T.layer.messageBus := by
  intro o _
  obtain ⟨platform, clients, layer, hrun, hlayer⟩ := T.run_messageBus o
  show o.Leads (T.layer.messageBus.run T.serve o).2
  rw [hrun]
  rcases hlayer with rfl | ⟨hnone, bus, rfl⟩
  · exact Office.leads_of_same rfl rfl rfl
  · exact Office.leads_of_put rfl rfl (List.append_nil _).symm nofun fun hs =>
      hs.stands.makeBus hnone bus

/-- Setting the bus keeps every fact. -/
theorem setBus_keeps {F : T.course.Fact} (set : Option BusRef) :
    F.Keeps (noting (.busSet set) (T.layer.setMessageBus set)) := by
  intro o _
  show o.Leads (Office.layerCell.update (DataLayerState.setBus set) (o.note (.busSet set)))
  rw [Office.layerCell_update (f := DataLayerState.setBus set) fun _ => rfl]
  exact Office.leads_of_put rfl rfl rfl (by simp [Event.Apart]) fun hs => hs.stands.setBus set

/-- Dropping the registry keeps every fact. -/
theorem dropRegistry_keeps {F : T.course.Fact} :
    F.Keeps (noting .dropped (T.layer.setSessionRegistry none)) := by
  intro o _
  show o.Leads (Office.layerCell.update (DataLayerState.setRegistry none) (o.note .dropped))
  rw [Office.layerCell_update (f := DataLayerState.setRegistry none) fun _ => rfl]
  exact Office.leads_of_put rfl rfl rfl (by simp [Event.Apart]) fun _ => rfl

/-- Closing the client keeps every fact. -/
theorem closeClient_keeps {F : T.course.Fact} : F.Keeps T.database.closeClient := by
  refine .load _ fun clients => ?_
  split
  · exact .done _
  · have hforget : F.Keeps (T.database.clients.modify fun cs => { cs with current := none }
        : Program Calls (Office υ) Unit) :=
      .change fun o _ => Office.leads_of_same rfl rfl rfl
    exact hforget.bind fun _ => asking_keeps nofun

/-- Shutting the layer down keeps every fact. -/
theorem shutdown_keeps {F : T.course.Fact} : F.Keeps (noting .dropped T.layer.shutdown) := by
  intro o ho
  have hforget : o.Leads (Office.layerCell.update (fun s => (s.setRegistry none).setBus none)
      (o.note .dropped)) := by
    rw [Office.layerCell_update (f := fun s => (s.setRegistry none).setBus none) fun _ => rfl]
    exact Office.leads_of_put rfl rfl rfl (by simp [Event.Apart]) fun _ => rfl
  have hclose : F.Keeps (T.database.closeClient >>= fun _ =>
      T.database.journal.write .info "Data layer shut down" []) :=
    (closeClient_keeps T).bind fun _ => journal_keeps _ _ _
  exact hforget.trans (hclose _ (F.lasts hforget ho))

/-- Asking for the registry keeps a scope ready. -/
theorem sessionRegistry_keeps : (T.ready scope).Keeps T.layer.sessionRegistry := by
  intro o ho
  obtain ⟨r, o', hrun, hleads, -⟩ := exists_sessionRegistry (T := T) ho
  show o.Leads (T.layer.sessionRegistry.run T.serve o).2
  rwa [hrun]

/-- Queueing a message keeps a scope ready. -/
theorem queueMessage_keeps (channel : Text) (message : Option Json) :
    (T.ready scope).Keeps (T.layer.queueMessage channel message scope) := by
  intro o ho
  refine leads_sessionRegistry ho fun registry bus _ => ?_
  show (T.called o scope registry bus).Keeps ((T.registry registry).queueMessage channel message scope)
  rw [Registry.queueMessage, Registry.current]
  cases hcurrent : (T.registry registry).current? scope with
  | none => exact .done _
  | some ref =>
    obtain ⟨b, hfind, rfl⟩ := Option.map_eq_some_iff.1 hcurrent
    have hsession : (T.session b.session).Keeps (T.called o scope registry bus) :=
      session_keeps fun o' ho' => ho'.ready.bound b (List.mem_of_find?_eq_some hfind)
    exact hsession.queueMessage channel message

variable {T}

/-- What uses a session that was opened keeps the course. -/
theorem reaching_keeps {ref : SessionRef} {p : Program Calls (Office υ) β}
    (hp : ∀ bus, (T.holding scope ref bus).Keeps p) : (T.ready scope).Keeps (reaching ref p) := by
  intro o ho
  show o.Leads (Program.run T.serve (if ref < o.owners.length then p else _) o).2
  by_cases href : ref < o.owners.length
  · rw [if_pos href]
    obtain ⟨bus, hbus⟩ := ho.sound.owned ref href
    exact hp bus o ⟨ho, hbus⟩
  · rw [if_neg href]
    exact .refl o

/-- A session that is held keeps the bus that it was given. -/
theorem held_keeps {ref : SessionRef} : (T.session ref).Keeps (T.holding scope ref bus) :=
  session_keeps fun _ ho => ⟨bus, ho.2⟩

end Scene

/-- Whatever a chore does, it keeps the course. -/
theorem Chore.play_keeps {T : Scene υ} (chore : Chore υ α) (scope : Scope) :
    (T.ready scope).Keeps (chore.play T scope) := by
  induction chore generalizing scope with
  | done outcome => exact .done _
  | act update next ih =>
    exact .act (fun o _ => Office.leads_of_same rfl rfl rfl) fun o => ih o.own scope
  | consult question next ih =>
    have hask : (T.ready scope).Keeps (Scene.asking (.consult question)) := Scene.asking_keeps nofun
    exact hask.andThen fun r => ih r scope
  | setBus bus next ih => exact (T.setBus_keeps bus).bind fun _ => ih scope
  | getBus next ih => exact T.messageBus_keeps.andThen fun r => ih r scope
  | getRegistry next ih => exact T.sessionRegistry_keeps.andThen fun r => ih r scope
  | dropRegistry next ih => exact T.dropRegistry_keeps.bind fun _ => ih scope
  | shutdown next ih => exact T.shutdown_keeps.andThen fun r => ih r scope
  | queue channel message next ih =>
    exact (T.queueMessage_keeps channel message).andThen fun r => ih r scope
  | look ref next ih =>
    refine .bind (Scene.reaching_keeps fun bus => ?_) fun x => ih x scope
    exact .act (fun o _ => .refl o) fun _ => .done _
  | call ref c next ih =>
    exact .andThen (Scene.reaching_keeps fun bus => Scene.held_keeps.perform c) fun r => ih r scope
  | savepoint ref body next ihbody ih =>
    refine .andThen (Scene.reaching_keeps fun bus => Scene.held_keeps.savepoint ?_) fun r => ih r scope
    exact (ihbody scope).mono fun _ ho => ho.1
  | inScope commit work next ihwork ih =>
    refine .andThen (fun o ho => ?_) fun r => ih r scope
    refine Scene.leads_sessionRegistry ho fun registry bus hused => ?_
    exact Scene.registry_keeps.runScoped commit fun ref => Scene.within_keeps hused
      ((ihwork ref _).mono fun _ => Scene.ready_of_serving)
  | serialized limit rate work next ihwork ih =>
    refine .andThen (fun o ho => ?_) fun r => ih r scope
    refine Scene.leads_sessionRegistry ho fun registry bus hused => ?_
    refine Scene.registry_keeps.runSerialized (Scene.asking_keeps nofun)
      (fun _ => Scene.asking_keeps nofun) fun ref => Scene.within_keeps hused ?_
    exact (ihwork ref _).mono fun _ => Scene.ready_of_serving

/-! ## The bus that is used -/

/-- An office in which nothing has happened is sound. -/
theorem Office.sound_of_new (own : υ) (platform : Platform) : ({ own, platform } : Office υ).Sound :=
  ⟨rfl, nofun, .nil, nofun⟩

/-- Whatever a chore does with the data layer of a process, and whatever its calls come to: what a
session hands over is settled at once on the bus of its registry, each message published there or
parked once the bus has refused it as often as it was tried, and nothing else is published. In a
scope and in a serialized transaction that is the bus for which the registry in place was made, or
is made; it is the one that the data layer would answer with when the scope or the transaction
starts, unless a bus was set since the registry was made (`Used`). -/
theorem settles_on_registry_bus (T : Scene υ) (chore : Chore υ α) (own : υ) (platform : Platform) :
    Honest (chore.leaves T own platform).busOf? (chore.leaves T own platform).history
      ∧ ∀ ref start answer, .began ref start answer ∈ (chore.leaves T own platform).history →
        ∃ bus, (chore.leaves T own platform).busOf? ref = some bus
          ∧ Used ((chore.leaves T own platform).history.take start) answer bus := by
  have hnew : (T.ready []).holds { own, platform } := ⟨Office.sound_of_new own platform, nofun⟩
  have hsound : (chore.leaves T own platform).Sound :=
    (chore.play_keeps [] _ hnew).sound (Office.sound_of_new own platform)
  refine ⟨hsound.honest, fun ref start answer hbegan => ?_⟩
  obtain ⟨bus, hbus, -, hused⟩ := hsound.promised ref start answer hbegan
  exact ⟨bus, hbus, hused⟩

/-- A scene in which the requests that a rule names fail with an error, while the clock stands
still. -/
def Scene.failing (info : ErrorInfo) (rule : Request → Bool) : Scene Unit where
  fault? _ request := if rule request then some (.error info) else none
  sayable _ _ _ f h := by
    rw [Option.ite_none_right_eq_some] at h
    cases h.2
    exact Fault.sayable_of_isError rfl
  clock _ := .finite 0
  dated _ := by decide
  draw _ := .finite 0
  advice _ _ := .null
  label _ := "session"

/-- A scene in which nothing fails. -/
def Scene.calm : Scene Unit :=
  Scene.failing ⟨.application none .null, ""⟩ fun _ => false

/-- A scene in which every bus refuses every message. -/
def Scene.refusing : Scene Unit :=
  Scene.failing ⟨.application none .null, "refused"⟩ (· matches .publish _ _)

/-- A greeting. -/
def hello : Message :=
  ⟨"chat", "hello"⟩

/-- Queues a greeting in a scope that commits, and goes on. -/
def greeting (next : Chore Unit Unit) : Chore Unit Unit :=
  .inScope true
    (fun ref => .call ref (.queueMessage hello.channel (some (.str hello.body))) fun r =>
      .done (r.map fun _ => ()))
    fun _ => next

/-- Greets on one bus, forgets the registry, and greets on another one. -/
def greetingTwice : Chore Unit Unit :=
  .setBus (some (.given 0)) (greeting
    (.setBus (some (.given 1)) (.dropRegistry (greeting (.done (.ok ()))))))

/-- What two greetings leave, each over the bus that was set before it. -/
theorem history_greetingTwice : (greetingTwice.leaves .calm () {}).history =
    [.busSet (some (.given 0)), .made ⟨.pooled 0, .given 0⟩, .began 0 1 (.ok (.given 0)),
      .handedOver 0 [hello], .published (.given 0) hello none, .busSet (some (.given 1)), .dropped,
      .made ⟨.pooled 0, .given 1⟩, .began 1 7 (.ok (.given 1)), .handedOver 1 [hello],
      .published (.given 1) hello none] :=
  rfl

/-- The second greeting is settled on the second bus, which is in place when its scope starts. -/
theorem settles_on_registry_bus_twice :
    let left := greetingTwice.leaves .calm () {}
    .began 1 7 (.ok (.given 1)) ∈ left.history ∧ Honest left.busOf? left.history
      ∧ ∃ bus, left.busOf? 1 = some bus ∧ Used (left.history.take 7) (.ok (.given 1)) bus := by
  intro left
  have hbegan : .began 1 7 (.ok (.given 1)) ∈ left.history := by
    rw [history_greetingTwice]
    simp
  obtain ⟨hhonest, hused⟩ := settles_on_registry_bus .calm greetingTwice () {}
  exact ⟨hbegan, hhonest, hused 1 7 _ hbegan⟩

/-- Greets on a bus that was put in place after the registry was made for another one. -/
def greetingLate : Chore Unit Unit :=
  .setBus (some (.given 0)) (.getRegistry fun _ => .setBus (some (.given 1)) (greeting (.done (.ok ()))))

/-- What a greeting leaves over the bus that its registry was made with. -/
theorem history_greetingLate : (greetingLate.leaves .calm () {}).history =
    [.busSet (some (.given 0)), .made ⟨.pooled 0, .given 0⟩, .busSet (some (.given 1)),
      .began 0 3 (.ok (.given 1)), .handedOver 0 [hello], .published (.given 0) hello none] :=
  rfl

/-- What a greeting leaves over a bus that refuses it. -/
theorem history_greeting_of_refusing :
    ∃ f letter, ((greeting (.done (.ok ()))).leaves .refusing () {}).history =
      [.made ⟨.pooled 0, .notifications 0⟩, .began 0 0 (.ok (.notifications 0)), .handedOver 0 [hello],
        .published (.notifications 0) hello (some f), .published (.notifications 0) hello (some f),
        .published (.notifications 0) hello (some f), .parked letter] :=
  ⟨_, _, rfl⟩

/-- A greeting is published on another bus than the one that is in place when its scope starts; and
one is published nowhere, because its bus refuses it. -/
theorem settled_elsewhere :
    let late := greetingLate.leaves .calm () {}
    let refused := (greeting (.done (.ok ()))).leaves .refusing () {}
    (.began 0 3 (.ok (.given 1)) ∈ late.history ∧ .handedOver 0 [hello] ∈ late.history
        ∧ .published (.given 0) hello none ∈ late.history
        ∧ ∀ f, .published (.given 1) hello f ∉ late.history)
      ∧ .began 0 0 (.ok (.notifications 0)) ∈ refused.history ∧ .handedOver 0 [hello] ∈ refused.history
        ∧ ∀ bus, .published bus hello none ∉ refused.history := by
  intro late refused
  obtain ⟨f, letter, hrefused⟩ := history_greeting_of_refusing
  rw [show late.history = _ from history_greetingLate, show refused.history = _ from hrefused]
  simp

end UnitOfWork.InPlace
