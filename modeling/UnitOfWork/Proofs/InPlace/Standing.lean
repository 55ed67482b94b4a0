import UnitOfWork.Proofs.InPlace.Honest

/-!
# The registry in place

A history tells which registry is in place, for which bus it was made, and which bus was set last
since (`standing?`). A data layer stands as its history tells (`Stands`) as long as it is used by
what it offers. Asking it for the registry gives one that was made for the bus in place when it was
made (`Scene.run_sessionRegistry`); that is the bus that the data layer answers with, unless another
was set since (`Used`).
-/

namespace UnitOfWork.InPlace

variable {υ : Type}

/-! ## What a history tells -/

/-- A registry that is in place: the bus that it was made for, and the one that was set last
since. -/
structure Standing where
  bus : BusRef
  since : Option (Option BusRef) := none

/-- What stands after an event. -/
def Event.leaves (standing : Option Standing) : Event → Option Standing
  | busSet bus => standing.map fun s => { s with since := some bus }
  | made parts => some ⟨parts.bus, none⟩
  | dropped => none
  | _ => standing

/-- The registry that is in place after a history, if one is. -/
def standing? (history : List Event) : Option Standing :=
  history.foldl Event.leaves none

/-- What stands after a longer history is what its end leaves of what stood before. -/
theorem standing?_append (history more : List Event) :
    standing? (history ++ more) = more.foldl Event.leaves (standing? history) :=
  List.foldl_append

/-- What starts after a history uses a bus, and asking for the bus in place is answered then. -/
inductive Used (history : List Event) (answer : Except Fault BusRef) : BusRef → Prop where
  /-- No registry is in place, so one is made for the bus in place. -/
  | made {bus : BusRef} (h : standing? history = none) (hanswer : answer = .ok bus) :
      Used history answer bus
  /-- No bus was set since the registry in place was made. -/
  | kept {bus : BusRef} (h : standing? history = some ⟨bus, none⟩) (hanswer : answer = .ok bus) :
      Used history answer bus
  /-- A bus was set since the registry in place was made, or none was put in place. -/
  | passedOver {bus : BusRef} {set : Option BusRef} (h : standing? history = some ⟨bus, some set⟩)
      (hanswer : ∀ b, set = some b → answer = .ok b) : Used history answer bus

/-- The data layer is as a history tells. -/
def Stands (layer : DataLayerState) : Option Standing → Prop
  | none => layer.registry = none
  | some s => (∃ registry parts, layer.registry = some registry
      ∧ layer.registries[registry]? = some parts ∧ parts.bus = s.bus)
    ∧ ∀ b, s.since.getD (some s.bus) = some b → layer.bus = some b

namespace Stands

variable {layer : DataLayerState} {standing : Option Standing}

/-- A bus is put in place, or none. -/
theorem setBus (h : Stands layer standing) (bus : Option BusRef) :
    Stands (layer.setBus bus) ((Event.busSet bus).leaves standing) := by
  cases standing with
  | none => exact h
  | some s => exact ⟨h.1, fun b hb => hb⟩

/-- A bus is put in place that was made because none was. -/
theorem makeBus (h : Stands layer standing) (hnone : layer.bus = none) (bus : BusRef) :
    Stands (layer.setBus (some bus)) standing := by
  cases standing with
  | none => exact h
  | some s => exact ⟨h.1, fun b hb => absurd (hnone.symm.trans (h.2 b hb)) nofun⟩

/-- A registry that was made is put in place. -/
theorem made (registries : List RegistryParts) (parts : RegistryParts) :
    Stands ⟨some parts.bus, some registries.length, registries ++ [parts]⟩ (some ⟨parts.bus, none⟩) :=
  ⟨⟨_, parts, rfl, List.getElem?_concat_length, rfl⟩, fun _ hb => hb⟩

end Stands

/-! ## Asking the data layer -/

/-- Putting something in place makes no registry. -/
theorem Office.layerCell_update {f : DataLayerState → DataLayerState}
    (hf : ∀ layer, (f layer).registries = layer.registries) (o : Office υ) :
    Office.layerCell.update f o = { o with layer := f o.layer } := by
  simp [Cell.update, Office.layerCell, hf]

namespace Scene

variable (T : Scene υ)

/-- Asking for the configuration changes the platform and no more. -/
theorem run_config (o : Office υ) :
    ∃ r platform, T.database.config.run T.serve o = (r, { o with platform }) := by
  refine ⟨o.platform.config.1, o.platform.config.2, ?_⟩
  simp only [Database.config, Program.run_bind, Cell.step, Program.run_step]
  rfl

/-- Making a client changes the clients and no more. -/
theorem run_createClient (config : ClientConfig) (o : Office υ) :
    ∃ r clients, (T.database.createClient config).run T.serve o = (r, { o with clients }) := by
  have hconnect (options : ConnectOptions) : (T.database.connect options).run T.serve o
      = (Fault.toResult (T.fault? o (.connect options)), o) := rfl
  simp only [Database.createClient, Program.run_bind, hconnect]
  cases T.fault? o (.connect (Database.poolOptions config)) with
  | some f => exact ⟨_, o.clients, rfl⟩
  | none =>
    simp only [Fault.toResult_none, Program.run_ofExcept]
    cases PoolGuard.make config.poolSize config.queueTimeoutMs with
    | error f => exact ⟨_, o.clients, rfl⟩
    | ok guard => exact ⟨_, _, rfl⟩

/-- A client that is in use is given as it is. -/
theorem run_client_of_some {o : Office υ} {client : ClientRef} (h : o.clients.current = some client) :
    T.database.client.run T.serve o = (.ok client, o) := by
  have hload : (T.database.clients.load : Program Calls (Office υ) Clients).run T.serve o
      = (.ok o.clients, o) := rfl
  simp only [Database.client, Program.run_bind, hload, h, Program.run_pure]

/-- Asking for the client makes one if there is none. -/
theorem run_client (o : Office υ) :
    ∃ r platform clients, T.database.client.run T.serve o = (r, { o with platform, clients })
      ∧ ∀ client, r = .ok client → clients.current = some client := by
  cases hcurrent : o.clients.current with
  | some client =>
    exact ⟨.ok client, o.platform, o.clients, T.run_client_of_some hcurrent,
      fun c hc => by cases hc; exact hcurrent⟩
  | none =>
    have hload : (T.database.clients.load : Program Calls (Office υ) Clients).run T.serve o
        = (.ok o.clients, o) := rfl
    obtain ⟨r, platform, hconfig⟩ := T.run_config o
    simp only [Database.client, Program.run_bind, hload, hcurrent, hconfig]
    cases r with
    | error f => exact ⟨.error f, platform, o.clients, rfl, nofun⟩
    | ok config =>
      obtain ⟨r, clients, hcreate⟩ :=
        T.run_createClient (ClientConfig.ofConfig config) { o with platform }
      simp only [hcreate]
      cases r with
      | error f => exact ⟨.error f, platform, clients, rfl, nofun⟩
      | ok client => exact ⟨.ok client, platform, _, rfl, fun c hc => by cases hc; rfl⟩

section

variable {o : Office υ}

/-- The data layer of a trial has its database. -/
theorem layer_database : T.layer.database = T.database := rfl

/-- The data layer of a trial keeps its state in the office. -/
theorem layer_state : (T.layer : DataLayer Calls (Office υ)).state = Office.layerCell := rfl

/-- Loading the layer changes nothing. -/
theorem run_loadLayer : (T.layer.state.load : Program Calls (Office υ) DataLayerState).run T.serve o
    = (.ok o.layer, o) :=
  rfl

/-- A bus that is in place is given as it is. -/
theorem run_messageBus_of_some {bus : BusRef} (h : o.layer.bus = some bus) :
    T.layer.messageBus.run T.serve o = (.ok bus, o) := by
  simp only [DataLayer.messageBus, Program.run_bind, run_loadLayer, h, Program.run_pure]

/-- Asking for the bus makes one over the client if there is none. -/
theorem run_messageBus_of_none (h : o.layer.bus = none) :
    T.layer.messageBus.run T.serve o =
      match T.database.client.run T.serve o with
      | (.ok client, o') => (.ok (.notifications client),
          { o' with layer := o'.layer.setBus (some (.notifications client)) })
      | (.error f, o') => (.error f, o') := by
  simp only [DataLayer.messageBus, Program.run_bind, run_loadLayer, h, layer_database]
  obtain ⟨r, platform, clients, hclient, -⟩ := T.run_client o
  rw [hclient]
  cases r with
  | error f => rfl
  | ok client =>
    simp only [Program.run_modify, Program.run_pure, layer_state]
    rw [Office.layerCell_update (f := DataLayerState.setBus _) fun _ => rfl]

/-- What asking for the bus leaves of an office. -/
theorem run_messageBus (o : Office υ) :
    ∃ platform clients layer, (T.layer.messageBus.run T.serve o).2 = { o with platform, clients, layer }
      ∧ (layer = o.layer ∨ o.layer.bus = none ∧ ∃ bus, layer = o.layer.setBus (some bus)) := by
  cases hbus : o.layer.bus with
  | some bus =>
    rw [T.run_messageBus_of_some hbus]
    exact ⟨o.platform, o.clients, o.layer, rfl, .inl rfl⟩
  | none =>
    obtain ⟨r, platform, clients, hclient, -⟩ := T.run_client o
    rw [T.run_messageBus_of_none hbus, hclient]
    cases r with
    | error f => exact ⟨platform, clients, o.layer, rfl, .inl rfl⟩
    | ok client => exact ⟨platform, clients, _, rfl, .inr ⟨rfl, _, rfl⟩⟩

/-- With a client in use, asking for the bus does not fail. -/
theorem run_messageBus_of_client {client : ClientRef} (h : o.clients.current = some client) :
    T.layer.messageBus.run T.serve o = (.ok (o.layer.bus.getD (.notifications client)),
      { o with layer := o.layer.setBus (some (o.layer.bus.getD (.notifications client))) }) := by
  cases hbus : o.layer.bus with
  | some bus =>
    rw [T.run_messageBus_of_some hbus, Option.getD_some, DataLayerState.setBus, ← hbus]
  | none => rw [T.run_messageBus_of_none hbus, T.run_client_of_some h, Option.getD_none]

/-- Where no bus is in place the answer is the one of the client's notifications. -/
theorem answer_of_client {client : ClientRef} {o' : Office υ}
    (h : T.database.client.run T.serve o = (.ok client, o')) :
    T.answer o = .ok (o.layer.bus.getD (.notifications client)) := by
  cases hbus : o.layer.bus with
  | some bus => rw [answer, T.run_messageBus_of_some hbus, Option.getD_some]
  | none => rw [answer, T.run_messageBus_of_none hbus, h, Option.getD_none]

/-- A registry that is made is noted. -/
theorem run_addRegistry (parts : RegistryParts) (o : Office υ) :
    (Office.layerCell.step (DataLayerState.addRegistry parts)
        : Program Calls (Office υ) RegistryRef).run T.serve o
      = (.ok o.layer.registries.length,
          { o with
            layer := { o.layer with registries := o.layer.registries ++ [parts] }
            history := o.history ++ [.made parts] }) := by
  simp only [Cell.step, Program.run_step, Office.layerCell, DataLayerState.addRegistry, List.drop_left,
    List.map_cons, List.map_nil]

/-- A registry that is in place is given as it is. -/
theorem run_sessionRegistry_of_some {registry : RegistryRef} (h : o.layer.registry = some registry) :
    T.layer.sessionRegistry.run T.serve o = (.ok registry, o) := by
  simp only [DataLayer.sessionRegistry, Program.run_bind, run_loadLayer, h, Program.run_pure]

/-- Where no registry is in place, one is made for the bus that the data layer answers with, unless
there is no client. -/
theorem run_sessionRegistry_of_none (h : o.layer.registry = none) :
    (∃ f platform clients, T.layer.sessionRegistry.run T.serve o
        = (.error f, { o with platform, clients }))
      ∨ ∃ platform clients parts, T.answer o = .ok parts.bus
        ∧ T.layer.sessionRegistry.run T.serve o = (.ok o.layer.registries.length,
          { o with
            platform, clients
            layer := ⟨some parts.bus, some o.layer.registries.length, o.layer.registries ++ [parts]⟩
            history := o.history ++ [.made parts] }) := by
  obtain ⟨r, platform, clients, hclient, hcurrent⟩ := T.run_client o
  simp only [DataLayer.sessionRegistry, Program.run_bind, run_loadLayer, h, layer_database, hclient]
  cases r with
  | error f => exact .inl ⟨f, platform, clients, rfl⟩
  | ok client =>
    right
    have hanswer := T.answer_of_client hclient
    have hbus := T.run_messageBus_of_client (o := { o with platform, clients }) (hcurrent client rfl)
    dsimp only at hbus
    generalize o.layer.bus.getD (.notifications client) = bus at hanswer hbus
    refine ⟨platform, clients, ⟨.pooled client, bus⟩, hanswer, ?_⟩
    simp only [hbus, Program.run_modify, Program.run_pure, layer_state, run_addRegistry]
    rw [Office.layerCell_update (f := DataLayerState.setRegistry _) fun _ => rfl]
    rfl

end

end Scene

end UnitOfWork.InPlace
