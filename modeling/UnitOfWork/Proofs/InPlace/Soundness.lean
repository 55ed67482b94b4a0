import UnitOfWork.Proofs.Course.Scopes
import UnitOfWork.Proofs.InPlace.Standing

/-!
# Sound offices

An office is sound if its data layer is as the history tells, if the history is honest, and if each
session of a scope or of a serialized transaction uses the bus that it should, as far as its work
began. What may come of an office keeps it sound and takes back nothing (`Office.Leads`). Every
program that a chore is made of keeps this course: using a session that was opened, and asking the
data layer for what is in place.
-/

namespace UnitOfWork.InPlace

variable {υ α : Type}

/-- What began in a session after a stretch of the history has a bus to use. -/
def Office.Promised (o : Office υ) (ref : SessionRef) (start : Nat) (answer : Except Fault BusRef) :
    Prop :=
  ∃ bus, o.busOf? ref = some bus ∧ start ≤ o.history.length ∧ Used (o.history.take start) answer bus

/-- An office as it should be. -/
structure Office.Sound (o : Office υ) : Prop where
  stands : Stands o.layer (standing? o.history)
  owned : ∀ ref < o.owners.length, ∃ bus, o.busOf? ref = some bus
  honest : Honest o.busOf? o.history
  promised : ∀ ref start answer, .began ref start answer ∈ o.history → o.Promised ref start answer

/-- What may come of an office. -/
structure Office.Leads (o o' : Office υ) : Prop where
  owners : o.owners <+: o'.owners
  registries : o.layer.registries <+: o'.layer.registries
  history : o.history <+: o'.history
  sound : o.Sound → o'.Sound

/-! ## What lasts -/

namespace Office

variable {o o' : Office υ} {ref : SessionRef} {bus : BusRef}

/-- The bus of a session is the one of the registry that opened it. -/
theorem busOf?_eq_some : o.busOf? ref = some bus ↔
    ∃ registry parts, o.owners[ref]? = some registry ∧ o.layer.registries[registry]? = some parts
      ∧ parts.bus = bus := by
  simp [busOf?, Option.bind_eq_some_iff]

/-- What stands in a list stands in each list that it begins. -/
theorem getElem?_of_isPrefix {β : Type} {l l' : List β} (h : l <+: l') {i : Nat} {b : β}
    (hb : l[i]? = some b) : l'[i]? = some b := by
  obtain ⟨hi, rfl⟩ := List.getElem?_eq_some_iff.1 hb
  exact List.prefix_iff_getElem?.1 h i hi

/-- A session keeps its bus. -/
theorem busOf?_of_isPrefix (howners : o.owners <+: o'.owners)
    (hregistries : o.layer.registries <+: o'.layer.registries) (h : o.busOf? ref = some bus) :
    o'.busOf? ref = some bus := by
  obtain ⟨registry, parts, howner, hparts, hbus⟩ := busOf?_eq_some.1 h
  exact busOf?_eq_some.2 ⟨registry, parts, getElem?_of_isPrefix howners howner,
    getElem?_of_isPrefix hregistries hparts, hbus⟩

/-- What was promised holds for whatever is added later. -/
theorem Promised.of_isPrefix {start : Nat} {answer : Except Fault BusRef}
    (h : o.Promised ref start answer)
    (howners : o.owners <+: o'.owners) (hregistries : o.layer.registries <+: o'.layer.registries)
    (hhistory : o.history <+: o'.history) : o'.Promised ref start answer := by
  obtain ⟨bus, hbus, hstart, hused⟩ := h
  obtain ⟨more, hmore⟩ := hhistory
  refine ⟨bus, busOf?_of_isPrefix howners hregistries hbus, ?_, ?_⟩
  · rw [← hmore, List.length_append]
    exact Nat.le_add_right_of_le hstart
  · rwa [← hmore, List.take_append_of_le_length hstart]

namespace Leads

/-- An office leads to itself. -/
theorem refl (o : Office υ) : o.Leads o :=
  ⟨List.prefix_rfl, List.prefix_rfl, List.prefix_rfl, id⟩

/-- An office leads to where the next one leads. -/
theorem trans {o₁ o₂ : Office υ} (h : o.Leads o₁) (h' : o₁.Leads o₂) : o.Leads o₂ :=
  ⟨h.owners.trans h'.owners, h.registries.trans h'.registries, h.history.trans h'.history,
    fun hs => h'.sound (h.sound hs)⟩

/-- An office to which something is added. -/
theorem extend {more : List Event} (howners : o.owners <+: o'.owners)
    (hregistries : o.layer.registries <+: o'.layer.registries)
    (hhistory : o'.history = o.history ++ more)
    (hstands : o.Sound → Stands o'.layer (more.foldl Event.leaves (standing? o.history)))
    (howned : ∀ ref < o'.owners.length, ref < o.owners.length ∨ ∃ bus, o'.busOf? ref = some bus)
    (hhonest : Honest o'.busOf? more)
    (hpromised : ∀ ref start answer, .began ref start answer ∈ more → o'.Promised ref start answer) :
    o.Leads o' := by
  have hprefix : o.history <+: o'.history := ⟨more, hhistory.symm⟩
  refine ⟨howners, hregistries, hprefix, fun hs => ⟨?_, fun ref href => ?_, ?_, ?_⟩⟩
  · rw [hhistory, standing?_append]
    exact hstands hs
  · rcases howned ref href with hold | hnew
    · obtain ⟨bus, hbus⟩ := hs.owned ref hold
      exact ⟨bus, busOf?_of_isPrefix howners hregistries hbus⟩
    · exact hnew
  · rw [hhistory]
    exact (hs.honest.mono fun _ _ h => busOf?_of_isPrefix howners hregistries h).append hhonest
  · intro ref start answer hbegan
    rw [hhistory] at hbegan
    rcases List.mem_append.1 hbegan with hold | hnew
    · exact (hs.promised ref start answer hold).of_isPrefix howners hregistries hprefix
    · exact hpromised ref start answer hnew

end Leads

end Office

/-- An event that neither concerns the registry in place nor begins work. -/
def Event.Neutral : Event → Prop
  | busSet _ | made _ | dropped | began _ _ _ => False
  | _ => True

/-- A neutral event leaves what stands. -/
theorem Event.Neutral.leaves {e : Event} (h : e.Neutral) (standing : Option Standing) :
    e.leaves standing = standing := by
  cases e <;> first | rfl | cases h

/-- Neutral events, one after another, leave what stands. -/
theorem foldl_leaves_of_neutral {more : List Event} (h : ∀ e ∈ more, e.Neutral)
    (standing : Option Standing) : more.foldl Event.leaves standing = standing := by
  induction more with
  | nil => rfl
  | cons e rest ih =>
    obtain ⟨he, hrest⟩ := List.forall_mem_cons.1 h
    rw [List.foldl_cons, he.leaves, ih hrest]

namespace Office

variable {o o' : Office υ}

/-- Neutral events are added. -/
theorem Adds.leads {block : List Event} (h : o.Adds block o') (hneutral : ∀ e ∈ block, e.Neutral)
    (hhonest : Honest o.busOf? block) : o.Leads o' := by
  have hbusOf : o'.busOf? = o.busOf? := by
    funext ref
    rw [busOf?, busOf?, h.owners, h.layer]
  refine .extend (h.owners ▸ List.prefix_rfl) (h.layer ▸ List.prefix_rfl) h.history (fun hs => ?_)
    (fun ref href => .inl (h.owners ▸ href)) (hbusOf ▸ hhonest) fun _ _ _ hbegan => ?_
  · rw [h.layer, foldl_leaves_of_neutral hneutral]
    exact hs.stands
  · exact (hneutral _ hbegan).elim

/-- What concerns neither the data layer nor the sessions that were opened, and is not noted. -/
theorem leads_of_same (hlayer : o'.layer = o.layer) (howners : o'.owners = o.owners)
    (hhistory : o'.history = o.history) : o.Leads o' :=
  (Adds.nothing hlayer howners hhistory).leads nofun .nil

/-- Something is put in place, and what is noted about it tells so. -/
theorem leads_of_put {more : List Event} (howners : o'.owners = o.owners)
    (hregistries : o'.layer.registries = o.layer.registries) (hhistory : o'.history = o.history ++ more)
    (hmore : ∀ e ∈ more, e.Apart ∧ ∀ ref start answer, e ≠ .began ref start answer)
    (hstands : o.Sound → Stands o'.layer (more.foldl Event.leaves (standing? o.history))) :
    o.Leads o' :=
  .extend (howners ▸ List.prefix_rfl) (hregistries ▸ List.prefix_rfl) hhistory hstands
    (fun _ href => .inl (howners ▸ href)) (.of_apart fun e he => (hmore e he).1)
    fun _ _ _ hbegan => absurd rfl ((hmore _ hbegan).2 _ _ _)

end Office

namespace Scene

variable (T : Scene υ)

/-- The course of offices in a scene. -/
def course : Course Calls (Office υ) :=
  ⟨T.serve, Office.Leads, .refl, .trans⟩

/-! ## Using what was opened -/

variable {T} {F : T.course.Fact}

/-- Writing in the log keeps every fact. -/
theorem journal_keeps : T.journal.Keeps F := by
  intro level message fields o _
  obtain ⟨platform, hrun⟩ := T.run_write level message fields o
  show o.Leads ((T.journal.write level message fields).run T.serve o).2
  rw [hrun]
  exact Office.leads_of_same rfl rfl rfl

/-- Nothing but a publication is noted of a request. -/
theorem asking_keeps {request : Request} (h : ∀ bus message, request ≠ .publish bus message) :
    F.Keeps (asking request) := by
  refine .ask fun o _ => ?_
  change o.Leads (T.serve request o).2
  cases request with
  | publish bus message => exact absurd rfl (h bus message)
  | reserve ref =>
    rw [serve]
    split
    · exact .refl o
    · exact Office.leads_of_same rfl rfl rfl
  | consult question =>
    rw [serve]
    split <;> exact .refl o
  | rows text =>
    rw [serve]
    split <;> exact .refl o
  | _ => exact .refl o

/-- A session keeps the course once it has a bus. -/
theorem session_keeps {ref : SessionRef} (h : ∀ o, F.holds o → ∃ bus, o.busOf? ref = some bus) :
    (T.session ref).Keeps F where
  modify f := .change fun o _ => Office.leads_of_same rfl rfl rfl
  journal := journal_keeps
  reserve := asking_keeps nofun
  execute c statement := asking_keeps nofun
  release c := asking_keeps nofun
  handOver messages := by
    intro o ho
    obtain ⟨bus, hbus⟩ := h o ho
    obtain ⟨o', block, hrun, hadds, hall⟩ := T.run_handOver hbus messages
    show o.Leads (((T.session ref).handOver messages).run T.serve o).2
    rw [hrun]
    refine hadds.leads (List.forall_mem_cons.2 ⟨trivial, ?_⟩) ?_
    · exact hall.forall_mem (fun _ _ => trivial) (fun _ => nofun) fun _ => trivial
    · rw [← List.append_nil block]
      exact .handOver hbus hall .nil

end Scene

end UnitOfWork.InPlace
