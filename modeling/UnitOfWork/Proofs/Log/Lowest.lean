import UnitOfWork.Log

/-!
# The lowest level of a log

The lowest level that a log starts with comes from outside, as any text. `errors_heard_iff` says for
which texts it is one of the four levels and every later error is written: for all but the reserved
names, which are in the table of ranks although they are no levels. A log that starts with one of
those is mute.
-/

namespace UnitOfWork

/-! ## Names and ranks -/

/-- A level is found by its name only. -/
theorem Level.eq_name_of_ofName? {name : Text} {level : Level} (h : Level.ofName? name = some level) :
    name = level.name := by
  have hname := List.find?_some h
  exact (of_decide_eq_true hname).symm

namespace Rank

/-- The names that are in the table of ranks although they are no levels. -/
def reservedNames : List Text :=
  renamed.map (·.1) ++ reserved

/-- The name of a level is ranked by its place. -/
theorem of?_name (level : Level) : of? level.name = some (.place level.rank) := by
  cases level <;> decide +kernel

/-- A reserved name is no level. -/
theorem ne_name_of_mem {name : Text} (h : name ∈ reservedNames) (level : Level) :
    level.name ≠ name := by
  have hall : ∀ level ∈ Level.all, ∀ name ∈ reservedNames, level.name ≠ name := by decide +kernel
  exact hall level (by cases level <;> decide) name h

/-- A reserved name is ranked by a word. -/
theorem of?_of_mem {name : Text} (h : name ∈ reservedNames) : ∃ word, of? name = some (.word word) := by
  unfold of?
  cases hlevel : Level.ofName? name with
  | some level => exact absurd (Level.eq_name_of_ofName? hlevel).symm (ne_name_of_mem h level)
  | none =>
    cases hrenamed : renamed.find? (·.1 = name) with
    | some entry => exact ⟨entry.2, rfl⟩
    | none =>
      refine ⟨name, if_pos (List.contains_iff_mem.2 ?_)⟩
      refine (List.mem_append.1 h).resolve_left fun hmem => ?_
      obtain ⟨entry, hentry, rfl⟩ := List.mem_map.1 hmem
      exact List.find?_eq_none.1 hrenamed entry hentry (decide_eq_true rfl)

/-- The table of ranks holds the four levels and the reserved names. -/
theorem isSome_of?_iff {name : Text} :
    (of? name).isSome = true ↔ (∃ level : Level, name = level.name) ∨ name ∈ reservedNames := by
  constructor
  · intro hsome
    unfold of? at hsome
    cases hlevel : Level.ofName? name with
    | some level => exact .inl ⟨level, Level.eq_name_of_ofName? hlevel⟩
    | none =>
      rw [hlevel] at hsome
      refine .inr (List.mem_append.2 ?_)
      cases hrenamed : renamed.find? (·.1 = name) with
      | some entry =>
        have hname := List.find?_some hrenamed
        obtain rfl : entry.1 = name := of_decide_eq_true hname
        exact .inl (List.mem_map_of_mem (List.mem_of_find?_eq_some hrenamed))
      | none =>
        rw [hrenamed] at hsome
        by_cases hmem : reserved.contains name = true
        · exact .inr (List.contains_iff_mem.1 hmem)
        · simp only [hmem] at hsome
          cases hsome
  · rintro (⟨level, rfl⟩ | hmem)
    · rw [of?_name]
      rfl
    · obtain ⟨word, hword⟩ := of?_of_mem hmem
      rw [hword]
      rfl

end Rank

namespace Log

/-! ## Calls for entries -/

/-- A call for an entry. -/
structure Call where
  now : Time
  level : Text
  message : Text
  fields : Json.Members

/-- What a call writes, if anything. -/
def Call.line (c : Call) : LogLine :=
  .entry (entry (Time.stampOf c.now.truncate) c.level c.message c.fields)

/-- Carries a call out. -/
def Call.writeIn (c : Call) (log : Log) : Except Fault Log :=
  log.writeAs c.now c.level c.message c.fields

/-- Carries calls out, one after another. -/
def writeAll (calls : List Call) (log : Log) : Except Fault Log :=
  calls.foldlM (fun log c => c.writeIn log) log

/-- A call at a moment that has a date writes its line, or nothing. -/
theorem writeIn_of_hasDate {c : Call} (h : c.now.hasDate = true) (log : Log) :
    c.writeIn log
      = .ok (if log.writes c.level then { log with lines := log.lines ++ [c.line] } else log) := by
  unfold Call.writeIn writeAs
  split
  · rw [Time.stamp?, if_pos h]
    rfl
  · rfl

/-- The lowest level stays as it is, and every call of a level that is written writes its line. -/
theorem writeAll_eq {calls : List Call} (h : ∀ c ∈ calls, c.now.hasDate = true) (log : Log) :
    log.writeAll calls
      = .ok { log with
          lines := log.lines ++ (calls.filter fun c => log.writes c.level).map Call.line } := by
  induction calls generalizing log with
  | nil => simp [writeAll, pure, Except.pure]
  | cons c calls ih =>
    obtain ⟨hc, hcalls⟩ := List.forall_mem_cons.1 h
    have hstep : log.writeAll (c :: calls)
        = writeAll calls (if log.writes c.level then { log with lines := log.lines ++ [c.line] }
            else log) := by
      rw [writeAll, List.foldlM_cons, writeIn_of_hasDate hc]
      rfl
    rw [hstep]
    cases hwrites : log.writes c.level with
    | true =>
      rw [if_pos rfl, ih hcalls, List.filter_cons, if_pos hwrites, List.map_cons, List.append_assoc,
        List.singleton_append]
      rfl
    | false =>
      rw [if_neg Bool.false_ne_true, ih hcalls, List.filter_cons, hwrites, if_neg Bool.false_ne_true]

/-! ## Where errors are heard -/

/-- The log that a process starts with. -/
def starting (wanted : Option Text) : Log :=
  { lowest := initialLowest wanted }

/-- The lowest level at the start is one of the four, the one asked for if that is one and `info`
otherwise; and an error is written whenever it is called for. -/
structure ErrorsHeard (wanted : Option Text) : Prop where
  lowest : ∃ level : Level, (starting wanted).lowest = level.name
    ∧ (wanted = some level.name ∨ level = .info ∧ ∀ other : Level, wanted ≠ some other.name)
  errors : ∀ (calls : List Call) (c : Call), (∀ d ∈ calls ++ [c], d.now.hasDate = true) →
    c.level = Level.error.name → ∃ log, (starting wanted).writeAll calls = .ok log
      ∧ (starting wanted).writeAll (calls ++ [c]) = .ok { log with lines := log.lines ++ [c.line] }

/-- A log whose lowest level has a name of a level writes that level and those above. -/
theorem writes_of_levels {log : Log} {lowest : Level} (h : log.lowest = lowest.name) (level : Level) :
    log.writes level.name = decide (lowest.rank ≤ level.rank) := by
  simp only [writes, h, Rank.of?_name, Rank.atLeast]

/-- A log whose lowest level is a reserved name writes nothing of the four levels. -/
theorem writes_of_reserved {log : Log} (h : log.lowest ∈ Rank.reservedNames) (level : Level) :
    log.writes level.name = false := by
  obtain ⟨word, hword⟩ := Rank.of?_of_mem h
  simp only [writes, hword, Rank.of?_name, Rank.atLeast]

/-- A log that is to start with a reserved name takes it for its lowest level. -/
theorem lowest_of_reserved {name : Text} (h : name ∈ Rank.reservedNames) :
    (starting (some name)).lowest = name :=
  if_pos (Rank.isSome_of?_iff.2 (.inr h))

/-- A log that starts with a reserved name stays empty. -/
theorem writeAll_of_reserved {name : Text} (h : name ∈ Rank.reservedNames) {calls : List Call}
    (hcalls : ∀ c ∈ calls, c.now.hasDate = true ∧ ∃ level : Level, c.level = level.name) :
    (starting (some name)).writeAll calls = .ok (starting (some name)) := by
  have hlowest : (starting (some name)).lowest ∈ Rank.reservedNames := by
    rw [lowest_of_reserved h]
    exact h
  have hnone : ∀ c ∈ calls, ¬ (starting (some name)).writes c.level = true := by
    intro c hc
    obtain ⟨level, hlevel⟩ := (hcalls c hc).2
    rw [hlevel, writes_of_reserved hlowest]
    exact Bool.false_ne_true
  rw [writeAll_eq fun c hc => (hcalls c hc).1, List.filter_eq_nil_iff.2 hnone]
  rfl

/-- Where no reserved name is asked for, the lowest level is a level. -/
theorem exists_lowest {wanted : Option Text}
    (h : ∀ name, wanted = some name → name ∉ Rank.reservedNames) :
    ∃ level : Level, (starting wanted).lowest = level.name
      ∧ (wanted = some level.name ∨ level = .info ∧ ∀ other : Level, wanted ≠ some other.name) := by
  cases wanted with
  | none => exact ⟨.info, rfl, .inr ⟨rfl, nofun⟩⟩
  | some name =>
    by_cases hlevel : isLevel name = true
    · obtain ⟨level, rfl⟩ := (Rank.isSome_of?_iff.1 hlevel).resolve_right (h name rfl)
      exact ⟨level, if_pos hlevel, .inl rfl⟩
    · refine ⟨.info, if_neg hlevel, .inr ⟨rfl, fun other hother => hlevel ?_⟩⟩
      obtain rfl := Option.some.inj hother
      exact Rank.isSome_of?_iff.2 (.inl ⟨other, rfl⟩)

/-- Nothing asked for mutes errors but the reserved names, and each of those mutes everything. -/
theorem errors_heard_iff (wanted : Option Text) :
    (ErrorsHeard wanted ↔ ∀ name, wanted = some name → name ∉ Rank.reservedNames)
      ∧ ∀ name ∈ Rank.reservedNames, wanted = some name →
          ∀ calls : List Call,
            (∀ c ∈ calls, c.now.hasDate = true ∧ ∃ level : Level, c.level = level.name) →
            (starting wanted).writeAll calls = .ok (starting wanted) := by
  constructor
  · constructor
    · rintro ⟨⟨level, hlowest, -⟩, -⟩ name rfl hname
      exact Rank.ne_name_of_mem hname level (hlowest.symm.trans (lowest_of_reserved hname))
    · intro hwanted
      obtain ⟨lowest, hlowest, hfrom⟩ := exists_lowest hwanted
      refine ⟨⟨lowest, hlowest, hfrom⟩, fun calls c hdated hc => ⟨_, writeAll_eq (fun d hd =>
        hdated d (List.mem_append_left _ hd)) _, ?_⟩⟩
      have hwrites : (starting wanted).writes c.level = true := by
        rw [hc, writes_of_levels hlowest]
        cases lowest <;> rfl
      rw [writeAll_eq hdated, List.filter_append, List.filter_cons, if_pos hwrites, List.filter_nil,
        List.map_append, List.map_singleton, List.append_assoc]
  · rintro name hname rfl calls hcalls
    exact writeAll_of_reserved hname hcalls

/-- Asked for `toString`, a log takes that for its lowest level and writes no error. -/
theorem errors_muted_by_toString :
    ∃ (wanted : Option Text) (c : Call), wanted = some ("toString" : Text) ∧ c.now.hasDate = true
      ∧ c.level = Level.error.name ∧ (starting wanted).lowest = "toString"
      ∧ (starting wanted).writeAll [c] = .ok (starting wanted) ∧ ¬ ErrorsHeard wanted := by
  have hname : ("toString" : Text) ∈ Rank.reservedNames := by decide +kernel
  have hdate : (0 : Time).hasDate = true := by decide
  have hcalls : ∀ c ∈ [(⟨0, Level.error.name, [], []⟩ : Call)], c.now.hasDate = true
      ∧ ∃ level : Level, c.level = level.name :=
    List.forall_mem_singleton.2 ⟨hdate, .error, rfl⟩
  refine ⟨some "toString", ⟨0, Level.error.name, [], []⟩, rfl, hdate, rfl, lowest_of_reserved hname,
    writeAll_of_reserved hname hcalls, fun h => ?_⟩
  obtain ⟨level, hlowest, -⟩ := h.lowest
  exact Rank.ne_name_of_mem hname level (hlowest.symm.trans (lowest_of_reserved hname))

end Log

end UnitOfWork
