import UnitOfWork.Proofs.Json.RoundTrip
import UnitOfWork.Proofs.Log.Lowest

/-!
# One line for each entry

What is written for an entry is one line, which is read as the entry: time, level and message,
overridden by the fields (`Call.oneLine`). So no message and no field can forge a second entry, and
each of the two streams, cut at its line feeds, is read as the entries that were written on it, in
order (`streams_read`).
-/

namespace UnitOfWork.Log

/-! ## Entries -/

namespace Call

variable {c : Call}

/-- Time, level and message of a call. -/
def own (c : Call) : Json.Members :=
  [("timestamp", .str (Time.stampOf c.now.truncate)), ("level", .str c.level),
    ("message", .str c.message)]

/-- The entry of a call. -/
def entry (c : Call) : Json.Members :=
  Log.entry (Time.stampOf c.now.truncate) c.level c.message c.fields

/-- The entry of a call as it is read: its zeros have no sign. -/
def entryRead (c : Call) : Json.Members :=
  Json.unsignedMembers c.entry

/-- The fields of a call can be read back. -/
def HasPlainFields (c : Call) : Prop :=
  (Json.obj c.fields).Plain

/-- The members that a line has of its own have different names. -/
theorem nodup_names_own (c : Call) : c.own.names.Nodup := by
  show ([Text.ofString "timestamp", Text.ofString "level", Text.ofString "message"] : List Text).Nodup
  decide

/-- Own members and the fields of a call, put together, have different names. -/
theorem nodup_names_putAll (c : Call) : (Json.Members.putAll c.own c.fields).names.Nodup :=
  Json.Members.nodup_names_putAll c.nodup_names_own

/-- The members of an entry have different names. -/
theorem nodup_names_entry (c : Call) : c.entry.names.Nodup :=
  ((Json.Members.ordered_perm _).map Prod.fst).nodup_iff.2 c.nodup_names_putAll

/-- The fields override time, level and message. -/
theorem get?_entry (h : c.fields.names.Nodup) (name : Text) :
    c.entry.get? name = (c.fields.get? name).or (c.own.get? name) :=
  (Json.Members.get?_eq_of_perm (Json.Members.ordered_perm _) c.nodup_names_entry).trans
    (Json.Members.get?_putAll h c.own)

/-- An entry with plain fields is plain. -/
theorem plain_entry (h : c.HasPlainFields) : (Json.obj c.entry).Plain := by
  cases h with
  | obj _ _ hfields =>
    have hown : ∀ m ∈ c.own, Json.Plain m.2 := by
      simp only [own, List.forall_mem_cons]
      exact ⟨.str _, .str _, .str _, nofun⟩
    refine .obj c.nodup_names_entry (Json.Members.inOrder_ordered c.nodup_names_putAll) fun m hm => ?_
    exact Json.Members.forall_mem_putAll hown hfields m ((Json.Members.ordered_perm _).mem_iff.1 hm)

/-- One line for a call, and what is read from it. -/
structure OneLine (c : Call) : Prop where
  /-- There is one line feed, at the end, and what stands before it is read as the entry. -/
  line : ∃ t, c.line.text = t ++ [0x0A] ∧ 0x0A ∉ t ∧ Json.parse? t = some (.obj c.entryRead)
  names : c.entryRead.names.Nodup
  /-- The entry is time, level and message, overridden by the fields. -/
  members : ∀ name, c.entryRead.get? name = ((c.fields.get? name).or (c.own.get? name)).map Json.unsigned
  /-- The level that is read decides on the stream. -/
  stream : c.line.toErrorStream = true ↔ c.entryRead.get? "level" = some (.str Level.error.name)

/-- A line goes to the error stream if its entry is read back with the level of an error. -/
theorem toErrorStream_iff (c : Call) :
    c.line.toErrorStream = true ↔ c.entryRead.get? "level" = some (.str Level.error.name) := by
  rw [entryRead, Json.get?_unsignedMembers]
  show LogLine.toErrorStream (.entry c.entry) = true ↔ _
  rw [LogLine.toErrorStream]
  cases c.entry.get? "level" with
  | none => simp
  | some v => cases v <;> simp [Json.unsigned]

/-- An entry with plain fields is one line, which is read back. -/
theorem oneLine (h : c.HasPlainFields) : c.OneLine := by
  have hplain := plain_entry h
  constructor
  case line => exact ⟨Json.print (.obj c.entry), rfl, (Json.shown_print _).not_mem, hplain.parse?_print⟩
  case names =>
    rw [entryRead, Json.names_unsignedMembers]
    exact c.nodup_names_entry
  case members =>
    intro name
    cases h with
    | obj hnames _ _ => rw [entryRead, Json.get?_unsignedMembers, get?_entry hnames]
  case stream => exact c.toErrorStream_iff

end Call

/-! ## Streams -/

/-- What was written on one of the two streams. -/
def stream (log : Log) (errors : Bool) : Text :=
  (log.lines.filter (·.toErrorStream = errors)).flatMap LogLine.text

/-- The values on the lines of a text, if every line is ended and writes one. -/
def readLines? (t : Text) : Option (List Json) :=
  let lines := t.splitOn 0x0A
  if lines.getLast? = some [] then lines.dropLast.mapM Json.parse? else none

/-- Texts that were ended by line feeds are cut there again. -/
theorem splitOn_flatMap {ts : List Text} (h : ∀ t ∈ ts, (0x0A : UInt16) ∉ t) :
    (ts.flatMap (· ++ [0x0A])).splitOn 0x0A = ts ++ [[]] := by
  induction ts with
  | nil => rfl
  | cons t ts ih =>
    obtain ⟨ht, hts⟩ := List.forall_mem_cons.1 h
    have hne : ∀ u ∈ t, (u == 0x0A) = false := fun u hu => beq_false_of_ne fun heq => ht (heq ▸ hu)
    rw [List.flatMap_cons, List.append_assoc, List.singleton_append, List.splitOn,
      List.splitOnP_append_cons_of_forall_mem hne _ (beq_self_eq_true _), List.cons_append,
        ← ih hts, List.splitOn]

/-- Lines that write values are read as those values. -/
theorem readLines?_flatMap {α : Type} {as : List α} {line : α → Text} {value : α → Json}
    (hline : ∀ a ∈ as, (0x0A : UInt16) ∉ line a)
    (hvalue : ∀ a ∈ as, Json.parse? (line a) = some (value a)) :
    readLines? (as.flatMap fun a => line a ++ [0x0A]) = some (as.map value) := by
  have hlines : ∀ t ∈ as.map line, (0x0A : UInt16) ∉ t := List.forall_mem_map.2 hline
  have hsplit := splitOn_flatMap hlines
  have hread : (as.map line).mapM Json.parse? = some (as.map value) := by
    clear hsplit hlines hline
    induction as with
    | nil => rfl
    | cons a as ih =>
      obtain ⟨ha, has⟩ := List.forall_mem_cons.1 hvalue
      rw [List.map_cons, List.mapM_cons, ha, ih has]
      rfl
  rw [List.flatMap_map] at hsplit
  rw [readLines?, hsplit]
  simp only [List.getLast?_concat, List.dropLast_concat, if_true, hread]

/-- The calls whose entries are written. -/
def written (lowest : Text) (calls : List Call) : List Call :=
  calls.filter fun c => ({ lowest } : Log).writes c.level

/-- A stream is read back line by line. -/
theorem readLines?_stream {calls : List Call} (hplain : ∀ c ∈ calls, c.HasPlainFields) (lowest : Text)
    (errors : Bool) : readLines? (stream { lowest, lines := calls.map Call.line } errors)
      = some ((calls.filter fun c => c.line.toErrorStream = errors).map fun c => .obj c.entryRead) := by
  have hstream : stream { lowest, lines := calls.map Call.line } errors
      = (calls.filter fun c => c.line.toErrorStream = errors).flatMap fun c =>
        Json.print (.obj c.entry) ++ [0x0A] := by
    rw [stream, List.filter_map, List.flatMap_map]
    rfl
  rw [hstream]
  exact readLines?_flatMap (fun c _ => (Json.shown_print _).not_mem) fun c hc =>
    (Call.plain_entry (hplain c (List.mem_of_mem_filter hc))).parse?_print

/-- Every entry is one line, and each stream is read as the entries that were written on it, in
order. -/
theorem streams_read {calls : List Call} (hdated : ∀ c ∈ calls, c.now.hasDate = true)
    (hplain : ∀ c ∈ calls, c.HasPlainFields) (lowest : Text) :
    (∀ c ∈ calls, c.OneLine) ∧ ∃ log, ({ lowest } : Log).writeAll calls = .ok log
      ∧ log.lines = (written lowest calls).map Call.line
      ∧ ∀ errors, readLines? (log.stream errors)
          = some (((written lowest calls).filter fun c => c.line.toErrorStream = errors).map
              fun c => .obj c.entryRead) :=
  ⟨fun c hc => Call.oneLine (hplain c hc), _, writeAll_eq hdated _, rfl,
    readLines?_stream (fun c hc => hplain c (List.mem_of_mem_filter hc)) lowest⟩

/-- A call whose message looks like the end of its line and another entry, and whose fields make an
error of it. -/
def forging : Call :=
  ⟨0, "info", "done\"\x7d\n\x7b\"level\":\"info\"\x7d",
    [("7", .arr [.null, .bool true, .num .negativeZero]), ("level", .str "error"),
      ("sizes", .obj [("b", .num 12)])]⟩

/-- A call with a surrogate that stands alone. -/
def alone : Call :=
  ⟨0, "info", [0xD800], []⟩

/-- Each of them is one line, on a stream of its own. -/
theorem streams_read_forging :
    (∀ c ∈ [forging, alone], c.now.hasDate = true) ∧ (∀ c ∈ [forging, alone], c.HasPlainFields)
      ∧ ∃ log, ({ lowest := "info" } : Log).writeAll [forging, alone] = .ok log
        ∧ readLines? (log.stream true) = some [.obj forging.entryRead]
        ∧ readLines? (log.stream false) = some [.obj alone.entryRead] := by
  have hdated : ∀ c ∈ [forging, alone], c.now.hasDate = true := by decide
  have hplain : ∀ c ∈ [forging, alone], c.HasPlainFields := by
    have htwelve : (12 : Number).IsFinite := Number.isFinite_ofNat (n := 12) (by decide)
    refine List.forall_mem_cons.2 ⟨.obj (by decide) (by decide) ?_, List.forall_mem_singleton.2
      (.obj .nil .nil nofun)⟩
    refine List.forall_mem_cons.2 ⟨.arr ?_,
      List.forall_mem_cons.2 ⟨.str _, List.forall_mem_singleton.2 ?_⟩⟩
    · exact List.forall_mem_cons.2 ⟨.null, List.forall_mem_cons.2 ⟨.bool true, List.forall_mem_singleton.2
        (.num trivial)⟩⟩
    · exact .obj (by decide) (by decide) (List.forall_mem_singleton.2 (.num htwelve))
  obtain ⟨-, log, hlog, -, hread⟩ := streams_read hdated hplain "info"
  exact ⟨hdated, hplain, log, hlog, hread true, hread false⟩

end UnitOfWork.Log
