import UnitOfWork.Proofs.Json.Numerals
import UnitOfWork.Proofs.Json.Order
import UnitOfWork.Proofs.Json.Texts

/-!
# Reading what was written

A value of null, truth values, finite numbers, texts, lists and objects is read as it was written,
its zeros without a sign (`Plain.parse?_print`): every part is read up to its end and no further,
whatever follows it. No value is written with a control character (`shown_print`).
-/

namespace UnitOfWork

namespace Json

/-! ## Values that can be read back -/

/-- A value whose numbers are finite and whose objects have members with names of their own, in the
order in which they are written. -/
inductive Plain : Json → Prop
  | null : Plain null
  | bool (b : Bool) : Plain (bool b)
  | num {x : Number} (h : x.IsFinite) : Plain (num x)
  | str (t : Text) : Plain (str t)
  | arr {items : List Json} (h : ∀ v ∈ items, Plain v) : Plain (arr items)
  | obj {members : Members} (hnames : members.names.Nodup) (horder : members.InOrder)
      (h : ∀ m ∈ members, Plain m.2) : Plain (obj members)

mutual

/-- A value whose zeros have no sign. -/
def unsigned : Json → Json
  | num x => num x.unsigned
  | arr items => arr (unsignedItems items)
  | obj members => obj (unsignedMembers members)
  | v => v

/-- Items whose zeros have no sign. -/
def unsignedItems : List Json → List Json
  | [] => []
  | v :: items => unsigned v :: unsignedItems items

/-- Members whose zeros have no sign. -/
def unsignedMembers : Members → Members
  | [] => []
  | (name, v) :: members => (name, unsigned v) :: unsignedMembers members

end

/-- Dropping the signs of zeros leaves the names. -/
theorem names_unsignedMembers (members : Members) : (unsignedMembers members).names = members.names := by
  induction members with
  | nil => rfl
  | cons m members ih =>
    rw [unsignedMembers]
    exact congrArg (m.1 :: ·) ih

/-- Dropping the signs of zeros goes member by member. -/
theorem get?_unsignedMembers (name : Text) (members : Members) :
    (unsignedMembers members).get? name = (members.get? name).map unsigned := by
  induction members with
  | nil => rfl
  | cons m members ih =>
    rw [unsignedMembers, Members.get?, Members.get?, ih]
    split
    next => rfl
    next => rfl

/-! ## Reading with something after it -/

/-- A value is read from the text that is written for it, and what follows is left, unless a numeral
goes on into it. Twice the length of the text is depth enough. -/
def ReadsBack (v : Json) : Prop :=
  ∀ n rest, 2 * (print v).length < n → EndsNumeral rest
    → value? n (print v ++ rest) = some (v.unsigned, rest)

/-- It is enough to read a value back with one step of fuel to spare. -/
theorem readsBack_of_succ {v : Json} (h : ∀ n rest, 2 * (print v).length ≤ n → EndsNumeral rest →
    value? (n + 1) (print v ++ rest) = some (v.unsigned, rest)) : ReadsBack v
  | 0, _, hn, _ => absurd hn (Nat.not_lt_zero _)
  | n + 1, rest, hn, hrest => h n rest (Nat.le_of_lt_succ hn) hrest

/-- A numeral ends at a unit that goes on no numeral. -/
theorem endsNumeral_cons {u : UInt16} (t : Text) (h : Text.isDigit u = false ∧ u ≠ Text.unit '.'
    ∧ u ≠ Text.unit 'e' ∧ u ≠ Text.unit 'E') : EndsNumeral (u :: t) := by
  rintro _ ⟨⟩
  exact h

/-- No space is skipped where there is none. -/
theorem skipSpace_cons {u : UInt16} {t : Text} (h : isSpace u = false) : skipSpace (u :: t) = u :: t := by
  rw [skipSpace, List.dropWhile_cons, h, if_neg Bool.false_ne_true]

/-- Null is read back. -/
theorem readsBack_null : ReadsBack null :=
  readsBack_of_succ fun _ _ _ _ => rfl

/-- A truth value is read back. -/
theorem readsBack_bool (b : Bool) : ReadsBack (bool b) :=
  readsBack_of_succ fun _ _ _ _ => by cases b <;> rfl

/-- A text is read back. -/
theorem readsBack_str (t : Text) : ReadsBack (str t) := by
  refine readsBack_of_succ fun n rest _ _ => ?_
  have hprint : print (str t) ++ rest = Text.unit '"' :: (escaped t ++ Text.unit '"' :: rest) := by
    rw [print, quoted, List.append_assoc, List.append_assoc]
    rfl
  rw [hprint, value?, skipSpace_cons (by decide)]
  dsimp only
  rw [if_pos rfl, closeText?_escaped]
  rfl

/-! ## Numbers -/

/-- What begins a numeral begins nothing else. -/
def BeginsNumeral (u : UInt16) : Prop :=
  Text.isDigit u = true ∨ u = Text.unit '-'

/-- What begins a numeral is a digit or the minus sign, and nothing else. -/
theorem BeginsNumeral.ne {u v : UInt16} (h : BeginsNumeral u) (hv : Text.isDigit v = false)
    (hminus : Text.unit '-' ≠ v) : u ≠ v := by
  rcases h with hdigit | rfl
  · exact Text.ne_of_isDigit hdigit hv
  · exact hminus

/-- What begins a numeral is no space. -/
theorem BeginsNumeral.isSpace {u : UInt16} (h : BeginsNumeral u) : isSpace u = false := by
  have hne {v : UInt16} (hv : Text.isDigit v = false) (hminus : Text.unit '-' ≠ v) :
      decide (u = v) = false :=
    decide_eq_false (h.ne hv hminus)
  rw [Json.isSpace, hne (by decide) (by decide), hne (by decide) (by decide), hne (by decide) (by decide),
    hne (by decide) (by decide)]
  rfl

/-- Whatever is read as a numeral begins like one. -/
theorem exists_beginsNumeral {t : Text} {r : Number × Text} (h : numeral? t = some r) :
    ∃ u t', t = u :: t' ∧ BeginsNumeral u := by
  cases t with
  | nil => cases h
  | cons u t =>
    refine ⟨u, t, rfl, or_iff_not_imp_right.2 fun hminus => Bool.eq_true_of_not_eq_false fun hdigit => ?_⟩
    have hread := numeral?_minus false hminus t
    have hdigits : digits1? (u :: t) = none := by
      have hspan : ([] ++ u :: t).span Text.isDigit = ([], u :: t) :=
        Text.span_isDigit_append nofun (endsDigits_cons hdigit)
      rw [digits1?, Numeral.digits, ← List.nil_append (u :: t), hspan]
      rfl
    rw [hdigits, Option.bind_none] at hread
    exact Option.some_ne_none r (h.symm.trans hread)

/-- What begins like a numeral is read as one. -/
theorem value?_numeral {u : UInt16} (hu : BeginsNumeral u) (n : Nat) (t : Text) :
    value? (n + 1) (u :: t) = (numeral? (u :: t)).map fun (x, rest) => (num x, rest) := by
  have hliteral {v : UInt16} {vs : Text} (hv : Text.isDigit v = false) (hminus : Text.unit '-' ≠ v) :
      Text.dropBeginning? (v :: vs) (u :: t) = none :=
    if_neg (hu.ne hv hminus).symm
  have hnull : Text.dropBeginning? "null" (u :: t) = none := hliteral (by decide) (by decide)
  have htrue : Text.dropBeginning? "true" (u :: t) = none := hliteral (by decide) (by decide)
  have hfalse : Text.dropBeginning? "false" (u :: t) = none := hliteral (by decide) (by decide)
  rw [value?, skipSpace_cons hu.isSpace]
  dsimp only
  rw [if_neg (hu.ne (by decide) (by decide)), if_neg (hu.ne (by decide) (by decide)),
    if_neg (hu.ne (by decide) (by decide))]
  rw [hnull, htrue, hfalse]

/-- A finite number is printed as its text. -/
theorem print_num {x : Number} (h : x.IsFinite) : print (num x) = x.text := by
  cases x with
  | nan | infinite => cases h
  | negativeZero | finite => rfl

/-- A finite number is read back. -/
theorem readsBack_num {x : Number} (h : x.IsFinite) : ReadsBack (num x) := by
  refine readsBack_of_succ fun n rest _ hrest => ?_
  have hread := numeral?_text h hrest
  obtain ⟨u, t, ht, hu⟩ := exists_beginsNumeral hread
  rw [print_num h, ht, value?_numeral hu, ← ht, hread]
  rfl

/-! ## Lists and objects -/

/-- A plain value is printed with a unit in front that is no space and closes no list. -/
theorem exists_begins {v : Json} (h : Plain v) :
    ∃ u t, print v = u :: t ∧ isSpace u = false ∧ u ≠ Text.unit ']' := by
  cases h with
  | null => exact ⟨Text.unit 'n', _, rfl, rfl, by decide⟩
  | bool b =>
    cases b
    · exact ⟨Text.unit 'f', _, rfl, rfl, by decide⟩
    · exact ⟨Text.unit 't', _, rfl, rfl, by decide⟩
  | @num x h =>
    have hread : numeral? (x.text ++ []) = some (x.unsigned, []) := numeral?_text h nofun
    obtain ⟨u, t, ht, hu⟩ := exists_beginsNumeral hread
    rw [List.append_nil] at ht
    exact ⟨u, t, (print_num h).trans ht, hu.isSpace, hu.ne (by decide) (by decide)⟩
  | str t => exact ⟨Text.unit '"', _, rfl, rfl, by decide⟩
  | arr => exact ⟨Text.unit '[', _, rfl, rfl, by decide⟩
  | obj => exact ⟨Text.unit '\x7b', _, rfl, rfl, by decide⟩

/-- A text is joined to those behind it by a comma. -/
theorem join_cons (t : Text) {ts : List Text} (h : ts ≠ []) :
    Text.join "," (t :: ts) = t ++ Text.unit ',' :: Text.join "," ts := by
  obtain ⟨t', ts, rfl⟩ := List.exists_cons_of_ne_nil h
  rw [Text.join, List.intercalate_cons_cons, List.append_assoc]
  rfl

/-- Joined texts begin as the first of them does. -/
theorem exists_join_cons (u : UInt16) (t : Text) (ts : List Text) :
    ∃ t', Text.join "," ((u :: t) :: ts) = u :: t' := by
  rcases eq_or_ne ts [] with rfl | h
  · exact ⟨t, List.intercalate_singleton⟩
  · exact ⟨_, join_cons (u :: t) h⟩

/-- Items print some texts. -/
theorem printItems_ne_nil {items : List Json} (h : items ≠ []) : printItems items ≠ [] := by
  obtain ⟨v, items, rfl⟩ := List.exists_cons_of_ne_nil h
  exact List.cons_ne_nil _ _

/-- The items of a list are read up to its closing bracket. -/
theorem items?_print {items : List Json} (hne : items ≠ []) (h : ∀ v ∈ items, ReadsBack v) (n : Nat)
    (rest : Text)
    (hn : 2 * (Text.join "," (printItems items)).length + 1 < n) :
    items? n (Text.join "," (printItems items) ++ Text.unit ']' :: rest)
      = some (unsignedItems items, rest) := by
  induction items generalizing n with
  | nil => exact absurd rfl hne
  | cons v items ih =>
    obtain ⟨hv, hitems⟩ := List.forall_mem_cons.1 h
    obtain _ | n := n
    · cases hn
    -- An item takes one from the depth, and a comma with it one from the text.
    rcases eq_or_ne items [] with rfl | hmore
    · have hjoin : Text.join "," (printItems [v]) = print v := List.intercalate_singleton
      rw [hjoin] at hn ⊢
      rw [items?, hv n _ (by omega) (endsNumeral_cons _ (by decide)), Option.bind_some]
      dsimp only
      rw [skipSpace_cons (by decide)]
      rfl
    · rw [printItems, join_cons _ (printItems_ne_nil hmore)] at hn ⊢
      rw [List.length_append, List.length_cons] at hn
      rw [List.append_assoc, List.cons_append, items?, hv n _ (by omega) (endsNumeral_cons _ (by decide)),
        Option.bind_some]
      dsimp only
      rw [skipSpace_cons (by decide)]
      dsimp only
      rw [if_neg (by decide), if_pos rfl, ih hmore hitems n (by omega)]
      rfl

/-- Members print some texts. -/
theorem printMembers_ne_nil {members : Members} (h : members ≠ []) : printMembers members ≠ [] := by
  obtain ⟨m, members, rfl⟩ := List.exists_cons_of_ne_nil h
  exact List.cons_ne_nil _ _

/-- One member is read up to what ends it. -/
theorem members?_cons {v : Json} (hv : ReadsBack v) (name : Text) {n : Nat}
    (hn : 2 * (print v).length < n)
    {u : UInt16} (hu : u = Text.unit ',' ∨ u = Text.unit '\x7d') (rest : Text) :
    members? (n + 1) (quoted name ++ ":" ++ print v ++ u :: rest)
      = if u = Text.unit '\x7d' then some ([(name, v.unsigned)], rest)
        else (members? n rest).map fun (members, rest) => ((name, v.unsigned) :: members, rest) := by
  have hquoted : quoted name ++ ":" ++ print v ++ u :: rest
      = Text.unit '"' :: (escaped name ++ Text.unit '"' :: Text.unit ':' :: (print v ++ u :: rest)) := by
    simp only [quoted, List.append_assoc]
    rfl
  obtain ⟨hends, hspace⟩ : EndsNumeral (u :: rest) ∧ isSpace u = false := by
    rcases hu with rfl | rfl
    · exact ⟨endsNumeral_cons _ (by decide), rfl⟩
    · exact ⟨endsNumeral_cons _ (by decide), rfl⟩
  rw [hquoted, members?, skipSpace_cons (by decide)]
  dsimp only
  rw [if_neg (by decide), closeText?_escaped, Option.bind_some]
  dsimp only
  rw [skipSpace_cons (by decide)]
  dsimp only
  rw [if_neg (by decide), hv n _ hn hends, Option.bind_some]
  dsimp only
  rw [skipSpace_cons hspace]
  rcases hu with rfl | rfl
  · rfl
  · rfl

/-- The members of an object are read up to its closing brace. -/
theorem members?_print {members : Members} (hne : members ≠ []) (h : ∀ m ∈ members, ReadsBack m.2)
    (n : Nat)
    (rest : Text) (hn : 2 * (Text.join "," (printMembers members)).length + 1 < n) :
    members? n (Text.join "," (printMembers members) ++ Text.unit '\x7d' :: rest)
      = some (unsignedMembers members, rest) := by
  induction members generalizing n with
  | nil => exact absurd rfl hne
  | cons m members ih =>
    obtain ⟨hm, hmembers⟩ := List.forall_mem_cons.1 h
    obtain _ | n := n
    · cases hn
    have hlength : (quoted m.1 ++ ":" ++ print m.2).length
      = (quoted m.1 ++ ":").length + (print m.2).length :=
      List.length_append
    rcases eq_or_ne members [] with rfl | hmore
    · have hjoin : Text.join "," (printMembers [m]) = quoted m.1 ++ ":" ++ print m.2 :=
        List.intercalate_singleton
      rw [hjoin] at hn ⊢
      rw [members?_cons hm m.1 (by omega) (.inr rfl), if_pos rfl]
      rfl
    · rw [printMembers, join_cons _ (printMembers_ne_nil hmore)] at hn ⊢
      rw [List.length_append, List.length_cons] at hn
      rw [List.append_assoc _ (_ :: _), List.cons_append, members?_cons hm m.1 (by omega) (.inl rfl),
        if_neg (by decide), ih hmore hmembers n (by omega)]
      rfl

/-- Different names in order make the object of these members. -/
theorem ofMembers_of_inOrder {members : Members} (hnames : members.names.Nodup)
    (horder : members.InOrder) :
    ofMembers members = obj members := by
  have hput : Members.putAll [] members = [] ++ members := Members.putAll_eq_append hnames
  rw [ofMembers, hput, List.nil_append, Members.ordered_eq horder]

/-- A list is read back if its items are. -/
theorem readsBack_arr {items : List Json} (hplain : ∀ v ∈ items, Plain v) (h : ∀ v ∈ items, ReadsBack v) :
    ReadsBack (arr items) := by
  refine readsBack_of_succ fun n rest hn _ => ?_
  cases items with
  | nil => rfl
  | cons v items =>
    obtain ⟨u, t, ht, hspace, hu⟩ := exists_begins (hplain v List.mem_cons_self)
    obtain ⟨t', ht'⟩ := exists_join_cons u t (printItems items)
    have hprint : print (arr (v :: items)) ++ rest
        = Text.unit '[' :: (Text.join "," (printItems (v :: items)) ++ Text.unit ']' :: rest) := by
      rw [print, List.append_assoc, List.append_assoc]
      rfl
    have hlength := congrArg List.length hprint
    rw [List.length_append, List.length_cons, List.length_append, List.length_cons] at hlength
    have hread := items?_print (List.cons_ne_nil v items) h n rest (by omega)
    rw [printItems, ht, ht', List.cons_append] at hprint hread
    rw [hprint, value?, skipSpace_cons (by decide)]
    dsimp only
    rw [if_neg (by decide), if_pos rfl, skipSpace_cons hspace]
    dsimp only
    rw [if_neg hu, hread]
    rfl

/-- An object with different names in order is read back if its values are. -/
theorem readsBack_obj {members : Members} (hnames : members.names.Nodup) (horder : members.InOrder)
    (h : ∀ m ∈ members, ReadsBack m.2) : ReadsBack (obj members) := by
  refine readsBack_of_succ fun n rest hn _ => ?_
  cases members with
  | nil => rfl
  | cons m members =>
    obtain ⟨t', ht'⟩ := exists_join_cons (Text.unit '"') (escaped m.1 ++ "\"" ++ ":" ++ print m.2)
      (printMembers members)
    have hprint : print (obj (m :: members)) ++ rest
        = Text.unit '\x7b' :: (Text.join "," (printMembers (m :: members)) ++ Text.unit '\x7d' :: rest) := by
      rw [print, List.append_assoc, List.append_assoc]
      rfl
    have hlength := congrArg List.length hprint
    rw [List.length_append, List.length_cons, List.length_append, List.length_cons] at hlength
    have hread := members?_print (List.cons_ne_nil m members) h n rest (by omega)
    have hnames' : (unsignedMembers (m :: members)).names.Nodup := by rwa [names_unsignedMembers]
    have horder' : (unsignedMembers (m :: members)).InOrder := by
      rwa [Members.InOrder, names_unsignedMembers]
    have hjoin : Text.join "," (printMembers (m :: members)) = Text.unit '"' :: t' := ht'
    rw [hjoin, List.cons_append] at hprint hread
    rw [hprint, value?, skipSpace_cons (by decide)]
    dsimp only
    rw [if_neg (by decide), if_neg (by decide), if_pos rfl, skipSpace_cons (by decide)]
    dsimp only
    rw [if_neg (by decide), hread, Option.map_some, ofMembers_of_inOrder hnames' horder']
    rfl

/-! ## Whole values -/

/-- Every plain value is read back. -/
theorem Plain.readsBack {v : Json} (h : Plain v) : ReadsBack v := by
  induction h with
  | null => exact readsBack_null
  | bool b => exact readsBack_bool b
  | num h => exact readsBack_num h
  | str t => exact readsBack_str t
  | arr h ih => exact readsBack_arr h ih
  | obj hnames horder _ ih => exact readsBack_obj hnames horder ih

/-- A value is read as it was written, its zeros without a sign. -/
theorem Plain.parse?_print {v : Json} (h : Plain v) : parse? (print v) = some v.unsigned := by
  have hread := h.readsBack (2 * (print v).length + 1) [] (Nat.lt_succ_self _) nofun
  rw [List.append_nil] at hread
  rw [parse?, hread]
  rfl

/-! ## No control characters -/

/-- Digits are shown. -/
theorem shown_of_digits {t : Text} (h : ∀ u ∈ t, Text.isDigit u = true) : t.Shown := by
  intro u hu
  have hdigit := Text.isDigit_iff.1 (h u hu)
  rw [UInt16.le_iff_toNat_le]
  exact le_trans (by decide) hdigit.1

/-- Digits are laid out in units that are shown. -/
theorem shown_layout {s : Text} (hs : s.Shown) (p : Int) : (Number.layout s p).Shown := by
  have hzeros (k : Nat) : Text.Shown (List.replicate k (Text.unit '0')) :=
    shown_of_digits fun _ => Text.isDigit_of_mem_zeros
  have htake (k : Nat) : Text.Shown (s.take k) := fun u hu => hs u (List.mem_of_mem_take hu)
  have hdrop (k : Nat) : Text.Shown (s.drop k) := fun u hu => hs u (List.mem_of_mem_drop hu)
  have hpoint : Text.Shown "." := by decide
  have hexponent : Text.Shown (exponentText (p - 1)) := by
    refine Text.Shown.append ?_ (shown_of_digits fun u hu => Text.isDigit_of_mem_ofNat hu)
    split
    · decide
    · decide
  unfold Number.layout
  dsimp only
  split
  · split
    · exact hs.append (hzeros _)
    · exact ((htake _).append hpoint).append (hdrop _)
  · split
    · exact (Text.Shown.append (by decide) (hzeros _)).append hs
    · split
      · exact hs.append hexponent
      · exact (((htake _).append hpoint).append (hdrop _)).append hexponent

/-- A positive number is written in units that are shown. -/
theorem shown_positiveText (v : Rat) : (Number.positiveText v).Shown :=
  shown_layout (shown_of_digits fun _ hu => Number.isDigit_of_mem_significant hu) _

/-- A number is written in units that are shown. -/
theorem shown_text (x : Number) : x.text.Shown := by
  cases x with
  | nan => decide
  | infinite negative => cases negative <;> decide
  | negativeZero => decide
  | finite q =>
    rw [Number.text]
    split
    next => decide
    next =>
      split
      next => exact Text.Shown.append (by decide) (shown_positiveText _)
      next => exact shown_positiveText _

/-- A number is printed in units that are shown. -/
theorem shown_printNumber (x : Number) : (printNumber x).Shown := by
  cases x with
  | nan | infinite => exact (by decide : Text.Shown "null")
  | negativeZero => exact shown_text .negativeZero
  | finite q => exact shown_text (.finite q)

/-- Texts that are shown are so when they are joined. -/
theorem shown_join {ts : List Text} (h : ∀ t ∈ ts, t.Shown) : (Text.join "," ts).Shown := by
  induction ts with
  | nil => exact .nil
  | cons t ts ih =>
    obtain ⟨ht, hts⟩ := List.forall_mem_cons.1 h
    rcases eq_or_ne ts [] with rfl | hmore
    · rwa [Text.join, List.intercalate_singleton]
    · rw [join_cons t hmore]
      exact ht.append (List.forall_mem_cons.2 ⟨by decide, ih hts⟩)

mutual

/-- No value is written with a control character, so none with a line feed. -/
theorem shown_print : ∀ v : Json, (print v).Shown
  | null | bool true | bool false => by decide
  | num x => shown_printNumber x
  | str t => shown_quoted t
  | arr items => (Text.Shown.append (by decide) (shown_join (shown_printItems items))).append (by decide)
  | obj members => (Text.Shown.append (by decide) (shown_join (shown_printMembers members))).append (by decide)

/-- Items are printed in units that are shown. -/
theorem shown_printItems : ∀ items : List Json, ∀ t ∈ printItems items, t.Shown
  | [] => nofun
  | v :: items => List.forall_mem_cons.2 ⟨shown_print v, shown_printItems items⟩

/-- Members are printed in units that are shown. -/
theorem shown_printMembers : ∀ members : Members, ∀ t ∈ printMembers members, t.Shown
  | [] => nofun
  | (name, v) :: members => List.forall_mem_cons.2
    ⟨((shown_quoted name).append (by decide)).append (shown_print v), shown_printMembers members⟩

end

end Json

end UnitOfWork
