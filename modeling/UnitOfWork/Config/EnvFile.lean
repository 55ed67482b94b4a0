import UnitOfWork.Config.Environment
import UnitOfWork.Text.Blank

/-!
# Environment files

Files of settings `NAME=value` that add to an environment. What is set already stays as it is, so of
two files the one that is read first wins.

A line may begin with `export`, a colon and a blank may stand for the equals sign, and a number sign
begins a comment. A value may be quoted; in quotes it may go over several lines. A line that sets
nothing is passed over.
-/

namespace UnitOfWork.EnvFile

/-! ## One setting -/

/-- A unit of a name. -/
def isNameUnit (u : UInt16) : Bool :=
  Text.isDigit u || (Text.unit 'a' ≤ u && u ≤ Text.unit 'z') || (Text.unit 'A' ≤ u && u ≤ Text.unit 'Z')
    || u = Text.unit '_' || u = Text.unit '.' || u = Text.unit '-'

/-- The double quotation mark. -/
def doubleQuote : UInt16 := 0x22

/-- A quotation mark: a single one, a double one or a grave accent. -/
def isQuote (u : UInt16) : Bool :=
  u = 0x27 || u = doubleQuote || u = 0x60

/-- The text after an equals sign that may have blanks before it. -/
def afterEquals? (t : Text) : Option Text :=
  Text.dropBeginning? "=" (Text.trimLeft t)

/-- The text after a colon and a blank. -/
def afterColon? : Text → Option Text
  | u :: v :: rest => if u = Text.unit ':' && Text.isBlank v then some rest else none
  | _ => none

/-- A name with its equals sign, or with a colon and a blank, and the text after them. -/
def name? (t : Text) : Option (Text × Text) :=
  let (name, rest) := t.span isNameUnit
  if name.isEmpty then none
  else ((afterEquals? rest).or (afterColon? rest)).map fun after => (name, after)

/-- A name behind the word `export`. -/
def exportedName? (t : Text) : Option (Text × Text) :=
  match Text.dropBeginning? "export" t with
  | some (u :: rest) => if Text.isBlank u then name? (Text.trimLeft rest) else none
  | _ => none

/-- Nothing but blanks or a comment is left on the line. -/
def endsLine : Text → Bool
  | [] => true
  | u :: rest => u = Text.unit '#' || Text.isLineEnd u || (Text.isBlank u && endsLine rest)

/-- The places where a quotation may end: what is quoted up to there, and the text after the mark.
The first mark without a backslash before it comes first, then those with one, the last one
first. -/
def quotationEnds (mark : UInt16) : (escaped : Bool) → Text → List (Text × Text)
  | _, [] => []
  | escaped, u :: rest =>
    let later (escaped : Bool) := (quotationEnds mark escaped rest).map fun e => (u :: e.1, e.2)
    if u = mark then
      if escaped then later false ++ [([], rest)] else [([], rest)]
    else later (u = Text.unit '\\')

/-- A quotation at the beginning of a text, with its marks, and the text after it. -/
def quotation? : Text → Option (Text × Text)
  | [] => none
  | mark :: rest =>
    if isQuote mark then
      ((quotationEnds mark false rest).find? fun e => endsLine e.2).map fun e =>
        (mark :: e.1 ++ [mark], e.2)
    else none

/-- A value as it is written, and the text after it. What is not quoted goes to the end of the line
or to a comment. -/
def written (t : Text) : Text × Text :=
  match quotation? (Text.trimLeft t) with
  | some quoted => quoted
  | none =>
    let (value, rest) := t.span fun u => u ≠ Text.unit '#' && u ≠ 0x0A
    (Text.trim value, rest)

/-- The text up to the last mark that ends a line, and the text after that mark. -/
def lastMark? (mark : UInt16) : Text → Option (Text × Text)
  | [] => none
  | u :: rest =>
    match lastMark? mark rest with
    | some (inside, after) => some (u :: inside, after)
    | none => if u = mark && rest.head?.all Text.isLineEnd then some ([], rest) else none

/-- A text of at most `units` units without the quotation marks that begin one of its lines and end
the same or a later one; `atStart` tells whether the text is the beginning of a line. -/
def unquotedWithin : (units : Nat) → (atStart : Bool) → Text → Text
  | 0, _, t => t
  | _, _, [] => []
  | units + 1, atStart, u :: rest =>
    match if atStart && isQuote u then lastMark? u rest else none with
    | some (inside, after) => inside ++ unquotedWithin units false after
    | none => u :: unquotedWithin units (Text.isLineEnd u) rest

/-- A text without the quotation marks around its lines. -/
def unquoted (t : Text) : Text :=
  unquotedWithin t.length true t

/-- A text in which a backslash with an `n` or `r` is a line feed or carriage return. -/
def unescaped : Text → Text
  | u :: v :: rest =>
    if u = Text.unit '\\' && v = Text.unit 'n' then 0x0A :: unescaped rest
    else if u = Text.unit '\\' && v = Text.unit 'r' then 0x0D :: unescaped rest
    else u :: unescaped (v :: rest)
  | t => t

/-- The value that is written. Only after a double quotation mark do backslashes have a meaning. -/
def valueOf (written : Text) : Text :=
  if written.head? = some doubleQuote then unescaped (unquoted written) else unquoted written

/-- The name and the value that the text sets first, if it begins with a setting, and the text after
them. -/
def setting? (t : Text) : Option ((Text × Text) × Text) :=
  let t := Text.trimLeft t
  ((exportedName? t).or (name? t)).map fun (name, rest) =>
    let (value, rest) := written rest
    ((name, valueOf value), rest)

/-! ## Files -/

/-- A text whose lines all end with a line feed alone. -/
def unifyLines : Text → Text
  | [] => []
  | u :: rest =>
    if u = 0x0D then
      match rest with
      | v :: rest' => if v = 0x0A then 0x0A :: unifyLines rest' else 0x0A :: unifyLines (v :: rest')
      | [] => [0x0A]
    else u :: unifyLines rest

/-- The text after the current line. -/
def nextLine (t : Text) : Text :=
  (t.dropWhile (!Text.isLineEnd ·)).drop 1

/-- The names and values that the first `lines` lines or settings of a text set. -/
def settingsWithin : (lines : Nat) → Text → List (Text × Text)
  | 0, _ => []
  | lines + 1, t =>
    if t.isEmpty then []
    else
      match setting? t with
      | some (setting, rest) => setting :: settingsWithin lines (nextLine rest)
      | none => settingsWithin lines (nextLine t)

/-- The names and values that a file sets. -/
def settings (file : Text) : List (Text × Text) :=
  let t := unifyLines file
  settingsWithin t.length t

/-- An environment with one setting more, unless its name is set already. -/
def addSetting (env : Json.Members) (name value : Text) : Json.Members :=
  match env.get? name with
  | some _ => env
  | none => env.put name (.str (Environment.value value))

/-- An environment with the settings of a file that are not set already; a later line of one file
wins over an earlier one. -/
def addTo (env : Json.Members) (file : Text) : Json.Members :=
  let own := (settings file).foldl (fun ms (name, value) => Json.Members.put name (.str value) ms) []
  own.foldl (fun env (name, value) =>
    match value with
    | .str t => addSetting env name t
    | _ => env) env

/-- The files that are read, in order. -/
def fileNames : List Text :=
  [".env.local", ".env"]

/-- An environment with the settings of the files that are there. -/
def load (files : List (Text × Text)) (env : Json.Members) : Json.Members :=
  fileNames.foldl (fun env name =>
    match files.find? (·.1 = name) with
    | some (_, file) => addTo env file
    | none => env) env

end UnitOfWork.EnvFile
