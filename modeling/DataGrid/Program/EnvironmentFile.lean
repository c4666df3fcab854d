import DataGrid.Program.Config
import DataGrid.Text.Alphanumeric
import DataGrid.Text.Segment

/-!
# Environment files

Files with a variable on each line, which complete an environment. Values may be quoted, also over
several lines, and they may contain the values of other variables; a comment may follow behind a
blank.

## Main definitions

* `DataGrid.Environment.LineMode` — where a line ends.
* `DataGrid.Environment.lineOf?` — the variable of a line.
* `DataGrid.Environment.completed` — an environment completed by a file.

## Implementation notes

Where a line ends is decided before anything in it is read, by rules of its own: there a backslash
protects the character behind it in single quotes as well, and a quote that follows the sign of a
variable still closes.
-/

namespace DataGrid.Environment

/-! ## Lines -/

/-- The text behind a byte order mark, if it begins with one. -/
def withoutMark : List UInt8 → List UInt8
  | 0xEF :: 0xBB :: 0xBF :: rest => rest
  | bytes => bytes

/-- The lines of a file with the line feeds that end them. -/
def rawLines (bytes : List UInt8) : List (List UInt8) := bytes.splitBy fun byte _ => byte != 10

/-- The characters of a line in UTF-8. -/
def charsOf? (line : List UInt8) : Option (List Char) :=
  (String.fromUTF8? ⟨line.toArray⟩).map String.toList

/-- What the next character belongs to, as far as the end of the line depends on it. -/
inductive LineMode where
  | bare
  /-- A blank has been read. -/
  | blank
  /-- A backslash has been read. -/
  | escape
  | single
  | singleEscape
  | double
  | doubleEscape
deriving DecidableEq

namespace LineMode

/-- The mode behind a character outside of quotes; blanks change it only behind other characters. -/
def outside (behindBlank : Bool) (c : Char) : LineMode :=
  if c = '\\' then .escape
  else if c = '"' then .double
  else if c = '\'' then .single
  else if !behindBlank && Text.isBlank c && c != '\n' && c != '\r' then .blank
  else .bare

/-- The mode behind one more character. -/
def step (mode : LineMode) (c : Char) : LineMode :=
  match mode with
  | .bare => outside false c
  | .blank => outside true c
  | .escape => .bare
  | .single => if c = '\\' then .singleEscape else if c = '\'' then .bare else .single
  | .singleEscape => .single
  | .double => if c = '\\' then .doubleEscape else if c = '"' then .bare else .double
  | .doubleEscape => .double

/-- The text in front of a comment, which begins behind a blank, and the mode at its end. `found`
is the text so far, the last character first. -/
def uncommented (mode : LineMode) (found : List Char) : List Char → List Char × LineMode
  | [] => (found.reverse, mode)
  | c :: rest =>
    if mode = .blank ∧ c = '#' then (found.reverse, .bare)
    else uncommented (mode.step c) (c :: found) rest

end LineMode

/-! ## Variables -/

/-- The text behind its beginning. -/
def afterPrefix? : List Char → List Char → Option (List Char)
  | [], cs => some cs
  | _ :: _, [] => none
  | a :: start, c :: cs => if a = c then afterPrefix? start cs else none

/-- What stands behind the name and an equals sign in the first entry that begins so. The name may
contain an equals sign itself. -/
def value? (env : Environment) (name : List Char) : Option String :=
  env.findSome? fun entry =>
    (afterPrefix? (name ++ ['=']) (entry.1.toList ++ '=' :: entry.2.toList)).map String.ofList

/-- The value of a variable, which is empty for an unknown one. -/
def valueOrEmpty (env : Environment) (name : List Char) : List Char :=
  ((env.value? name).getD "").toList

/-- The environment with one more variable, unless it is set already. -/
def addUnset (env : Environment) (name value : String) : Environment :=
  if (env.value? name.toList).isSome then env else env ++ [(name, value)]

/-! ## Values -/

/-- What the next character of a value belongs to. -/
inductive ValueMode where
  | bare
  | single
  | double
  /-- A backslash has been read, inside double quotes or not. -/
  | escape (quoted : Bool)
  /-- A dollar sign has been read, inside double quotes or not, and some letters and digits behind
  it, the last one first. -/
  | name (quoted : Bool) (found : List Char)
  /-- A dollar sign and a brace have been read, and some characters behind them. -/
  | braces (quoted : Bool) (found : List Char)
  /-- A blank has ended the value. -/
  | ended

/-- The mode inside double quotes or outside of all quotes. -/
def ValueMode.within (quoted : Bool) : ValueMode := if quoted then .double else .bare

/-- The character that an escape stands for. -/
def escape? (c : Char) : Option Char :=
  if c = 'n' then some '\n'
  else if c = '\\' ∨ c = '\'' ∨ c = '"' ∨ c = '$' ∨ c = ' ' then some c
  else none

/-- A blank inside a line. -/
def isSpace (c : Char) : Bool := c == ' ' || c == '\t'

/-- The value with the value of a variable behind it; both have the last character first. -/
def substituted (env : Environment) (name found : List Char) : List Char :=
  (env.valueOrEmpty name.reverse).reverse ++ found

/-- Read on in a value; characters found so far come last one first. Quotes and braces must be
closed, and nothing but a comment may follow behind a blank. The character behind the name of a
variable belongs to the value, whatever it is, unless it is another dollar sign. -/
def valueFrom? (env : Environment) (mode : ValueMode) (found : List Char) :
    List Char → Option String
  | [] =>
    match mode with
    | .bare | .ended | .escape false => some (String.ofList found.reverse)
    | .name false name => some (String.ofList (substituted env name found).reverse)
    | _ => none
  | c :: rest =>
    match mode with
    | .single =>
      if c = '\'' then valueFrom? env .bare found rest else valueFrom? env .single (c :: found) rest
    | .double =>
      if c = '$' then valueFrom? env (.name true []) found rest
      else if c = '"' then valueFrom? env .bare found rest
      else if c = '\\' then valueFrom? env (.escape true) found rest
      else valueFrom? env .double (c :: found) rest
    | .escape quoted =>
      match escape? c with
      | some d => valueFrom? env (.within quoted) (d :: found) rest
      | none => none
    | .name quoted name =>
      if Text.isAlphanumeric c then valueFrom? env (.name quoted (c :: name)) found rest
      else if c = '\x7b' ∧ name.isEmpty then valueFrom? env (.braces quoted []) found rest
      else if c = '$' then valueFrom? env (.name quoted []) (substituted env name found) rest
      else valueFrom? env (.within quoted) (c :: substituted env name found) rest
    | .braces quoted name =>
      if c = '\x7d' then valueFrom? env (.within quoted) (substituted env name found) rest
      else valueFrom? env (.braces quoted (c :: name)) found rest
    | .ended =>
      if isSpace c then valueFrom? env .ended found rest
      else if c = '#' then some (String.ofList found.reverse)
      else none
    | .bare =>
      if c = '$' then valueFrom? env (.name false []) found rest
      else if c = '\'' then valueFrom? env .single found rest
      else if c = '"' then valueFrom? env .double found rest
      else if c = '\\' then valueFrom? env (.escape false) found rest
      else if isSpace c then valueFrom? env .ended found rest
      else valueFrom? env .bare (c :: found) rest

/-! ## Assignments -/

/-- The characters of a name behind its first one. -/
def isNameChar (c : Char) : Bool := c.isAlphanum || c == '_' || c == '.'

/-- A name and the text behind it and its blanks. -/
def name? : List Char → Option (String × List Char)
  | [] => none
  | c :: rest =>
    if c.isAlpha || c == '_' then
      some (String.ofList (c :: rest.takeWhile isNameChar),
        Text.trimStart (rest.dropWhile isNameChar))
    else none

/-- The variable that an assignment sets. -/
def assignment? (env : Environment) (name : String) : List Char → Option (String × String)
  | '=' :: rest =>
    match Text.trimStart rest with
    | [] => some (name, "")
    | '#' :: _ => some (name, "")
    | value => (valueFrom? env .bare [] value).map fun s => (name, s)
  | _ => none

/-- The variable of a line: an assignment, with the word `export` in front of it or not. Empty lines
and comments have none. -/
def lineOf? (env : Environment) (line : List Char) : Option (Option (String × String)) :=
  match Text.trimChars line with
  | [] => some none
  | '#' :: _ => some none
  | cs =>
    match name? cs with
    | none => none
    | some (name, '=' :: rest) => (assignment? env name ('=' :: rest)).map some
    | some (name, rest) =>
      if name = "export" then
        ((name? rest).bind fun (name, rest) => assignment? env name rest).map some
      else none

/-- The environment with the variable of a line, if it has one. -/
def addLine? (env : Environment) (line : List Char) : Option Environment :=
  (lineOf? env line).map fun
    | some (name, value) => env.addUnset name value
    | none => env

/-- An environment completed by the lines of a file, one after another, up to the first one that is
no text or malformed. A line goes on as long as something is open at its end; `text` is the
beginning of such a line. -/
def completedFrom (env : Environment) (mode : LineMode) (text : List Char) :
    List (List UInt8) → Environment
  | [] => env
  | line :: rest =>
    match charsOf? line with
    | none => env
    | some cs =>
      if (Text.trimStart (text ++ cs)).head? = some '#' then completedFrom env .bare [] rest
      else
        let (kept, last) := mode.uncommented [] cs
        if last = .bare then
          match env.addLine? (text ++ kept) with
          | none => env
          | some env => completedFrom env .bare [] rest
        else completedFrom env last (text ++ kept) rest

/-- An environment completed by the variables of a file; those that are set already stay. -/
def completed (env : Environment) (file : ByteArray) : Environment :=
  env.completedFrom .bare [] (rawLines (withoutMark file.data.toList))

end DataGrid.Environment
