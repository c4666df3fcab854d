import DataGrid.Toml.Scalar
import DataGrid.Toml.Value

/-!
# Documents of TOML

Reading a TOML document, statement by statement.

## Main definitions

* `DataGrid.Toml.key?`, `DataGrid.Toml.value?` — keys and values.
* `DataGrid.Toml.Statement.read?` — one statement.
* `DataGrid.Toml.parse?` — the members of the whole document.

## Implementation notes

A reader takes characters off the front of a list and returns what it found with the rest. Readers
of nested values count down `fuel`, which starts at the length of the text: every step of them
takes at least one character.
-/

namespace DataGrid.Toml

/-! ## Between the parts -/

/-- The text behind the blanks of a line. -/
def skipSpaces (cs : List Char) : List Char := cs.dropWhile isSpace

/-- The text behind blanks, line breaks and comments. -/
def skipFiller (inComment : Bool) : List Char → List Char
  | [] => []
  | c :: rest =>
    if c = '\n' ∨ (c = '\r' ∧ rest.head? = some '\n') then skipFiller false rest
    else if inComment then if isControl c then c :: rest else skipFiller true rest
    else if isSpace c then skipFiller false rest
    else if c = '#' then skipFiller true rest
    else c :: rest

/-- The text behind the end of a line, with a comment in front of it. -/
def endLine? (cs : List Char) : Option (List Char) :=
  let rest := match skipSpaces cs with
    | '#' :: comment => comment.dropWhile fun c => !isControl c
    | rest => rest
  match rest with
  | [] => some []
  | rest => afterBreak? rest

/-! ## Keys -/

/-- The characters of a key without quotes. -/
def isKeyChar (c : Char) : Bool := c.isAlphanum || c == '_' || c == '-'

/-- A key without dots. -/
def simpleKey? : List Char → Option (String × List Char)
  | '"' :: rest => Quote.read? ⟨'"', false⟩ rest
  | '\'' :: rest => Quote.read? ⟨'\'', false⟩ rest
  | cs =>
    let name := cs.takeWhile isKeyChar
    if name.isEmpty then none else some (String.ofList name, cs.dropWhile isKeyChar)

/-- The deepest nesting of arrays and inline tables, and the greatest number of steps in a key. -/
def maxDepth : Nat := 79

/-- A dotted key of at most `limit` steps: the steps in front of the last dot, the last one, and the
rest of the text behind the blanks that follow. -/
def dottedKey? (limit : Nat) (cs : List Char) : Option (List String × String × List Char) :=
  match limit with
  | 0 => none
  | limit + 1 => do
    let (name, rest) ← simpleKey? (skipSpaces cs)
    match skipSpaces rest with
    | '.' :: rest =>
      let (path, last, rest) ← dottedKey? limit rest
      return (name :: path, last, rest)
    | rest => return ([], name, rest)

/-- A dotted key. -/
def key? (cs : List Char) : Option (List String × String × List Char) := dottedKey? maxDepth cs

/-! ## Values -/

/-- The characters of a scalar without quotes. -/
def isWordChar (c : Char) : Bool :=
  c.isAlphanum || c == '_' || c == '-' || c == '+' || c == '.' || c == ':'

/-- A scalar without quotes; between a day and a time there may be a blank. -/
def word? (cs : List Char) : Option (Value × List Char) :=
  let word := cs.takeWhile isWordChar
  let (word, rest) := match cs.dropWhile isWordChar with
    | ' ' :: c :: rest =>
      if c.isDigit && isMoment word then
        (word ++ ' ' :: (c :: rest).takeWhile isWordChar, (c :: rest).dropWhile isWordChar)
      else (word, ' ' :: c :: rest)
    | rest => (word, rest)
  if isScalar word then some (.scalar, rest) else none

mutual

/-- A value; arrays and inline tables may be nested `depth` deep. -/
def value? (fuel depth : Nat) (cs : List Char) : Option (Value × List Char) :=
  match fuel with
  | 0 => none
  | fuel + 1 =>
    match Quote.ofMark? cs with
    | some (quote, rest) => (quote.read? rest).map fun (s, rest) => (.text s, rest)
    | none =>
      match depth, cs with
      | 0, '[' :: _ => none
      | 0, '\x7b' :: _ => none
      | depth + 1, '[' :: rest => items? fuel depth [] (skipFiller false rest)
      | depth + 1, '\x7b' :: rest =>
        match skipSpaces rest with
        | '\x7d' :: rest => some (.inlineTable [], rest)
        | rest => members? fuel depth [] rest
      | _, cs => word? cs

/-- The elements of an array up to its end; those found come last one first. -/
def items? (fuel depth : Nat) (found : List Value) (cs : List Char) :
    Option (Value × List Char) :=
  match fuel with
  | 0 => none
  | fuel + 1 =>
    match cs with
    | ']' :: rest => some (.array found.reverse, rest)
    | cs =>
      match value? fuel depth cs with
      | none => none
      | some (v, rest) =>
        match skipFiller false rest with
        | ',' :: rest => items? fuel depth (v :: found) (skipFiller false rest)
        | ']' :: rest => some (.array (v :: found).reverse, rest)
        | _ => none

/-- The members of an inline table up to its end, on top of those found. -/
def members? (fuel depth : Nat) (found : Members) (cs : List Char) :
    Option (Value × List Char) :=
  match fuel with
  | 0 => none
  | fuel + 1 =>
    match key? cs with
    | some (path, name, '=' :: rest) =>
      match value? fuel depth (skipSpaces rest) with
      | none => none
      | some (v, rest) =>
        match put? path.isEmpty name v path found, skipSpaces rest with
        | some found, ',' :: rest => members? fuel depth found rest
        | some found, '\x7d' :: rest => some (.inlineTable found, rest)
        | _, _ => none
    | _ => none

end

/-! ## Statements -/

/-- One line of a document. -/
inductive Statement where
  | blank
  | pair (path : List String) (name : String) (v : Value)
  | table (path : List String) (name : String)
  | element (path : List String) (name : String)

/-- One statement and the text behind its line. -/
def Statement.read? (fuel : Nat) (cs : List Char) : Option (Statement × List Char) :=
  match skipSpaces cs with
  | '[' :: '[' :: rest =>
    match key? rest with
    | some (path, name, ']' :: ']' :: rest) => (endLine? rest).map fun rest =>
      (.element path name, rest)
    | _ => none
  | '[' :: rest =>
    match key? rest with
    | some (path, name, ']' :: rest) => (endLine? rest).map fun rest => (.table path name, rest)
    | _ => none
  | cs =>
    match endLine? cs with
    | some rest => some (.blank, rest)
    | none =>
      match key? cs with
      | some (path, name, '=' :: rest) => do
        let (v, rest) ← value? fuel maxDepth (skipSpaces rest)
        return (.pair path name v, ← endLine? rest)
      | _ => none

/-- A document as far as it is read. -/
structure Draft where
  members : Members
  /-- The path of the last header. -/
  path : List String

/-- The document after one more statement. -/
def Draft.step? (d : Draft) : Statement → Option Draft
  | .blank => some d
  | .pair path name v =>
    (descend? (put? path.isEmpty name v path) d.path d.members).map fun members =>
      { d with members := members }
  | .table path name =>
    (descend? (openTable? name) path d.members).map fun members => ⟨members, path ++ [name]⟩
  | .element path name =>
    (descend? (openElement? name) path d.members).map fun members => ⟨members, path ++ [name]⟩

/-- The document after all statements. -/
def Draft.run? (size : Nat) : Nat → Draft → List Char → Option Draft
  | _, d, [] => some d
  | 0, _, _ :: _ => none
  | fuel + 1, d, c :: cs =>
    match Statement.read? size (c :: cs) with
    | none => none
    | some (statement, rest) =>
      match d.step? statement with
      | none => none
      | some d => run? size fuel d rest

/-- A text without a byte order mark. -/
def withoutMark : List Char → List Char
  | '\uFEFF' :: rest => rest
  | cs => cs

/-- The members of the document that a text is. -/
def parse? (s : String) : Option Members :=
  let cs := withoutMark s.toList
  let size := cs.length + 1
  (Draft.run? size size ⟨[], []⟩ cs).map Draft.members

end DataGrid.Toml
