import DataGrid.Decimal.Reader
import DataGrid.Yaml.Tag

/-!
# Tokens of YAML

The tokens of a YAML document. Indentation becomes tokens as well: every block collection has a
token at its start and one at its end.

## Main definitions

* `DataGrid.Yaml.Token` — the tokens.
* `DataGrid.Yaml.Scanner` — a text as far as it is scanned.
* `DataGrid.Yaml.Token.scan?` — the tokens of a text.

## Implementation notes

What turns out to be the key of a mapping is known only at the colon behind it. Until then the
scanner remembers where the key would begin; the colon puts the token of a key there, and if needed
the token of a mapping in front of it.
-/

namespace DataGrid.Yaml

/-- A token of a document. -/
inductive Token where
  /-- A directive with a version number. -/
  | version (major minor : Nat)
  /-- A directive with a tag handle and what it stands for. -/
  | handle (name : String) (meaning : Tag)
  | documentStart
  | documentEnd
  | blockSequence
  | blockMapping
  | blockEnd
  | flowSequence
  | flowSequenceEnd
  | flowMapping
  | flowMappingEnd
  /-- The dash of a block sequence. -/
  | dash
  | comma
  | key
  | value
  | reference (name : String)
  | anchor (name : String)
  /-- A tag: its handle, which is empty for a complete tag, and the rest. -/
  | tag (handle : String) (suffix : Tag)
  | scalar (plain : Bool) (text : String)
deriving DecidableEq

/-! ## The scanner -/

/-- A place where a key may have begun. -/
structure PossibleKey where
  /-- The number of tokens in front of it. -/
  count : Nat
  place : Place
  /-- A key must be here, since the place is on the indentation of a block mapping. -/
  required : Bool

/-- A text as far as it is scanned. -/
structure Scanner where
  cursor : Cursor
  /-- The tokens found, the last one first. -/
  tokens : List Token := []
  /-- The number of these tokens. -/
  count : Nat := 0
  /-- The indentation of the innermost block collection, -1 outside of all. -/
  indent : Int := -1
  /-- The indentations around it, from the inside out. -/
  outer : List Int := []
  /-- A key may begin here. -/
  keyAllowed : Bool := true
  /-- Where a key may have begun at the innermost level of brackets. -/
  possible : Option PossibleKey := none
  /-- The same for the levels around it, from the inside out; as many as there are open brackets. -/
  levels : List (Option PossibleKey) := []

namespace Scanner

/-- Whether the scanner is inside brackets. -/
def inFlow (s : Scanner) : Bool := !s.levels.isEmpty

/-- One more token. -/
def push (s : Scanner) (t : Token) : Scanner :=
  { s with tokens := t :: s.tokens, count := s.count + 1 }

/-- A token put behind the first `count` ones. -/
def insertAt (s : Scanner) (count : Nat) (t : Token) : Scanner :=
  let n := s.count - count
  { s with tokens := s.tokens.take n ++ t :: s.tokens.drop n, count := s.count + 1 }

/-- The column of the next character. -/
def column (s : Scanner) : Nat := s.cursor.place.column

/-- The text behind `n` characters. -/
def skip (s : Scanner) (n : Nat) : Scanner := { s with cursor := s.cursor.skip n }

/-! ## Keys -/

/-- The key that may have begun is given up; an error if there must be one. -/
def dropKey? (s : Scanner) : Option Scanner :=
  if s.possible.any PossibleKey.required then none else some { s with possible := none }

/-- A key that may have begun is given up when its line has ended, or it is longer than 1024
octets. -/
def isStale (here : Place) (key : PossibleKey) : Bool :=
  key.place.line < here.line || key.place.index + 1024 < here.index

/-- Stale keys given up on the innermost and all outer levels. -/
def dropStale? (s : Scanner) : Option Scanner :=
  let fresh : Option PossibleKey → Option (Option PossibleKey) := fun possible =>
    match possible with
    | none => some none
    | some key =>
      if !isStale s.cursor.place key then some (some key)
      else if key.required then none
      else some none
  match fresh s.possible, s.levels.mapM fresh with
  | some possible, some levels => some { s with possible := possible, levels := levels }
  | _, _ => none

/-- A key may begin here. -/
def mark? (s : Scanner) : Option Scanner :=
  if s.keyAllowed then
    (s.dropKey?).map fun s =>
      { s with possible := some {
          count := s.count
          place := s.cursor.place
          required := !s.inFlow && s.indent == s.column } }
  else some s

/-! ## Indentation -/

/-- A block collection opened at a column, unless the innermost one has that indentation already.
Its token is put behind the first `count` ones. -/
def indentTo (s : Scanner) (column count : Nat) (t : Token) : Scanner :=
  if !s.inFlow && s.indent < column then
    { s.insertAt count t with outer := s.indent :: s.outer, indent := column }
  else s

/-- The block collections that are indented more than a column, closed; `outer` holds the
indentations around the innermost one. -/
def closeBlocks (column : Int) (outer : List Int) (s : Scanner) : Scanner :=
  match outer with
  | [] => s
  | next :: outer =>
    if s.indent > column then
      closeBlocks column outer { s.push .blockEnd with indent := next, outer := outer }
    else s

/-- The block collections that are indented more than a column, closed; inside brackets
indentation plays no role. -/
def outdentTo (s : Scanner) (column : Int) : Scanner :=
  if s.inFlow then s else closeBlocks column s.outer s

/-! ## Between the tokens -/

/-- Behind blanks, comments and line breaks, and whether a key may begin there. A tab in front of
what could be a key is no blank; a byte order mark is one at the beginning of a line. -/
def skipFiller (inFlow keyAllowed inComment : Bool) (here : Place) : List Char → Bool × Cursor
  | [] => (keyAllowed, ⟨[], here⟩)
  | c :: rest =>
    if isBreak c then skipFiller inFlow (keyAllowed || !inFlow) false (here.step c) rest
    else if inComment || c == ' ' || (c == '\t' && (inFlow || !keyAllowed)) ||
        (c == '\uFEFF' && here.column == 0) then
      skipFiller inFlow keyAllowed inComment (here.step c) rest
    else if c == '#' then skipFiller inFlow keyAllowed true (here.step c) rest
    else (keyAllowed, ⟨c :: rest, here⟩)

/-- The scanner in front of the next token. -/
def toToken? (s : Scanner) : Option Scanner :=
  let (keyAllowed, k) := skipFiller s.inFlow s.keyAllowed false s.cursor.place s.cursor.rest
  let s := { s with cursor := k, keyAllowed := keyAllowed }
  (s.dropStale?).map fun s => s.outdentTo s.column

/-! ## Structure -/

/-- The dash of a block sequence. -/
def dash? (s : Scanner) : Option Scanner := do
  if !s.inFlow && !s.keyAllowed then none
  else
    let s ← (s.indentTo s.column s.count .blockSequence).dropKey?
    return ({ s with keyAllowed := true }.push .dash).skip 1

/-- A question mark in front of a key. -/
def key? (s : Scanner) : Option Scanner := do
  if !s.inFlow && !s.keyAllowed then none
  else
    let s ← (s.indentTo s.column s.count .blockMapping).dropKey?
    return ({ s with keyAllowed := !s.inFlow }.push .key).skip 1

/-- The colon in front of a value. -/
def value? (s : Scanner) : Option Scanner :=
  match s.possible with
  | some key =>
    let s := (s.insertAt key.count .key).indentTo key.place.column key.count .blockMapping
    some (({ s with possible := none, keyAllowed := false }.push .value).skip 1)
  | none =>
    if !s.inFlow && !s.keyAllowed then none
    else
      let s := s.indentTo s.column s.count .blockMapping
      some (({ s with keyAllowed := !s.inFlow }.push .value).skip 1)

/-- An opening bracket. -/
def openFlow? (s : Scanner) (t : Token) : Option Scanner :=
  (s.mark?).map fun s =>
    let inner := { s with levels := s.possible :: s.levels, possible := none, keyAllowed := true }
    (inner.push t).skip 1

/-- A closing bracket. -/
def closeFlow? (s : Scanner) (t : Token) : Option Scanner :=
  (s.dropKey?).map fun s =>
    let s := match s.levels with
      | possible :: levels => { s with possible := possible, levels := levels }
      | [] => s
    ({ s with keyAllowed := false }.push t).skip 1

/-- A comma. -/
def comma? (s : Scanner) : Option Scanner :=
  (s.dropKey?).map fun s => ({ s with keyAllowed := true }.push .comma).skip 1

/-- The marker of the start or the end of a document. -/
def marker? (s : Scanner) (t : Token) : Option Scanner :=
  ((s.outdentTo (-1)).dropKey?).map fun s => ({ s with keyAllowed := false }.push t).skip 3

/-- All block collections closed at the end of the text. -/
def finish? (s : Scanner) : Option Scanner := (s.outdentTo (-1)).dropKey?

/-! ## Anchors and tags -/

/-- Whether the name of an anchor may end here. -/
def endsName (cs : List Char) : Bool :=
  atGap cs || cs.head?.any fun c =>
    c == '?' || c == ':' || c == ',' || c == ']' || c == '\x7d' || c == '%' || c == '@' ||
      c == '\x60'

/-- An anchor or alias. -/
def name? (s : Scanner) (token : String → Token) : Option Scanner := do
  let s ← s.mark?
  let k := s.cursor.skip 1
  let name := k.rest.takeWhile isNameChar
  let k := k.skip name.length
  if name.isEmpty || !endsName k.rest then none
  else return { s with cursor := k, keyAllowed := false }.push (token (String.ofList name))

/-- A tag. -/
def tag? (s : Scanner) : Option Scanner := do
  let s ← s.mark?
  let (handle, suffix, size) ← tagOf? s.cursor.rest
  let k := s.cursor.skip size
  if atGap k.rest || (s.inFlow && k.rest.head? = some ',') then
    return { s with cursor := k, keyAllowed := false }.push (.tag handle suffix)
  else none

/-! ## Directives -/

/-- A number of at most nine digits, and the place behind it. -/
def versionNumber? (k : Cursor) : Option (Nat × Cursor) :=
  let digits := k.rest.takeWhile Char.isDigit
  if digits.length ≤ 9 then (naturalOfChars? digits).map fun n => (n, k.skip digits.length)
  else none

/-- The operand of a version directive: two numbers with a dot between them. -/
def version? (k : Cursor) : Option (Token × Cursor) := do
  let (major, k) ← versionNumber? (k.skipWhile isSpace)
  if k.rest.head? = some '.' then
    let (minor, k) ← versionNumber? (k.skip 1)
    return (.version major minor, k)
  else none

/-- The operands of a tag directive: a handle and the address that it stands for. -/
def handleMeaning? (k : Cursor) : Option (Token × Cursor) := do
  let k := k.skipWhile isSpace
  let (name, n) ← handle? k.rest
  let k := k.skip n
  if k.rest.head?.any isSpace then
    let k := k.skipWhile isSpace
    let (meaning, n) ← nonemptyAddress? isCompleteChar k.rest
    let k := k.skip n
    if atGap k.rest then return (.handle name meaning, k) else none
  else none

/-- The directive whose percent sign stands right in front, and the place behind its line. -/
def directiveFrom? (k : Cursor) : Option (Token × Cursor) := do
  let name := k.rest.takeWhile isNameChar
  let k := k.skip name.length
  let (token, k) ←
    if !atGap k.rest then none
    else if name = ['Y', 'A', 'M', 'L'] then version? k
    else if name = ['T', 'A', 'G'] then handleMeaning? k
    else none
  let k := k.skipWhile isSpace
  let k := if k.rest.head? = some '#' then k.skipWhile fun c => !isBreak c else k
  if k.rest.head?.all isBreak then return (token, k.skipBreak) else none

/-- A directive. -/
def directive? (s : Scanner) : Option Scanner := do
  let s ← (s.outdentTo (-1)).dropKey?
  let (token, k) ← directiveFrom? (s.cursor.skip 1)
  return { s with cursor := k, keyAllowed := false }.push token

/-! ## Scalars -/

/-- A quoted scalar. -/
def quoted? (s : Scanner) (single : Bool) : Option Scanner := do
  let s ← s.mark?
  let (text, k) ← Yaml.quoted? single (s.cursor.skip 1)
  return { s with cursor := k, keyAllowed := false }.push (.scalar false text)

/-- A block scalar. -/
def block? (s : Scanner) (folded : Bool) : Option Scanner := do
  let s ← s.dropKey?
  let (text, k) ← Yaml.block? folded s.indent (s.cursor.skip 1)
  return { s with cursor := k, keyAllowed := true }.push (.scalar false text)

/-- A plain scalar. -/
def plain? (s : Scanner) : Option Scanner := do
  let s ← s.mark?
  let (text, broken, k) ← Yaml.plain? s.inFlow (s.indent + 1).toNat s.cursor
  return { s with cursor := k, keyAllowed := broken }.push (.scalar true text)

/-- Characters with which no plain scalar begins, whatever follows. -/
def isIndicator (c : Char) : Bool :=
  isSpace c || isFlowEnd c || c == '#' || c == '&' || c == '*' || c == '!' || c == '|' ||
    c == '>' || c == '\'' || c == '"' || c == '%' || c == '@' || c == '\x60'

/-- Whether a plain scalar may begin with a character in front of the given text. -/
def startsPlain (inFlow : Bool) (c : Char) (rest : List Char) : Bool :=
  if c == '-' then !(rest.head?.any isSpace)
  else if c == '?' || c == ':' then !inFlow && !atGap rest
  else !isIndicator c

/-! ## Scanning -/

/-- The token that begins with the character `c`. -/
def token? (s : Scanner) (c : Char) (rest : List Char) : Option Scanner :=
  if s.column = 0 && c == '%' then s.directive?
  else if s.column = 0 && atMarker (c :: rest) then
    s.marker? (if c = '-' then .documentStart else .documentEnd)
  else if c = '[' then s.openFlow? .flowSequence
  else if c = '\x7b' then s.openFlow? .flowMapping
  else if c = ']' then s.closeFlow? .flowSequenceEnd
  else if c = '\x7d' then s.closeFlow? .flowMappingEnd
  else if c = ',' then s.comma?
  else if c = '-' && atGap rest then s.dash?
  else if c = '?' && (s.inFlow || atGap rest) then s.key?
  else if c = ':' && (s.inFlow || atGap rest) then s.value?
  else if c = '*' then s.name? .reference
  else if c = '&' then s.name? .anchor
  else if c = '!' then s.tag?
  else if c = '|' && !s.inFlow then s.block? false
  else if c = '>' && !s.inFlow then s.block? true
  else if c = '\'' then s.quoted? true
  else if c = '"' then s.quoted? false
  else if startsPlain s.inFlow c rest then s.plain?
  else none

/-- Scan on to the end of the text; every token takes at least one character. -/
def run? : Nat → Scanner → Option Scanner
  | 0, _ => none
  | fuel + 1, s =>
    match s.toToken? with
    | none => none
    | some s =>
      match s.cursor.rest with
      | [] => s.finish?
      | c :: rest =>
        match s.token? c rest with
        | none => none
        | some s => run? fuel s

end Scanner

/-- The tokens of a text; none when some of it is no token. -/
def Token.scan? (s : String) : Option (List Token) :=
  if s.toList.all isText then
    let cs := normalized s.toList
    (Scanner.run? (cs.length + 1) { cursor := ⟨cs, ⟨0, 0, 0⟩⟩ }).map fun s => s.tokens.reverse
  else none

end DataGrid.Yaml
