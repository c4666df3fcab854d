import DataGrid.Text.Blank
import DataGrid.Text.Hex

/-!
# Scalars of YAML

The four notations of a scalar: plain, in single or double quotes, and as a block of lines. What
they share is the folding of line breaks: a single break between two words is a space, and of more
breaks the first one is dropped.

## Main definitions

* `DataGrid.Yaml.Cursor` — the text that is left, with the place where it begins.
* `DataGrid.Yaml.Gap` — blanks and line breaks between two words.
* `DataGrid.Yaml.plain?`, `DataGrid.Yaml.quoted?`, `DataGrid.Yaml.block?` — the notations.

## Implementation notes

Line breaks are line feeds and the line and paragraph separators of Unicode; `normalized` turns all
other breaks into line feeds beforehand.
-/

namespace DataGrid.Yaml

/-! ## Characters -/

/-- Blanks inside a line. -/
def isSpace (c : Char) : Bool := c == ' ' || c == '\t'

/-- Line breaks of a normalized text. -/
def isBreak (c : Char) : Bool := c == '\n' || c.toNat == 0x2028 || c.toNat == 0x2029

/-- Whether a text ends here, or goes on with a blank or a line break. -/
def atGap : List Char → Bool
  | [] => true
  | c :: _ => isSpace c || isBreak c

/-- Closed ranges of the code points that may stand in a document. -/
def textRanges : List (Nat × Nat) :=
  [(0x09, 0x0A), (0x0D, 0x0D), (0x20, 0x7E), (0x85, 0x85), (0xA0, 0xD7FF), (0xE000, 0xFFFD),
    (0x10000, 0x10FFFF)]

/-- Whether a character may stand in a document. -/
def isText (c : Char) : Bool := Text.inRanges textRanges c.toNat

/-- Line feeds in place of carriage returns and next-line characters; a carriage return with a line
feed behind it is dropped. Characters found so far come last one first. -/
def normalizedFrom (found : List Char) : List Char → List Char
  | [] => found.reverse
  | c :: rest =>
    if c = '\r' ∧ rest.head? = some '\n' then normalizedFrom found rest
    else normalizedFrom ((if c = '\r' ∨ c.toNat = 0x85 then '\n' else c) :: found) rest

/-- The text with line feeds as its only line breaks, the separators of Unicode apart. -/
def normalized (cs : List Char) : List Char := normalizedFrom [] cs

/-- Whether a line begins with three dashes or dots that stand alone. -/
def atMarker : List Char → Bool
  | a :: b :: c :: rest => a == b && b == c && (a == '-' || a == '.') && atGap rest
  | _ => false

/-! ## Places -/

/-- A place in a text. -/
structure Place where
  /-- The number of octets in front of it, in UTF-8. -/
  index : Nat
  line : Nat
  column : Nat

/-- The place behind a character. -/
def Place.step (p : Place) (c : Char) : Place :=
  if isBreak c then ⟨p.index + c.utf8Size, p.line + 1, 0⟩
  else ⟨p.index + c.utf8Size, p.line, p.column + 1⟩

/-- The text that is left, with the place where it begins. -/
structure Cursor where
  rest : List Char
  place : Place

namespace Cursor

/-- Behind `n` more characters. -/
def skip (k : Cursor) (n : Nat) : Cursor :=
  ⟨k.rest.drop n, (k.rest.take n).foldl Place.step k.place⟩

/-- Behind all characters up to the first one that does not meet a condition. -/
def skipWhile (k : Cursor) (p : Char → Bool) : Cursor := k.skip (k.rest.takeWhile p).length

/-- Behind the line break that stands here, if one does. -/
def skipBreak (k : Cursor) : Cursor := if k.rest.head?.any isBreak then k.skip 1 else k

end Cursor

/-! ## Folding -/

/-- What stands between two words of a scalar. -/
inductive Gap where
  | nothing
  /-- Blanks, the last one first. -/
  | spaces (found : List Char)
  /-- Line breaks: the one that ends the line of the first word, unless it is escaped, and those of
  the empty lines behind it, the last one first. -/
  | breaks (first : Option Char) (more : List Char)

namespace Gap

/-- A blank joins the gap; at the beginning of a line it only indents. -/
def addSpace (c : Char) : Gap → Gap
  | .nothing => .spaces [c]
  | .spaces found => .spaces (c :: found)
  | .breaks first more => .breaks first more

/-- A line break joins the gap; blanks in front of it are lost. -/
def addBreak (c : Char) : Gap → Gap
  | .breaks first more => .breaks first (c :: more)
  | _ => .breaks (some c) []

/-- The text that the gap leaves in the scalar, the last character first. -/
def reversed : Gap → List Char
  | .nothing => []
  | .spaces found => found
  | .breaks none more => more
  | .breaks (some '\n') [] => [' ']
  | .breaks (some '\n') more => more
  | .breaks (some c) more => more ++ [c]

/-- The gap spans a line break. -/
def isBroken : Gap → Bool
  | .breaks _ _ => true
  | _ => false

end Gap

/-! ## Plain scalars -/

/-- Characters that end a plain scalar inside brackets. -/
def isFlowEnd (c : Char) : Bool :=
  c == ',' || c == '[' || c == ']' || c == '\x7b' || c == '\x7d'

/-- A plain scalar as far as it is read. -/
structure Plain where
  /-- The text so far, the last character first. -/
  text : List Char
  gap : Gap

/-- Read on in a plain scalar. It ends at a comment, at a colon with a gap behind it, at a marker,
inside brackets at one of their characters, and outside of them at a line that is indented less
than `indent`. A tab that indents such a line is an error. -/
def plainFrom? (inFlow : Bool) (indent : Nat) (p : Plain) (here : Place) :
    List Char → Option (Plain × Cursor)
  | [] => some (p, ⟨[], here⟩)
  | c :: rest =>
    if isSpace c then
      if p.gap.isBroken && here.column < indent && c == '\t' then none
      else plainFrom? inFlow indent { p with gap := p.gap.addSpace c } (here.step c) rest
    else if isBreak c then
      plainFrom? inFlow indent { p with gap := p.gap.addBreak c } (here.step c) rest
    else
      let atWord := match p.gap with
        | .nothing => false
        | _ => true
      let outdented := p.gap.isBroken && !inFlow && here.column < indent
      let marker := here.column == 0 && atMarker (c :: rest)
      if outdented || marker || (atWord && c == '#') then some (p, ⟨c :: rest, here⟩)
      else if inFlow && c == ':' && rest.head?.any (fun d => isFlowEnd d || d == '?') then none
      else if (c == ':' && atGap rest) || (inFlow && isFlowEnd c) then
        some (p, ⟨c :: rest, here⟩)
      else
        plainFrom? inFlow indent ⟨c :: (p.gap.reversed ++ p.text), .nothing⟩ (here.step c) rest

/-- The plain scalar that begins here, whether it ends on a line of its own, and the place behind
it. -/
def plain? (inFlow : Bool) (indent : Nat) (k : Cursor) : Option (String × Bool × Cursor) :=
  (plainFrom? inFlow indent ⟨[], .nothing⟩ k.place k.rest).map fun (p, after) =>
    (String.ofList p.text.reverse, p.gap.isBroken, after)

/-! ## Quoted scalars -/

/-- The character of a one-letter escape. -/
def escape? (c : Char) : Option Char :=
  match c with
  | '0' => some '\x00'
  | 'a' => some '\x07'
  | 'b' => some '\x08'
  | 't' => some '\t'
  | '\t' => some '\t'
  | 'n' => some '\n'
  | 'v' => some '\x0b'
  | 'f' => some '\x0c'
  | 'r' => some '\r'
  | 'e' => some '\x1b'
  | ' ' => some ' '
  | '"' => some '"'
  | '/' => some '/'
  | '\\' => some '\\'
  | 'N' => some '\u0085'
  | '_' => some '\u00a0'
  | 'L' => some '\u2028'
  | 'P' => some '\u2029'
  | _ => none

/-- The number of digits in an escape by code point. -/
def escapeWidth? (c : Char) : Option Nat :=
  match c with
  | 'x' => some 2
  | 'u' => some 4
  | 'U' => some 8
  | _ => none

/-- What the next character of a quoted scalar belongs to. -/
inductive QuotedMode where
  | plainly
  /-- A quote has been read in single quotes: the end, or the first half of a quote. -/
  | quote
  /-- A backslash has been read. -/
  | escape
  /-- An escape by code point with that many digits to come. -/
  | digits (left value : Nat)

/-- Read on in a quoted scalar. -/
def quotedFrom? (single : Bool) (mode : QuotedMode) (text : List Char) (gap : Gap) (here : Place) :
    List Char → Option (List Char × Cursor)
  | [] =>
    match mode with
    | .quote => some (text, ⟨[], here⟩)
    | _ => none
  | c :: rest =>
    match mode with
    | .quote =>
      if c = '\'' then quotedFrom? single .plainly (c :: text) .nothing (here.step c) rest
      else some (text, ⟨c :: rest, here⟩)
    | .escape =>
      if isBreak c then quotedFrom? single .plainly text (.breaks none []) (here.step c) rest
      else
        match escape? c, escapeWidth? c with
        | some d, _ => quotedFrom? single .plainly (d :: text) .nothing (here.step c) rest
        | none, some width =>
          quotedFrom? single (.digits width 0) text .nothing (here.step c) rest
        | none, none => none
    | .digits left value =>
      match Text.hexValue? c with
      | none => none
      | some d =>
        if left > 1 then
          quotedFrom? single (.digits (left - 1) (16 * value + d)) text .nothing (here.step c) rest
        else
          match Text.scalar? (16 * value + d) with
          | none => none
          | some e => quotedFrom? single .plainly (e :: text) .nothing (here.step c) rest
    | .plainly =>
      if isSpace c then quotedFrom? single .plainly text (gap.addSpace c) (here.step c) rest
      else if isBreak c then quotedFrom? single .plainly text (gap.addBreak c) (here.step c) rest
      else if here.column = 0 && atMarker (c :: rest) then none
      else
        let joined := gap.reversed ++ text
        if single && c == '\'' then quotedFrom? single .quote joined .nothing (here.step c) rest
        else if !single && c == '"' then some (joined, ⟨rest, here.step c⟩)
        else if !single && c == '\\' then
          quotedFrom? single .escape joined .nothing (here.step c) rest
        else quotedFrom? single .plainly (c :: joined) .nothing (here.step c) rest

/-- The scalar whose opening quote stands right in front, and the place behind it. -/
def quoted? (single : Bool) (k : Cursor) : Option (String × Cursor) :=
  (quotedFrom? single .plainly [] .nothing k.place k.rest).map fun (text, after) =>
    (String.ofList text.reverse, after)

/-! ## Block scalars -/

/-- What happens to the line breaks at the end of a block. -/
inductive Chomping where
  /-- The last break of the text stays. -/
  | clip
  /-- No break stays. -/
  | strip
  /-- All breaks stay. -/
  | keep
deriving DecidableEq

/-- The header of a block scalar. -/
structure BlockHeader where
  chomping : Chomping
  /-- The indentation of the block relative to its parent, if it is given. -/
  indent : Option Nat

/-- The chomping named by a sign. -/
def chomping? (c : Char) : Option Chomping :=
  match c with
  | '+' => some .keep
  | '-' => some .strip
  | _ => none

/-- The indentation given by a digit; zero is refused. -/
def indentDigit? (c : Char) : Option Nat :=
  if '1' ≤ c ∧ c ≤ '9' then some (c.toNat - 48) else none

/-- The header of a block scalar and the number of its characters. -/
def blockHeader? : List Char → Option (BlockHeader × Nat)
  | a :: b :: _ =>
    match chomping? a, indentDigit? a, chomping? b, indentDigit? b with
    | some ch, _, _, some n => some (⟨ch, some n⟩, 2)
    | none, some n, some ch, _ => some (⟨ch, some n⟩, 2)
    | some ch, _, _, none => if b = '0' then none else some (⟨ch, none⟩, 1)
    | none, some n, none, _ => some (⟨.clip, some n⟩, 1)
    | none, none, _, _ => if a = '0' then none else some (⟨.clip, none⟩, 0)
  | [a] =>
    match chomping? a, indentDigit? a with
    | some ch, _ => some (⟨ch, none⟩, 1)
    | none, some n => some (⟨.clip, some n⟩, 1)
    | none, none => if a = '0' then none else some (⟨.clip, none⟩, 0)
  | [] => some (⟨.clip, none⟩, 0)

/-- The empty lines in front of a line of a block: their breaks (the last one first), the widest
indentation seen, and the place behind the indentation of the next line. At most `limit` blanks of
a line are indentation; a tab among them is an error. -/
def emptyLines? (limit : Option Nat) (widest : Nat) (breaks : List Char) (k : Cursor) :
    Option (List Char × Nat × Cursor) :=
  let found := (k.rest.takeWhile (· == ' ')).length
  let n := match limit with
    | some most => min found most
    | none => found
  match _h : (k.skip n).rest with
  | [] => some (breaks, max widest n, k.skip n)
  | c :: rest =>
    if c = '\t' ∧ limit.all (n < ·) then none
    else if isBreak c then
      emptyLines? limit (max widest n) (c :: breaks) ⟨rest, (k.skip n).place.step c⟩
    else some (breaks, max widest n, k.skip n)
termination_by k.rest.length
decreasing_by
  have := congrArg List.length _h
  simp only [Cursor.skip, List.length_drop, List.length_cons] at this
  omega

/-- A block scalar as far as it is read. -/
structure Block where
  /-- The text so far, the last character first. -/
  text : List Char
  /-- The break that ended the last line. -/
  ending : Option Char
  /-- The breaks of the empty lines behind it, the last one first. -/
  empty : List Char
  /-- The last line began with a blank; such lines are not folded. -/
  spaced : Bool

namespace Block

/-- The block with one more line. Folding makes a space of a break between two lines that do not
begin with a blank; empty lines between them stay. -/
def addLine (b : Block) (folded : Bool) (line : List Char) : Block :=
  let spaced := line.head?.any isSpace
  let ending := match b.ending with
    | none => []
    | some c =>
      if folded && c == '\n' && !b.spaced && !spaced then if b.empty.isEmpty then [' '] else []
      else [c]
  { text := line.reverse ++ (b.empty ++ (ending ++ b.text)), ending := none, empty := [],
    spaced := spaced }

/-- The text at the end of the block. -/
def finish (b : Block) (chomping : Chomping) : String :=
  let ending := if chomping = .strip then [] else b.ending.toList
  let empty := if chomping = .keep then b.empty else []
  String.ofList (empty ++ (ending ++ b.text)).reverse

end Block

/-- Read on in a block whose lines are indented by `indent`; the cursor stands behind the
indentation of a line. -/
def blockFrom? (folded : Bool) (indent : Nat) : Nat → Block → Cursor → Option (Block × Cursor)
  | 0, b, k => some (b, k)
  | fuel + 1, b, k =>
    if k.place.column != indent || k.rest.isEmpty then some (b, k)
    else
      let line := k.rest.takeWhile fun c => !isBreak c
      let atEnd := k.skip line.length
      let b := { b.addLine folded line with ending := atEnd.rest.head? }
      match emptyLines? (some indent) 0 [] atEnd.skipBreak with
      | none => none
      | some (empty, _, k) => blockFrom? folded indent fuel { b with empty := empty } k

/-- The block scalar whose indicator stands right in front, inside a collection indented by
`parent`, and the place behind it. Without a given indentation, the empty lines and the first other
line decide, but the block is indented more than its parent. -/
def block? (folded : Bool) (parent : Int) (k : Cursor) : Option (String × Cursor) := do
  let (header, size) ← blockHeader? k.rest
  let k := (k.skip size).skipWhile isSpace
  let k := if k.rest.head? = some '#' then k.skipWhile fun c => !isBreak c else k
  if !(k.rest.head?.all isBreak) then none
  else
    let given := header.indent.map fun n => (max parent 0).toNat + n
    let (empty, widest, k) ← emptyLines? given 0 [] k.skipBreak
    let indent := given.getD (max widest (max (parent + 1) 1).toNat)
    let start : Block := { text := [], ending := none, empty := empty, spaced := false }
    let (b, k) ← blockFrom? folded indent (k.rest.length + 1) start k
    return (b.finish header.chomping, k)

end DataGrid.Yaml
