import DataGrid.Json.Token

/-!
# Drafts of JSON documents

A draft is the tree of a JSON document as it is written: members in order, repeated keys kept,
and leaves that may turn out to denote nothing. A reader takes the parts that it wants from the
draft and leaves the others unchecked.

## Main definitions

* `DataGrid.Json.Draft` — the tree.
* `DataGrid.Json.Draft.parse?` — the draft of a text.
* `DataGrid.Json.Draft.value?` — the value of a draft, if every leaf has one and the nesting is not
  too deep.
* `DataGrid.Json.parse?` — the canonical value of a text.
-/

namespace DataGrid.Json

/-- A JSON document as written. -/
inductive Draft where
  /-- A word, string or number; none when it denotes no value. -/
  | leaf (value : Option Json)
  | array (items : List Draft)
  /-- Members in order; a key is none when it denotes no string. -/
  | object (members : List (Option String × Draft))

namespace Draft

/-! ## Building the tree -/

/-- An array or object that is still open; its parts are listed last one first. -/
inductive Frame where
  | array (items : List Draft)
  | object (members : List (Option String × Draft))
  /-- An object whose last key has no value yet. -/
  | member (members : List (Option String × Draft)) (key : Option String)

/-- What may come next. -/
inductive Due where
  /-- A value, or the end of an array that has just been opened. -/
  | value (opened : Bool)
  /-- A key, or the end of an object that has just been opened. -/
  | key (opened : Bool)
  | colon
  /-- A comma or the end of the innermost open frame. -/
  | separator
  /-- Nothing: the document is complete. -/
  | nothing (document : Draft)

/-- A document as far as it is read. -/
structure State where
  frames : List Frame
  due : Due

/-- A complete value put where it belongs. -/
def State.complete (d : Draft) : List Frame → Option State
  | [] => some ⟨[], .nothing d⟩
  | .array items :: frames => some ⟨.array (d :: items) :: frames, .separator⟩
  | .member members key :: frames => some ⟨.object ((key, d) :: members) :: frames, .separator⟩
  | .object _ :: _ => none

/-- One token read; none when it may not stand here. -/
def State.step (s : State) (t : Token) : Option State :=
  match s.due, t with
  | .value _, .word v => State.complete (.leaf (some v)) s.frames
  | .value _, .string v => State.complete (.leaf (v.map .string)) s.frames
  | .value _, .number v => State.complete (.leaf (v.map .number)) s.frames
  | .value _, .openArray => some ⟨.array [] :: s.frames, .value true⟩
  | .value _, .openObject => some ⟨.object [] :: s.frames, .key true⟩
  | .value true, .closeArray =>
    match s.frames with
    | .array items :: frames => State.complete (.array items.reverse) frames
    | _ => none
  | .key _, .string k =>
    match s.frames with
    | .object members :: frames => some ⟨.member members k :: frames, .colon⟩
    | _ => none
  | .key true, .closeObject =>
    match s.frames with
    | .object members :: frames => State.complete (.object members.reverse) frames
    | _ => none
  | .colon, .colon => some ⟨s.frames, .value false⟩
  | .separator, .comma =>
    match s.frames with
    | .array _ :: _ => some ⟨s.frames, .value false⟩
    | .object _ :: _ => some ⟨s.frames, .key false⟩
    | _ => none
  | .separator, .closeArray =>
    match s.frames with
    | .array items :: frames => State.complete (.array items.reverse) frames
    | _ => none
  | .separator, .closeObject =>
    match s.frames with
    | .object members :: frames => State.complete (.object members.reverse) frames
    | _ => none
  | _, _ => none

/-- The draft of a sequence of tokens. -/
def ofTokens? (tokens : List Token) : Option Draft := do
  let final ← tokens.foldlM State.step ⟨[], .value false⟩
  match final.due with
  | .nothing document => some document
  | _ => none

/-- The draft of a text; none when the text is malformed. -/
def parse? (s : String) : Option Draft := (Token.scan? s).bind ofTokens?

/-! ## The value of a draft -/

mutual

/-- The value of a draft whose arrays and objects are nested at most `depth` deep. Members keep
their order and repeated keys. -/
def value? (depth : Nat) : Draft → Option Json
  | .leaf value => value
  | .array items =>
    if depth = 0 then none else (valueItems? (depth - 1) items).map .array
  | .object members =>
    if depth = 0 then none else (valueMembers? (depth - 1) members).map .object

/-- The values of all elements. -/
def valueItems? (depth : Nat) : List Draft → Option (List Json)
  | [] => some []
  | d :: rest =>
    match value? depth d, valueItems? depth rest with
    | some v, some vs => some (v :: vs)
    | _, _ => none

/-- The values of all members. -/
def valueMembers? (depth : Nat) : List (Option String × Draft) → Option (List (String × Json))
  | [] => some []
  | (key, d) :: rest =>
    match key, value? depth d, valueMembers? depth rest with
    | some k, some v, some vs => some ((k, v) :: vs)
    | _, _, _ => none

end

end Draft

/-- The deepest nesting of arrays and objects that is read. -/
def maxDepth : Nat := 127

/-- The canonical value of a JSON text. -/
def parse? (s : String) : Option Json :=
  ((Draft.parse? s).bind (Draft.value? maxDepth)).map canonical

end DataGrid.Json
