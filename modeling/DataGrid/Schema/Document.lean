import DataGrid.Schema.Record
import DataGrid.Schema.Registry
import DataGrid.Toml.Document
import DataGrid.Yaml.Node

/-!
# Schema documents

Schemas are written as YAML or TOML documents with a list of entities.

## Main definitions

* `DataGrid.SchemaFormat` — the two formats.
* `DataGrid.Yaml.view`, `DataGrid.Toml.view` — how they show their values.
* `DataGrid.SchemaFormat.readRegistry` — the registry of a document.
-/

namespace DataGrid

/-! ## YAML -/

namespace Yaml

/-- The words for null. -/
def isNullWord (s : String) : Bool := s == "~" || s == "null" || s == "Null" || s == "NULL"

/-- The tag of null. -/
def nullTag : Tag := .ofString "tag:yaml.org,2002:null"

/-- A reader of nodes that are no aliases any more, with the number of aliases that may still be
followed. -/
abbrev Following := StateT Nat Option

/-- The node itself, or the node that it stands for as an alias. -/
def follow (targets : Array Node) : Node → Following Node
  | .reference anchor => fun left =>
    match left, targets[anchor]? with
    | left + 1, some n => some (n, left)
    | _, _ => none
  | n => pure n

namespace Node

/-- The text of a scalar of any kind. -/
def text? : Node → Option String
  | .scalar _ _ s => some s
  | _ => none

/-- The text of a scalar unless it stands for nothing: a plain scalar that is empty or a word for
null, without a tag. With the tag of null it must be such a word. -/
def optional? : Node → Option (Option String)
  | .scalar _ false s => some (some s)
  | .scalar none true s => some (if s.isEmpty || isNullWord s then none else some s)
  | .scalar (some tag) true s =>
    if tag != nullTag then some (some s) else if isNullWord s then some none else none
  | _ => none

/-- The elements of a sequence; an empty plain scalar has none. -/
def items? : Node → Option (List Node)
  | .sequence items => some items
  | .scalar _ true "" => some []
  | _ => none

/-- The members of a mapping; an empty plain scalar has none. -/
def members? : Node → Option (List (Node × Node))
  | .mapping members => some members
  | .scalar _ true "" => some []
  | _ => none

/-- The word that a scalar stands for: a tag of the document's own with nothing behind it, or the
text. -/
def tag? : Node → Option String
  | .scalar (some (0x21 :: name)) plain s =>
    match Tag.text? name with
    | some word =>
      if plain && (s.isEmpty || isNullWord s) then some (if word.isEmpty then "!" else word)
      else none
    | none => some s
  | .scalar _ _ s => some s
  | _ => none

end Node

/-- A node seen in some way after following it. -/
def seen {α : Type} (targets : Array Node) (see : Node → Option α) (n : Node) : Following α := do
  (see (← follow targets n) : Option α)

/-- The members of a mapping with one of the given names, none of which may be repeated; all keys
must be scalars. -/
def fields? (targets : Array Node) (names : List String) (n : Node) :
    Following (List (String × Node)) := do
  let members ← seen targets Node.members? n
  let members ← members.mapM fun (key, value) => do
    return (← seen targets Node.text? key, value)
  let known := members.filter fun m => names.contains m.1
  if names.all fun name => (known.filter fun m => m.1 == name).length ≤ 1 then return known
  else failure

/-- How YAML shows its values. -/
def view (targets : Array Node) : RecordView Following Node where
  fields? := fields? targets
  items? := seen targets Node.items?
  text? := seen targets Node.text?
  optional? := seen targets Node.optional?
  tag? := seen targets Node.tag?

/-- The entities of a document. At most a hundred times as many aliases are followed as the document
is long. -/
def Document.entities? (d : Document) : Option (List Entity) :=
  ((readEntities? (view d.targets) d.root).run (100 * d.root.size)).map Prod.fst

end Yaml

/-! ## TOML -/

namespace Toml

namespace Value

/-- The text of a string. -/
def text? : Value → Option String
  | .text s => some s
  | _ => none

/-- The elements of an array. -/
def items? : Value → Option (List Value)
  | .array items => some items
  | .elements tables => some (tables.reverse.map (.table .header))
  | _ => none

/-- The members of a table. -/
def members? : Value → Option Members
  | .inlineTable members => some members
  | .table _ members => some members
  | _ => none

/-- The members of a table with one of the given names, or the elements of an array in the order of
the names. -/
def fields? (names : List String) (v : Value) : Option (List (String × Value)) :=
  match v.members? with
  | some members => some (members.filter fun m => names.contains m.1)
  | none => v.items?.map fun items => names.zip items

/-- Neither members nor elements. -/
def isHollow (v : Value) : Bool := v.members?.any List.isEmpty || v.items?.any List.isEmpty

/-- The word that a value stands for: a string, or the only key of a table with nothing behind
it. -/
def tag? (v : Value) : Option String :=
  match v.text?, v.members? with
  | some s, _ => some s
  | none, some [(key, inner)] => if inner.isHollow then some key else none
  | none, _ => none

end Value

/-- How TOML shows its values. No value stands for a missing one. -/
def view : RecordView Option Value where
  fields? := Value.fields?
  items? := Value.items?
  text? := Value.text?
  optional? := fun v => v.text?.map some
  tag? := Value.tag?

end Toml

/-! ## Documents -/

/-- The formats of schema documents. -/
inductive SchemaFormat where
  | yaml
  | toml
deriving DecidableEq

/-- Why a schema document is refused. -/
inductive DocumentFault where
  /-- It is no document of the format, or not made up of entities. -/
  | malformed (format : SchemaFormat)
  | invalid (why : SchemaFault)
deriving DecidableEq

namespace SchemaFormat

/-- The name of a format. -/
def word : SchemaFormat → String
  | .yaml => "YAML"
  | .toml => "TOML"

/-- The entities that a document declares. -/
def entities? (format : SchemaFormat) (text : String) : Option (List Entity) :=
  match format with
  | .yaml => (Yaml.parse? text).bind Yaml.Document.entities?
  | .toml => (Toml.parse? text).bind fun members =>
    readEntities? Toml.view (.table .header members)

/-- The registry of a document. -/
def readRegistry (format : SchemaFormat) (text : String) : Except DocumentFault Registry :=
  match format.entities? text with
  | none => .error (.malformed format)
  | some entities => (Registry.ofEntities entities).mapError .invalid

end SchemaFormat

/-- The wording of a fault, from the outside in. -/
def DocumentFault.chain : DocumentFault → List String
  | .malformed format => ["invalid " ++ format.word ++ " schema"]
  | .invalid why => ["schema failed validation", (Fault.schema why).message]

end DataGrid
