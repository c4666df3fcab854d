import DataGrid.Schema.Registry

/-!
# Column paths

A column id is a dotted path. Its leading segments follow relations, the next ones name a column,
and what comes after the name of a JSON column are keys inside the document.

## Main definitions

* `DataGrid.ColumnPath`, `DataGrid.Hop` — what a column id stands for.
* `DataGrid.Registry.resolve` — the path of a column id.
* `DataGrid.ColumnPath.expr` — the value at the end of the path.

## Implementation notes

Relations are followed as far as there are any, even where a column has the same name. The columns
of an entity are looked up by the first declaration of a name.
-/

namespace DataGrid

open Sql

/-- One relation followed, with all that is needed to join the table behind it. -/
structure Hop where
  name : String
  /-- The table that is reached. -/
  table : String
  kind : RelationKind
  /-- The column on the side the hop starts from. -/
  localKey : String
  /-- The column on the side that is reached. -/
  foreignKey : String
  /-- The column that is set in deleted rows of the table that is reached. -/
  softDelete : Option String
deriving DecidableEq

/-- The name under which the table of a hop is joined. -/
def Hop.label (h : Hop) (parent : String) : String := parent ++ "__" ++ h.name

/-- What a column id stands for. -/
structure ColumnPath where
  /-- The column id itself. -/
  id : String
  hops : List Hop
  /-- The column at the end. -/
  leaf : String
  /-- Keys inside the document of a JSON column. -/
  keys : List String
  kind : ColumnKind
deriving DecidableEq

namespace ColumnPath

/-! ## Properties -/

/-- Whether the path follows any relation. -/
def hasHops (p : ColumnPath) : Bool := !p.hops.isEmpty

/-- Whether the column is a JSON document, whole or in part. -/
def isJson (p : ColumnPath) : Bool := p.kind = .json

/-- Whether the path ends inside a JSON document. -/
def isNested (p : ColumnPath) : Bool := !p.keys.isEmpty

/-- Whether the path ends at a JSON document as a whole. -/
def isDocument (p : ColumnPath) : Bool := p.isJson && !p.isNested

/-- Whether the value is text as it is stored. -/
def isTextual (p : ColumnPath) : Bool := p.kind = .text

/-- The names of the relations, joined by dots. -/
def dottedRelation (p : ColumnPath) : String := Text.join '.' (p.hops.map Hop.name)

/-- Whether the path is the given column of the subject itself. -/
def isDirect (p : ColumnPath) (column : String) : Bool :=
  !p.hasHops && !p.isNested && p.leaf == column

/-! ## Values -/

/-- The name of the table that holds the column, when the path starts at `base`. -/
def leafLabel (p : ColumnPath) (base : String) : String :=
  p.hops.foldl (fun label h => h.label label) base

/-- Without relations the column is in the table that the path starts at. -/
theorem leafLabel_of_hops_eq_nil (p : ColumnPath) (h : p.hops = []) (base : String) :
    p.leafLabel base = base := by
  rw [leafLabel, h, List.foldl_nil]

/-- A value inside a document: documents up to the last key, and text there. -/
def memberAt (e : Expr) : List String → Expr
  | [] => e
  | [key] => .member e key true
  | key :: keys => memberAt (.member e key false) keys

/-- The value of the path in the table called `label`. -/
def expr (p : ColumnPath) (label : String) : Expr := memberAt (.column label p.leaf) p.keys

end ColumnPath

/-! ## Resolution -/

/-- The hop along a relation to its target. -/
def Relation.hop (relation : Relation) (target : Entity) : Hop where
  name := relation.name
  table := target.table
  kind := relation.kind
  localKey := relation.localKey
  foreignKey := relation.foreignKey
  softDelete := target.softDelete

/-- Follow relations from an entity as far as there are any: the hops, the entity reached and the
segments that are left. None when a relation leads to an entity that is not registered. -/
def Registry.follow? (r : Registry) (e : Entity) :
    List String → Option (List Hop × Entity × List String)
  | [] => some ([], e, [])
  | segment :: rest =>
    match e.relation? segment with
    | none => some ([], e, segment :: rest)
    | some relation =>
      match r.entity? relation.target with
      | none => none
      | some target =>
        match r.follow? target rest with
        | none => none
        | some (hops, reached, tail) => some (relation.hop target :: hops, reached, tail)

/-- The column that the segments behind the relations name, with the keys inside it. -/
def Entity.leaf? (e : Entity) : List String → Option (Column × List String)
  | [] => none
  | segment :: rest =>
    let whole := (e.column? (Text.join '.' (segment :: rest))).map fun c => (c, [])
    match e.column? segment with
    | some c => if c.kind = .json then some (c, rest) else whole
    | none => whole

/-- The path of a column id that starts at an entity, if there is one. -/
def Registry.path? (r : Registry) (e : Entity) (id : String) : Option ColumnPath :=
  let segments := Text.segments '.' id
  if segments.any String.isEmpty then none
  else
    match r.follow? e segments with
    | none => none
    | some (hops, reached, tail) =>
      match reached.leaf? tail with
      | none => none
      | some (column, keys) =>
        some { id := id, hops := hops, leaf := column.name, keys := keys, kind := column.kind }

/-- The path of a column id that starts at an entity. -/
def Registry.resolve (r : Registry) (e : Entity) (id : String) : Except Fault ColumnPath :=
  match r.path? e id with
  | some p => .ok p
  | none => .error (.unknownColumn id)

end DataGrid
