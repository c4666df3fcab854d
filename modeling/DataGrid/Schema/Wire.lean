import DataGrid.Json.Record
import DataGrid.Schema.Record

/-!
# Entities on the wire

The JSON form of entities.

## Main definitions

* `DataGrid.Json.view` — how JSON shows its values.
* `DataGrid.Entity.ofJson?`, `DataGrid.Entity.toJson` — reading and writing an entity.
-/

namespace DataGrid

/-- How JSON shows its values. -/
def Json.view : RecordView Option Json where
  fields? := Json.fields?
  items? := Json.array?
  text? := Json.string?
  optional? := fun j => if j.isNull then some none else (j.string?).map some
  tag? := Json.tagged? some

/-- Write a column. -/
def Column.toJson (c : Column) : Json :=
  .object [("name", .string c.name), ("kind", .string c.kind.tag)]

/-- Write a relation. -/
def Relation.toJson (r : Relation) : Json :=
  .object [("name", .string r.name), ("entity", .string r.target), ("kind", .string r.kind.tag),
    ("local_key", .string r.localKey), ("foreign_key", .string r.foreignKey)]

namespace Entity

/-- Read an entity. -/
def ofJson? (j : Json) : Option Entity := read? Json.view j

/-- A member that is written only if there is a text. -/
def optionalMember (key : String) (text : Option String) : List (String × Json) :=
  text.toList.map fun s => (key, .string s)

/-- Write an entity; what it does not have is left out. -/
def toJson (e : Entity) : Json :=
  .object ([("name", .string e.name)] ++ optionalMember "table" e.tableName ++
    [("primary_key", .string e.primaryKey)] ++ optionalMember "soft_delete" e.softDelete ++
    [("columns", .array (e.columns.map Column.toJson)),
      ("relations", .array (e.relations.map Relation.toJson))])

end Entity

end DataGrid
