import DataGrid.Keyed
import DataGrid.Schema.Entity

/-!
# Entities in documents

Entities are read from documents of several formats. What the formats have in common is that a
value can be seen as a record with named fields, as a list, as a text, or as a tag; the rest is
the same for all of them.

## Main definitions

* `DataGrid.RecordView` — how a format shows its values.
* `DataGrid.Entity.read?`, `DataGrid.readEntities?` — reading one entity, and a whole schema.

## Implementation notes

Fields that an entity does not have are ignored. A field that is there must be readable, even if
it has a default. Values are seen in a monad `m` in which reading may fail; a format whose values
have to be looked up counts there how often it does so.
-/

namespace DataGrid

/-- How a document format shows its values. -/
structure RecordView (m : Type → Type) (δ : Type) where
  /-- The fields of a record that are present, out of the given names; a failure if the value is no
  record or repeats one of the fields. -/
  fields? : List String → δ → m (List (String × δ))
  /-- The elements of a list. -/
  items? : δ → m (List δ)
  text? : δ → m String
  /-- The text of an optional field, none if the value means that there is none. -/
  optional? : δ → m (Option String)
  /-- The word that stands for one of several alternatives. -/
  tag? : δ → m String

variable {m : Type → Type} [Monad m] [MonadLiftT Option m] {δ : Type}

namespace RecordView

variable {α : Type}

/-- A field that must be there. -/
def required (read : δ → m α) (name : String) (fields : List (String × δ)) : m α :=
  match Keyed.find? name fields with
  | some d => read d
  | none => liftM (none : Option α)

/-- A field that has a default when it is not there. -/
def orElse (default : α) (read : δ → m α) (name : String) (fields : List (String × δ)) : m α :=
  match Keyed.find? name fields with
  | some d => read d
  | none => pure default

/-- A list whose elements are all readable. -/
def list? (v : RecordView m δ) (read : δ → m α) (d : δ) : m (List α) := do
  (← v.items? d).mapM read

/-- A tag that is known. -/
def tagged? (v : RecordView m δ) (ofTag? : String → Option α) (d : δ) : m α := do
  ofTag? (← v.tag? d)

end RecordView

/-- Read a column. -/
def Column.read? (v : RecordView m δ) (d : δ) : m Column := do
  let fields ← v.fields? ["name", "kind"] d
  return {
    name := ← RecordView.required v.text? "name" fields
    kind := ← RecordView.orElse .text (v.tagged? ColumnKind.ofTag?) "kind" fields }

/-- Read a relation. -/
def Relation.read? (v : RecordView m δ) (d : δ) : m Relation := do
  let fields ← v.fields? ["name", "entity", "kind", "local_key", "foreign_key"] d
  return {
    name := ← RecordView.required v.text? "name" fields
    target := ← RecordView.required v.text? "entity" fields
    kind := ← RecordView.orElse .belongsTo (v.tagged? RelationKind.ofTag?) "kind" fields
    localKey := ← RecordView.required v.text? "local_key" fields
    foreignKey := ← RecordView.required v.text? "foreign_key" fields }

/-- Read an entity. -/
def Entity.read? (v : RecordView m δ) (d : δ) : m Entity := do
  let fields ← v.fields? ["name", "table", "primary_key", "soft_delete", "columns", "relations"] d
  return {
    name := ← RecordView.required v.text? "name" fields
    tableName := ← RecordView.orElse none v.optional? "table" fields
    primaryKey := ← RecordView.orElse "id" v.text? "primary_key" fields
    softDelete := ← RecordView.orElse none v.optional? "soft_delete" fields
    columns := ← RecordView.orElse [] (v.list? (Column.read? v)) "columns" fields
    relations := ← RecordView.orElse [] (v.list? (Relation.read? v)) "relations" fields }

/-- Read the entities of a schema. -/
def readEntities? (v : RecordView m δ) (d : δ) : m (List Entity) := do
  RecordView.orElse [] (v.list? (Entity.read? v)) "entities" (← v.fields? ["entities"] d)

end DataGrid
