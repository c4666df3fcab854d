import DataGrid.Export.Column
import DataGrid.Keyed
import DataGrid.Query.Hook
import DataGrid.Schema.Entity

/-!
# Registries

The entities that requests may address, with the custom filter and the export columns of each.
The three collections are kept by entity name and do not disturb each other.

## Main definitions

* `DataGrid.Registry` — the collections.
* `DataGrid.Registry.register` — add an entity after checking it, or replace it.
* `DataGrid.Registry.validate` — every relation leads to a registered entity, along declared
  columns.
* `DataGrid.Registry.ofEntities` — register all, then validate.
-/

namespace DataGrid

/-- Entities with their custom filters and export columns, by entity name. -/
structure Registry where
  entities : List (String × Entity) := []
  hooks : List (String × Hook) := []
  exports : List (String × List ExportColumn) := []

namespace Registry

/-- The registry without any entity. -/
def empty : Registry := {}

/-! ## Look-up -/

/-- The entity of the given name. -/
def entity? (r : Registry) (name : String) : Option Entity := Keyed.find? name r.entities

/-- The entity of the given name, or the fault that there is none. -/
def entity (r : Registry) (name : String) : Except Fault Entity :=
  match r.entity? name with
  | some e => .ok e
  | none => .error (.unknownEntity name)

/-- The names of all entities, ascending. -/
def entityNames (r : Registry) : List String := Keyed.keys r.entities

/-- The custom filter of an entity. -/
def hook? (r : Registry) (name : String) : Option Hook := Keyed.find? name r.hooks

/-- The export columns of an entity, if any are registered. -/
def exports? (r : Registry) (name : String) : Option (List ExportColumn) :=
  Keyed.find? name r.exports

/-! ## Registration -/

/-- Add an entity after checking it; an entity of the same name is replaced. -/
def register (r : Registry) (e : Entity) : Except SchemaFault Registry := do
  e.check
  return { r with entities := Keyed.insert e.name e r.entities }

/-- Give an entity a custom filter. -/
def registerHook (r : Registry) (name : String) (hook : Hook) : Registry :=
  { r with hooks := Keyed.insert name hook r.hooks }

/-- Give an entity export columns. -/
def registerExports (r : Registry) (name : String) (columns : List ExportColumn) : Registry :=
  { r with exports := Keyed.insert name columns r.exports }

/-! ## Validation -/

/-- Check one relation of an entity: its target is registered, and both keys are declared. -/
def checkRelation (r : Registry) (e : Entity) (relation : Relation) : Except SchemaFault Unit :=
  match r.entity? relation.target with
  | none => .error (.unknownTarget e.name relation.name relation.target)
  | some target =>
    if (e.column? relation.localKey).isNone then
      .error (.undeclaredLocalKey e.name relation.name relation.localKey)
    else if (target.column? relation.foreignKey).isNone then
      .error (.undeclaredForeignKey e.name relation.name target.name relation.foreignKey)
    else .ok ()

/-- Check every relation of every entity. -/
def validate (r : Registry) : Except SchemaFault Unit :=
  r.entities.forM fun e => e.2.relations.forM (r.checkRelation e.2)

/-- Register entities one after the other. -/
def registerAll (r : Registry) (entities : List Entity) : Except SchemaFault Registry :=
  entities.foldlM register r

/-- The registry of a list of entities, with all relations checked. -/
def ofEntities (entities : List Entity) : Except SchemaFault Registry := do
  let r ← registerAll empty entities
  r.validate
  return r

/-! ## Description -/

/-- The description of a registry. -/
def describe (r : Registry) : String :=
  "SchemaRegistry \x7b entities: " ++ Text.listing r.entityNames ++ ", custom_filters: " ++
    Text.listing (Keyed.keys r.hooks) ++ ", export_columns: " ++
    Text.listing (Keyed.keys r.exports) ++ " \x7d"

end Registry

end DataGrid
