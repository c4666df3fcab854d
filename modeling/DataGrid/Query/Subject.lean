import DataGrid.Filter.Value
import DataGrid.Query.Scope
import DataGrid.Schema.Registry

/-!
# Subjects

The rows that a request is about: those of an entity, or those that are related to one row of
another entity.

## Main definitions

* `DataGrid.Subject` — an entity, possibly narrowed to the rows of one parent.
* `DataGrid.Registry.subject`, `DataGrid.Registry.related` — the two ways to a subject.
* `DataGrid.Subject.scope` — the scope that a request starts from.
-/

namespace DataGrid

open Sql

/-- The rows of one parent: those whose column has the parent's key as value. -/
structure Parent where
  column : String
  key : Json

/-- What a request is about. -/
structure Subject where
  entity : Entity
  parent : Option Parent := none

/-- All rows of a registered entity. -/
def Registry.subject (r : Registry) (name : String) : Except Fault Subject := do
  return { entity := ← r.entity name }

/-- The rows that a relation reaches from one row of `parent`, whose local key is `key`. -/
def Registry.related (r : Registry) (parent relation : String) (key : Json) :
    Except Fault Subject := do
  match (← r.entity parent).relation? relation with
  | none => throw (.unknownColumn (parent ++ "." ++ relation))
  | some link => return { entity := ← r.entity link.target, parent := some ⟨link.foreignKey, key⟩ }

namespace Subject

/-- The scope on all rows of the table. -/
def freshScope (e : Entity) : Scope where
  table := e.table
  primaryKey := e.primaryKey
  softDelete := e.softDelete

/-- The scope that a request starts from, restricted to the rows of the parent. The parent's key
must be a scalar. -/
def scope (s : Subject) : Except Fault Scope := do
  let fresh := freshScope s.entity
  match s.parent with
  | none => return fresh
  | some p =>
    let key ← literal p.column p.key
    return fresh.restrictExpr (.compare .eq (fresh.column p.column) (.literal key))

end Subject

end DataGrid
