import DataGrid.Sql.Syntax

/-!
# Scopes

A scope gathers everything that decides which rows of an entity a grid gets: restrictions,
ordering, grouping, extra output columns and a window. The page and its total are two statements
derived from one scope.

## Main definitions

* `DataGrid.Scope` — the gathered query.
* `DataGrid.Scope.restrict` and its companions — the operations on a scope.
* `DataGrid.ScopeChange`, `DataGrid.Scope.apply` — the operations as data.
* `DataGrid.Scope.restriction` — every restriction on the rows, with the guard against deleted rows.
* `DataGrid.Scope.pageStatement`, `DataGrid.Scope.countStatement` — the two statements.
-/

namespace DataGrid

open Sql

/-- One term of an ordering. -/
structure OrderTerm where
  expr : Expr
  direction : Direction
  /-- The column of the subject, if the term orders by one. -/
  column : Option String

/-- The query on one entity as far as it is gathered. -/
structure Scope where
  table : String
  primaryKey : String
  /-- The column that is set in deleted rows. -/
  softDelete : Option String
  /-- Deleted rows are included. -/
  withTrashed : Bool := false
  condition : Condition := .all
  orders : List OrderTerm := []
  /-- The columns by which rows are grouped. -/
  groups : List String := []
  /-- Output columns besides those of the table. -/
  outputs : List (Expr × String) := []
  offset : Option UInt64 := none
  limit : Option UInt64 := none

namespace Scope

/-! ## Operations -/

/-- A column of the table. -/
def column (s : Scope) (name : String) : Expr := .column s.table name

/-- Add a restriction. -/
def restrict (s : Scope) (c : Condition) : Scope := { s with condition := s.condition.add c }

/-- Add a restriction given by one expression. -/
def restrictExpr (s : Scope) (e : Expr) : Scope := s.restrict (.ofExpr e)

/-- Keep the rows whose column has one of the values. -/
def keepIn (s : Scope) (name : String) (values : List Literal) : Scope :=
  s.restrictExpr (.isIn false (s.column name) values)

/-- Keep the rows whose column has none of the values. -/
def keepNotIn (s : Scope) (name : String) (values : List Literal) : Scope :=
  s.restrictExpr (.isIn true (s.column name) values)

/-- Keep the rows whose column is null. -/
def keepNull (s : Scope) (name : String) : Scope :=
  s.restrictExpr (.isNull false (s.column name))

/-- Keep the rows whose column is not null. -/
def keepNotNull (s : Scope) (name : String) : Scope :=
  s.restrictExpr (.isNull true (s.column name))

/-- Append an ordering by a column. -/
def orderBy (s : Scope) (name : String) (d : Direction) : Scope :=
  { s with orders := s.orders ++ [⟨s.column name, d, some name⟩] }

/-- Append an ordering by an expression. -/
def orderByExpr (s : Scope) (e : Expr) (d : Direction) : Scope :=
  { s with orders := s.orders ++ [⟨e, d, none⟩] }

/-- Drop the ordering. -/
def clearOrder (s : Scope) : Scope := { s with orders := [] }

/-- Group the rows by a column as well. -/
def groupBy (s : Scope) (name : String) : Scope := { s with groups := s.groups ++ [name] }

/-- Add an output column. -/
def addOutput (s : Scope) (e : Expr) (name : String) : Scope :=
  { s with outputs := s.outputs ++ [(e, name)] }

/-- Whether rows are grouped. -/
def isGrouped (s : Scope) : Bool := !s.groups.isEmpty

/-- Whether a term of the ordering orders by the given column. -/
def isOrderedOn (s : Scope) (name : String) : Bool :=
  s.orders.any fun t => t.column == some name

end Scope

/-! ## Operations as data -/

/-- One operation on a scope. -/
inductive ScopeChange where
  | restrict (c : Condition)
  | keepIn (column : String) (values : List Literal)
  | keepNotIn (column : String) (values : List Literal)
  | keepNull (column : String)
  | keepNotNull (column : String)
  | orderBy (column : String) (d : Direction)
  | orderByExpr (e : Expr) (d : Direction)
  | clearOrder
  | groupBy (column : String)
  | addOutput (e : Expr) (name : String)
  | offset (n : UInt64)
  | limit (n : UInt64)
  | withTrashed

namespace Scope

/-- Apply one operation. -/
def apply (s : Scope) : ScopeChange → Scope
  | .restrict c => s.restrict c
  | .keepIn column values => s.keepIn column values
  | .keepNotIn column values => s.keepNotIn column values
  | .keepNull column => s.keepNull column
  | .keepNotNull column => s.keepNotNull column
  | .orderBy column d => s.orderBy column d
  | .orderByExpr e d => s.orderByExpr e d
  | .clearOrder => s.clearOrder
  | .groupBy column => s.groupBy column
  | .addOutput e name => s.addOutput e name
  | .offset n => { s with offset := some n }
  | .limit n => { s with limit := some n }
  | .withTrashed => { s with withTrashed := true }

/-! ## Statements -/

/-- The guard against deleted rows, unless they are included. -/
def guard? (s : Scope) : Option Expr :=
  match s.softDelete, s.withTrashed with
  | some name, false => some (.isNull false (s.column name))
  | _, _ => none

/-- Every restriction on the rows, the guard against deleted rows last. -/
def restriction (s : Scope) : Condition := s.condition.addExpr? s.guard?

/-- The restriction as a filter, if there is anything to filter. -/
def filter? (s : Scope) : Option Condition :=
  if s.restriction.isEmpty then none else some s.restriction

/-- The group columns. -/
def groupColumns (s : Scope) : List Expr := s.groups.map s.column

/-- The rows of the table, filtered and grouped, without output. -/
def rows (s : Scope) : Select :=
  { Select.rowsOf s.table with filter := s.filter?, groups := s.groupColumns }

/-- The page: whole rows, or the group columns of a grouped scope, with ordering and window. -/
def pageStatement (s : Scope) : Select :=
  { s.rows with
    outputs :=
      (if s.isGrouped then s.groupColumns.map .expr else [.row s.table]) ++
        s.outputs.map fun o => .named o.1 o.2
    orders := s.orders.map fun t => (t.expr, t.direction)
    offset := s.offset
    limit := s.limit }

/-- The name of the table that a grouped scope is counted through. -/
def countLabel : String := "grid_count"

/-- The total: ordering and window play no role. A grouped scope counts its groups. -/
def countStatement (s : Scope) : Statement :=
  if s.isGrouped then
    .countOf { s.rows with outputs := s.groupColumns.map .expr } countLabel
  else .select { s.rows with outputs := [.expr .countRows] }

end Scope

end DataGrid
