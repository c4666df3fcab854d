import DataGrid.Path.Chain
import DataGrid.Query.Scope
import DataGrid.Request.Basic

/-!
# Sort orders

The ordering terms that a sort order puts on a scope. The terms of the request come first, in its
order, and the primary key makes the whole order total.

## Main definitions

* `DataGrid.Progress` — a scope that was changed until a fault stopped it.
* `DataGrid.ColumnPath.orderTerm` — the term of one entry.
* `DataGrid.Scope.sort` — a scope after a sort order was applied.

## Implementation notes

An order that is already there stays only in front of an empty sort order. When an entry addresses
nothing, the old order is gone and the terms of the entries before it are there.
-/

namespace DataGrid

open Sql

/-! ## Interrupted changes -/

/-- A scope after some changes, with the fault that stopped them, if there was one. -/
structure Progress where
  scope : Scope
  fault : Option Fault := none

namespace Progress

/-- Nothing but the scope, if no fault came up. -/
def toExcept (p : Progress) : Except Fault Scope :=
  match p.fault with
  | some f => .error f
  | none => .ok p.scope

/-- Go on with further changes, unless a fault came up. -/
def andThen (p : Progress) (next : Scope → Progress) : Progress :=
  match p.fault with
  | some _ => p
  | none => next p.scope

/-- The outcome of a change that leaves the scope alone when it fails. -/
def ofExcept (s : Scope) : Except Fault Scope → Progress
  | .ok changed => { scope := changed }
  | .error f => { scope := s, fault := some f }

end Progress

/-! ## Ordering terms -/

/-- The ordering term of a path: one value per row of the table. Only a term that orders by a
column of the table itself keeps its name. -/
def ColumnPath.orderTerm (p : ColumnPath) (table : String) (d : Direction) : OrderTerm where
  expr := p.sortKey table d
  direction := d
  column := if p.hasHops || p.isNested then none else some p.leaf

/-- The terms of the entries before the first one that addresses nothing, and its fault. -/
def sortTerms (r : Registry) (e : Entity) (table : String) :
    List SortEntry → List OrderTerm × Option Fault
  | [] => ([], none)
  | entry :: rest =>
    match r.resolve e entry.column with
    | .error f => ([], some f)
    | .ok p =>
      let (terms, fault) := sortTerms r e table rest
      (p.orderTerm table entry.direction :: terms, fault)

namespace Scope

/-- The order completed by the primary key of the entity, unless it orders by it already or rows
are grouped. -/
def breakTies (s : Scope) (e : Entity) : Scope :=
  if s.isOrderedOn e.primaryKey || s.isGrouped then s else s.orderBy e.primaryKey .asc

/-- Apply a sort order to a scope on an entity. -/
def sort (s : Scope) (r : Registry) (e : Entity) (entries : List SortEntry) : Progress :=
  let (terms, fault) := sortTerms r e s.table entries
  let kept := if entries.isEmpty then s.orders else []
  let ordered := { s with orders := kept ++ terms }
  match fault with
  | some f => { scope := ordered, fault := some f }
  | none => { scope := ordered.breakTies e }

end Scope

end DataGrid
