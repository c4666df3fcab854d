import DataGrid.Json.Order
import DataGrid.Query.Compiled

/-!
# Value listings

The distinct values of one column among the rows of a request, as offered by a set filter.

## Main definitions

* `DataGrid.Query.listing` — the listing of the column that the request names.
* `DataGrid.Listing.statement` — its statement.
* `DataGrid.Listing.values` — its values, from the rows of the store.

## Implementation notes

Whole JSON documents have no equality in the store. They are fetched as they are; arrays among them
are taken apart, and the values are sorted and thinned out here.
-/

namespace DataGrid

open Sql

/-- The entry of an allow-list that stands for all columns. -/
def allColumns : String := "*"

/-- The name of the output column of a listing. -/
def valueName : String := "value"

/-- The values of one column among the rows of a scope. -/
structure Listing where
  path : ColumnPath
  scope : Scope

namespace Listing

/-- The statement of a listing: the tables of the path joined to the subject, so that a row without
related rows counts with null. -/
def statement (l : Listing) : Statement :=
  let table := l.scope.table
  let settled := !l.path.isDocument
  .select { Select.rowsOf table with
    distinct := settled
    outputs := [.named (l.path.expr (l.path.leafLabel table)) valueName]
    joins := l.path.joins table
    filter := l.scope.filter?
    orders := if settled then [(.output valueName, .asc)] else [] }

/-! ## Values -/

/-- The value of a row of the store. -/
def valueOf (row : Json) : Json := (row.get? valueName).getD .null

/-- An array taken apart; any other value stands for itself. -/
def elements : Json → List Json
  | .array items => items
  | other => [other]

/-- Whether `a` may stand before `b`. -/
def inOrder (a b : Json) : Bool := Json.compare a b != .gt

/-- Of neighbours that compare equal only the first. -/
def thinned : List Json → List Json
  | [] => []
  | j :: rest => j :: thinnedAfter j rest
where
  /-- The elements after `last` that differ from the one before them. -/
  thinnedAfter (last : Json) : List Json → List Json
    | [] => []
    | j :: rest =>
      if Json.compare j last == .eq then thinnedAfter last rest else j :: thinnedAfter j rest

/-- The values of a listing, from the rows of the store. -/
def values (l : Listing) (rows : List Json) : List Json :=
  let found := rows.map valueOf
  if l.path.isDocument then thinned ((found.flatMap elements).mergeSort inOrder) else found

end Listing

/-- The listing of the column that the request names. The allow-list must hold the column or
`allColumns`. -/
def Query.listing (q : Query) (r : Registry) (allowed : List String) : Except Fault Listing := do
  match q.request.column with
  | none => throw .noListingColumn
  | some column =>
    if allowed.any fun name => name == allColumns || name == column then
      return { path := ← r.resolve q.subject.entity column, scope := q.scope }
    else throw (.listingRefused column)

end DataGrid
