import DataGrid.Filter.Value
import DataGrid.Query.Scope
import DataGrid.Request.Basic

/-!
# Selections

The rows that a user has picked, given by the identities that were toggled: either the toggled
rows themselves, or all rows but those.

## Main definitions

* `DataGrid.Selection` — the mode and the toggled identities.
* `DataGrid.Selection.ofRequest?` — the selection of a request.
* `DataGrid.Scope.select` — the restriction of a scope to a selection.
-/

namespace DataGrid

/-- What toggled rows are. -/
inductive SelectionMode where
  /-- The toggled rows are the selected ones. -/
  | only
  /-- The toggled rows are the ones that are not selected. -/
  | except
deriving DecidableEq

/-- A selection of rows. -/
structure Selection where
  mode : SelectionMode
  toggled : List Json

/-- The selection of a request: none without a row model, and all but the toggled rows only on the
server side with everything selected. -/
def Selection.ofRequest? (r : Request) : Option Selection :=
  r.rowModel.map fun model =>
    { mode := if model = .serverSide ∧ r.selectAll then .except else .only
      toggled := r.toggled }

/-- Restrict a scope to a selection by its primary key. Every identity must be a scalar. -/
def Scope.select (s : Scope) (selection : Selection) : Except Fault Scope := do
  let ids ← selection.toggled.mapM (literal s.primaryKey)
  return match selection.mode with
    | .only => s.keepIn s.primaryKey ids
    | .except => s.keepNotIn s.primaryKey ids

end DataGrid
