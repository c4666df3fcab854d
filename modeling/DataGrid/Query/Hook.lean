import DataGrid.Query.Selection
import DataGrid.Query.Window

/-!
# Custom filters

A custom filter belongs to an entity and runs before the filters of a request. It is a script of
steps on the scope, some of which look at the values that the request carries for it.

## Main definitions

* `DataGrid.HookStep`, `DataGrid.Hook` — the scripts.
* `DataGrid.Hook.trashed`, `DataGrid.Hook.tally` — two ready-made custom filters.
-/

namespace DataGrid

open Sql

/-- A step of a custom filter. -/
inductive HookStep where
  /-- An operation on the scope. -/
  | change (c : ScopeChange)
  /-- Keep the rows whose column has one of the values that the request gives under a key. -/
  | keepGiven (column key : String)
  /-- Keep the rows whose column has none of the values that the request gives under a key. -/
  | keepNotGiven (column key : String)
  /-- A filter as a request could bring it. -/
  | filter (column : String) (node : FilterNode)
  /-- A sort order as a request could bring it. -/
  | sort (entries : List SortEntry)
  | select (selection : Selection)
  | window (w : Window)
  /-- Steps that run only if the request gives a certain value under a key. -/
  | when (key : String) (value : Json) (steps : List HookStep)
  /-- A step whose failure is passed over; what it changed before stays. -/
  | tolerate (step : HookStep)
  | fail (why : Fault)

/-- A custom filter. -/
abbrev Hook := List HookStep

namespace Hook

/-- Include deleted rows when the request asks for them. -/
def trashed : Hook := [.when "trashed" (.bool true) [.change .withTrashed]]

/-- One row per species with its count when the request asks for a tally. -/
def tally : Hook :=
  [.when "tally" (.bool true)
    [.change (.groupBy "species"), .change (.addOutput .countRows "flamingo_count"),
      .change (.orderBy "species" .asc)]]

end Hook

end DataGrid
