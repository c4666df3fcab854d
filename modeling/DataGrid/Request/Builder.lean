import DataGrid.Json.Basic

/-!
# Building requests

The JSON form of a request, put together step by step. Nothing is checked: a builder can also
produce what is no request.

## Main definitions

* `DataGrid.RequestStep` — one step.
* `DataGrid.RequestStep.apply` — the document after the step.
-/

namespace DataGrid

/-- A step in building a request. -/
inductive RequestStep where
  /-- A filter on a column. -/
  | filter (column : String) (node : Json)
  /-- One more entry of the sort order. -/
  | sort (column direction : String)
  | window (start stop : UInt64)
  /-- A selection on the server side. -/
  | serverSide (selectAll : Bool) (toggled : Json)
  /-- A selection on the client side. -/
  | clientSide (toggled : Json)
  /-- The column whose values are listed. -/
  | column (name : String)
  | customFilters (values : Json)
  | exportAs (format : String)

namespace RequestStep

/-- Several members replaced or added. -/
def setAll (j : Json) (members : List (String × Json)) : Json :=
  members.foldl (fun j m => j.set m.1 m.2) j

/-- A number as JSON. -/
def word (n : UInt64) : Json := .number (.ofUInt64 n)

/-- The document after one more step. A filter joins an object of filters, and a sort entry a list
of entries; in a document that has something else in their place they are lost. -/
def apply (j : Json) : RequestStep → Json
  | .filter name node =>
    match j.get? "filterModel" with
    | some filters => j.set "filterModel" (filters.set name node)
    | none => j.set "filterModel" (.object [(name, node)])
  | .sort name direction =>
    let entry := Json.object [("colId", .string name), ("sort", .string direction)]
    match j.get? "sortModel" with
    | some (.array entries) => j.set "sortModel" (.array (entries ++ [entry]))
    | some _ => j
    | none => j.set "sortModel" (.array [entry])
  | .window start stop => setAll j [("startRow", word start), ("endRow", word stop)]
  | .serverSide selectAll toggled =>
    setAll j [("rowModel", .string "serverSide"), ("selectAll", .bool selectAll),
      ("toggledNodes", toggled)]
  | .clientSide toggled =>
    setAll j [("rowModel", .string "clientSide"), ("toggledNodes", toggled)]
  | .column name => j.set "column" (.string name)
  | .customFilters values => j.set "customFilters" values
  | .exportAs format => j.set "exportFormat" (.string format)

/-- The documents after each step, beginning with an empty one. -/
def states : Json → List RequestStep → List Json
  | _, [] => []
  | j, step :: rest => step.apply j :: states (step.apply j) rest

end RequestStep

end DataGrid
