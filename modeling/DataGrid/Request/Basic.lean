import DataGrid.Json.Basic
import DataGrid.Sql.Syntax

/-!
# Grid requests

What a data grid asks for: filters, a sort order, a window of rows, a selection, the values of one
column, or an export. Tags that choose a behaviour are still plain text here, so that an unknown
one becomes a fault of compilation and not of decoding.

## Main definitions

* `DataGrid.Request` — the request.
* `DataGrid.FilterNode`, `DataGrid.LeafFilter` — the filter tree of one column.
-/

namespace DataGrid

/-! ## Filters -/

/-- A filter on the values of one column. -/
structure LeafFilter where
  /-- The tag of the filter's kind. -/
  filterType : String
  /-- The tag of the operator. -/
  operator : Option String := none
  filter : Option Json := none
  filterTo : Option Json := none
  dateFrom : Option String := none
  dateTo : Option String := none
  /-- The values of a set filter; null selects missing values. -/
  values : List Json := []
  /-- Carried along without effect. -/
  all : Bool := false

/-- A filter tree on one column. -/
inductive FilterNode where
  /-- Nodes joined by the junction that the tag names. -/
  | group (operator : String) (conditions : List FilterNode)
  | leaf (filter : LeafFilter)

/-! ## Other parts -/

/-- One entry of a sort order. -/
structure SortEntry where
  column : String
  direction : Sql.Direction := .asc
deriving DecidableEq

/-- Where the selection was made. -/
inductive RowModel where
  | serverSide
  | clientSide
deriving DecidableEq

/-- The format of an export. -/
inductive ExportFormat where
  | excel
  | csv
  | tsv
deriving DecidableEq

/-- The ending of an exported file. -/
def ExportFormat.extension : ExportFormat → String
  | .excel => "xlsx"
  | .csv => "csv"
  | .tsv => "tsv"

/-- A request of a data grid. -/
structure Request where
  /-- Filter trees by column id, ids ascending. -/
  filters : List (String × FilterNode) := []
  /-- The first entry is the primary sort key. -/
  sorts : List SortEntry := []
  /-- The first row of the window. -/
  startRow : Option UInt64 := none
  /-- The row behind the window. -/
  endRow : Option UInt64 := none
  /-- Rows are restricted to the selection only when a row model is given. -/
  rowModel : Option RowModel := none
  selectAll : Bool := false
  /-- Row identities that differ from the baseline of the selection. -/
  toggled : List Json := []
  /-- Values for the custom filter of the entity. -/
  customFilters : List (String × Json) := []
  /-- The column whose values are listed. -/
  column : Option String := none
  exportFormat : Option ExportFormat := none
  exportColumns : Option (List String) := none

end DataGrid
