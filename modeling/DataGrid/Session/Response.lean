import DataGrid.Query.Compiled

/-!
# Responses

What a request is answered with: a page of rows with their total number, or all that is needed to
write a file.

## Main definitions

* `DataGrid.Page` — rows and total, with `numbered`.
* `DataGrid.Export` — a file to be written, with `fileName` and `selected`.
* `DataGrid.Response` — either of them.
-/

namespace DataGrid

/-! ## Pages -/

/-- A page of rows, with the number of rows of all pages. -/
structure Page where
  total : UInt64
  rows : List Json

namespace Page

/-- The name of the member that holds the number of a row. -/
def numberName : String := "__index"

/-- Rows numbered from `n` on; only objects can hold a number. -/
def numberFrom (n : UInt64) : List Json → List Json
  | [] => []
  | row :: rest => row.set numberName (.number (.ofUInt64 n)) :: numberFrom (n + 1) rest

/-- The page with every row numbered by its position, when `start` rows stand before it. -/
def numbered (p : Page) (start : UInt64) : Page := { p with rows := numberFrom (start + 1) p.rows }

end Page

/-! ## Exports -/

/-- A file to be written. -/
structure Export where
  format : ExportFormat
  /-- The ids of the columns that are asked for; all, if none is given. -/
  columns : Option (List String)
  definitions : List ExportColumn
  scope : Scope

namespace Export

/-- The name of the file. -/
def fileName (e : Export) : String := "export." ++ e.format.extension

/-- The columns that are asked for, in the order of their definitions. -/
def selected (e : Export) : List ExportColumn :=
  match e.columns with
  | some ids => e.definitions.filter fun d => ids.contains d.field
  | none => e.definitions

/-- The cells of a row. -/
def cells (e : Export) (context : Formatter.Context) (row : Json) : List Json :=
  e.selected.map fun d => d.render context row

end Export

/-- The answer to a request. -/
inductive Response where
  | page (p : Page)
  | file (e : Export)

end DataGrid
