import DataGrid.Json.Draft
import DataGrid.Json.Record
import DataGrid.Request.Basic

/-!
# Requests on the wire

The JSON form of requests: reading it, writing it, and reading it from text.

## Main definitions

* `DataGrid.FilterNode.ofJson?`, `DataGrid.Request.ofJson?` — reading.
* `DataGrid.FilterNode.toJson`, `DataGrid.Request.toJson` — writing. Absent options are left out;
  collections and flags are always written.
* `DataGrid.Request.ofText?` — reading from text. What the request does not use need only be
  well-formed.

## Implementation notes

A filter node is read as a group if that is possible, and otherwise as a leaf. A group needs the
two fields `operator` and `conditions`, and every condition must be readable; whether it also has
the fields of a leaf plays no role.
-/

namespace DataGrid

open Json (required optional orNull orAbsent fields? tagged? listOf?)

/-! ## Words -/

/-- The spelling of a direction. -/
def Sql.Direction.tag : Sql.Direction → String
  | .asc => "asc"
  | .desc => "desc"

/-- The directions by their spellings. -/
def Sql.Direction.tags : List (String × Sql.Direction) :=
  [("asc", .asc), ("desc", .desc)]

/-- The direction with the given spelling. -/
abbrev Sql.Direction.ofTag? (tag : String) : Option Sql.Direction := Keyed.find? tag tags

/-- The spelling of a row model. -/
def RowModel.tag : RowModel → String
  | .serverSide => "serverSide"
  | .clientSide => "clientSide"

/-- The row models by their spellings. -/
def RowModel.tags : List (String × RowModel) :=
  [("serverSide", .serverSide), ("clientSide", .clientSide)]

/-- The row model with the given spelling. -/
abbrev RowModel.ofTag? (tag : String) : Option RowModel := Keyed.find? tag tags

/-- The spelling of an export format. -/
def ExportFormat.tag : ExportFormat → String
  | .excel => "excel"
  | .csv => "csv"
  | .tsv => "tsv"

/-- The export formats by their spellings. -/
def ExportFormat.tags : List (String × ExportFormat) :=
  [("excel", .excel), ("csv", .csv), ("tsv", .tsv)]

/-- The export format with the given spelling. -/
abbrev ExportFormat.ofTag? (tag : String) : Option ExportFormat := Keyed.find? tag tags

/-! ## Filter nodes -/

/-- A value taken as it is, in canonical form. -/
def plainValue? (j : Json) : Option Json := some j.canonical

/-- The fields of a leaf filter, in order. -/
def LeafFilter.fieldNames : List String :=
  ["filterType", "type", "filter", "filterTo", "dateFrom", "dateTo", "values", "all"]

/-- Read a leaf filter. -/
def LeafFilter.ofJson? (j : Json) : Option LeafFilter := do
  let fields ← fields? fieldNames j
  return {
    filterType := ← required Json.string? "filterType" fields
    operator := ← optional Json.string? "type" fields
    filter := ← optional plainValue? "filter" fields
    filterTo := ← optional plainValue? "filterTo" fields
    dateFrom := ← optional Json.string? "dateFrom" fields
    dateTo := ← optional Json.string? "dateTo" fields
    values := ← orNull [] (listOf? plainValue?) "values" fields
    all := ← orNull false Json.bool? "all" fields }

namespace FilterNode

/-- The fields of a group, in order. -/
def groupFieldNames : List String := ["operator", "conditions"]

/-- The junction tag of a group. -/
def groupOperator? (j : Json) : Option String :=
  (fields? groupFieldNames j).bind (required Json.string? "operator")

mutual

/-- Read a filter node: a group if possible, and otherwise a leaf. -/
def ofJson? (j : Json) : Option FilterNode :=
  match j with
  | .object members =>
    match groupOperator? (.object members), conditionsOf? members with
    | some operator, some conditions => some (.group operator conditions)
    | _, _ => (LeafFilter.ofJson? (.object members)).map .leaf
  | .array [operator, .array conditions] =>
    match groupOperator? (.array [operator, .array conditions]), ofItems? conditions with
    | some operator, some conditions => some (.group operator conditions)
    | _, _ => (LeafFilter.ofJson? (.array [operator, .array conditions])).map .leaf
  | other => (LeafFilter.ofJson? other).map .leaf

/-- The readable conditions of a group, from its members. -/
def conditionsOf? : List (String × Json) → Option (List FilterNode)
  | [] => none
  | (key, .array items) :: rest =>
    if key = "conditions" then ofItems? items else conditionsOf? rest
  | (_, _) :: rest => conditionsOf? rest

/-- All conditions of a list, if each is readable. -/
def ofItems? : List Json → Option (List FilterNode)
  | [] => some []
  | j :: rest =>
    match ofJson? j, ofItems? rest with
    | some node, some nodes => some (node :: nodes)
    | _, _ => none

end

end FilterNode

/-- A member that is written only if there is a value. -/
def present {α : Type} (key : String) (toJson : α → Json) : Option α → List (String × Json)
  | some a => [(key, toJson a)]
  | none => []

/-- Write a leaf filter. -/
def LeafFilter.toJson (f : LeafFilter) : Json :=
  .object (("filterType", .string f.filterType) :: present "type" .string f.operator ++
    present "filter" id f.filter ++ present "filterTo" id f.filterTo ++
    present "dateFrom" .string f.dateFrom ++ present "dateTo" .string f.dateTo ++
    [("values", .array f.values), ("all", .bool f.all)])

mutual

/-- Write a filter node. -/
def FilterNode.toJson : FilterNode → Json
  | .group operator conditions =>
    .object [("operator", .string operator), ("conditions", .array (FilterNode.toItems conditions))]
  | .leaf filter => filter.toJson

/-- Write the conditions of a group. -/
def FilterNode.toItems : List FilterNode → List Json
  | [] => []
  | node :: rest => node.toJson :: FilterNode.toItems rest

end

/-! ## Sort entries -/

/-- The fields of a sort entry, in order. -/
def SortEntry.fieldNames : List String := ["colId", "sort"]

/-- Read a sort entry. -/
def SortEntry.ofJson? (j : Json) : Option SortEntry := do
  let fields ← fields? fieldNames j
  return {
    column := ← required Json.string? "colId" fields
    direction := ← orAbsent .asc (tagged? Sql.Direction.ofTag?) "sort" fields }

/-- Write a sort entry. -/
def SortEntry.toJson (e : SortEntry) : Json :=
  .object [("colId", .string e.column), ("sort", .string e.direction.tag)]

/-! ## Requests -/

namespace Request

/-- The fields of a request, in order. -/
def fieldNames : List String :=
  ["filterModel", "sortModel", "startRow", "endRow", "rowModel", "selectAll", "toggledNodes",
    "customFilters", "column", "exportFormat", "exportColumns"]

/-- Read the filters of a request: the last of equal column ids is kept, but each must be
readable. -/
def filtersOfJson? : Json → Option (List (String × FilterNode))
  | .object members =>
    (members.mapM fun m => (FilterNode.ofJson? m.2).map fun node => (m.1, node)).map Keyed.ofList
  | _ => none

/-- Read the values for the custom filter. -/
def customFiltersOfJson? (j : Json) : Option (List (String × Json)) := j.canonical.object?

/-- Read a request. -/
def ofJson? (j : Json) : Option Request := do
  let fields ← fields? fieldNames j
  return {
    filters := ← orNull [] filtersOfJson? "filterModel" fields
    sorts := ← orNull [] (listOf? SortEntry.ofJson?) "sortModel" fields
    startRow := ← optional Json.uint64? "startRow" fields
    endRow := ← optional Json.uint64? "endRow" fields
    rowModel := ← optional (tagged? RowModel.ofTag?) "rowModel" fields
    selectAll := ← orNull false Json.bool? "selectAll" fields
    toggled := ← orNull [] (listOf? plainValue?) "toggledNodes" fields
    customFilters := ← orNull [] customFiltersOfJson? "customFilters" fields
    column := ← optional Json.string? "column" fields
    exportFormat := ← optional (tagged? ExportFormat.ofTag?) "exportFormat" fields
    exportColumns := ← optional (listOf? Json.string?) "exportColumns" fields }

/-- Write a 64-bit word. -/
def wordToJson (n : UInt64) : Json := .number (.ofUInt64 n)

/-- Write a request. -/
def toJson (r : Request) : Json :=
  .object (
    [("filterModel", .object (r.filters.map fun f => (f.1, f.2.toJson))),
      ("sortModel", .array (r.sorts.map SortEntry.toJson))] ++
    present "startRow" wordToJson r.startRow ++
    present "endRow" wordToJson r.endRow ++
    present "rowModel" (fun m => .string m.tag) r.rowModel ++
    [("selectAll", .bool r.selectAll), ("toggledNodes", .array r.toggled),
      ("customFilters", .object r.customFilters)] ++
    present "column" .string r.column ++
    present "exportFormat" (fun f => .string f.tag) r.exportFormat ++
    present "exportColumns" (fun cs => .array (cs.map .string)) r.exportColumns)

/-! ## Reading from text -/

open Json (Draft)

/-- A draft without the members that a record does not have. All keys must be readable. -/
def dropUnknown? (names : List String) : Draft → Option Draft
  | .object members =>
    if members.any fun m => m.1.isNone then none
    else some (.object (members.filter fun m => m.1.any names.contains))
  | other => some other

/-- The draft of a sort order without unknown members in its entries. -/
def trimSorts? : Draft → Option Draft
  | .array items => (items.mapM (dropUnknown? SortEntry.fieldNames)).map .array
  | other => some other

/-- The draft of a request without unknown members. -/
def trimDraft? (d : Draft) : Option Draft := do
  match ← dropUnknown? fieldNames d with
  | .object members =>
    return .object (← members.mapM fun m =>
      if m.1 = some "sortModel" then (trimSorts? m.2).map fun d => (m.1, d) else some m)
  | .array (filters :: sorts :: rest) => return .array (filters :: (← trimSorts? sorts) :: rest)
  | other => return other

/-- Read a request from text. -/
def ofText? (s : String) : Option Request := do
  let draft ← Draft.parse? s
  let trimmed ← trimDraft? draft
  let value ← trimmed.value? Json.maxDepth
  ofJson? value

end Request

end DataGrid
