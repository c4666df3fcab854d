import DataGrid.Main
import DataGrid.Program.FileTree
import DataGrid.Proofs.Query.Deleted
import DataGrid.Proofs.Query.Pagination
import DataGrid.Proofs.Query.Total
import DataGrid.Request.Builder
import DataGrid.Schema.Wire
import DataGrid.Schema.Zoo
import DataGrid.Session.Calls
import DataGrid.Sql.Expectation
import DataGrid.Proofs.Path.Chains
import DataGrid.Proofs.Query.Chains
import DataGrid.Proofs.Filter.Meaning
import DataGrid.Proofs.Query.Listed
import DataGrid.Proofs.Path.Declared
import DataGrid.Proofs.Query.Identifiers
import DataGrid.Proofs.Filter.Blanking
import DataGrid.Proofs.Query.Literals
import DataGrid.Proofs.Path.Routes
import DataGrid.Proofs.Store.Scoping
import DataGrid.Proofs.Schema.Accepted
import DataGrid.Proofs.Path.Standing
import DataGrid.Proofs.Query.References
import DataGrid.Proofs.Json.Canonical
import DataGrid.Proofs.Json.Fields
import DataGrid.Proofs.Request.Nodes
import DataGrid.Proofs.Request.RoundTrip
import DataGrid.Proofs.Query.Malformed
import DataGrid.Proofs.Session.Runs
import DataGrid.Proofs.Filter.Wrapping
import DataGrid.Proofs.Filter.Operators
import DataGrid.Proofs.Filter.Cells
import DataGrid.Proofs.Decimal.Numerals
import DataGrid.Proofs.Filter.Grammar
import DataGrid.Proofs.Filter.Patterns
import DataGrid.Proofs.Path.Resolution
import DataGrid.Proofs.Schema.Addressable
import DataGrid.Proofs.Query.Selections
import DataGrid.Proofs.Query.Grouping
import DataGrid.Proofs.Session.Numbering
import DataGrid.Proofs.Json.Order
import DataGrid.Proofs.Decimal.Rendering
import DataGrid.Proofs.Session.Values
import DataGrid.Proofs.Json.Text
import DataGrid.Proofs.Json.Equality
import DataGrid.Proofs.Session.Merging
import DataGrid.Proofs.Path.StoredNames
import DataGrid.Proofs.Filter.Integers
import DataGrid.Proofs.Filter.Days
import DataGrid.Proofs.Schema.Runs
import DataGrid.Proofs.Export.Cells
import DataGrid.Proofs.Request.Idle
import DataGrid.Proofs.Schema.Coherent
import DataGrid.Proofs.Json.Preorder
import DataGrid.Proofs.Query.Sorting
