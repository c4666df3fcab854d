import DataGrid.Query.Script
import DataGrid.Query.Subject

/-!
# Compiled queries

A request is compiled against its subject in a fixed order: the custom filter of the entity, the
filters of the request, its selection, its sort order, its window. Page, total and value listing
are all derived from the one scope that results.

## Main definitions

* `DataGrid.Query` — a request that was compiled, with its scope.
* `DataGrid.Registry.compile` — compile a request.
* `DataGrid.Query.page`, `DataGrid.Query.total` — the statements.
-/

namespace DataGrid

open Sql

/-- A compiled request. -/
structure Query where
  request : Request
  subject : Subject
  scope : Scope

namespace Query

/-- The statement for the rows of the page. -/
def page (q : Query) : Statement := .select q.scope.pageStatement

/-- The statement for the total number of rows. -/
def total (q : Query) : Statement := q.scope.countStatement

end Query

/-! ## Stages -/

/-- Run the custom filter of an entity, if there is one. -/
def Registry.customize (r : Registry) (e : Entity) (given : List (String × Json)) (s : Scope) :
    Progress :=
  match r.hook? e.name with
  | some hook => hook.run r e given s
  | none => { scope := s }

/-- Restrict a scope by the filters of a request. The filter on the column whose values are listed
plays no role. -/
def Scope.filterAll (r : Registry) (e : Entity) (listed : Option String) :
    List (String × FilterNode) → Scope → Except Fault Scope
  | [], s => .ok s
  | (column, node) :: rest, s =>
    if listed = some column then s.filterAll r e listed rest
    else
      match s.filterBy r e column node with
      | .error f => .error f
      | .ok restricted => restricted.filterAll r e listed rest

/-- Restrict a scope to the selection of a request, if there is one. -/
def Scope.selectFrom (s : Scope) (request : Request) : Except Fault Scope :=
  match Selection.ofRequest? request with
  | some selection => s.select selection
  | none => .ok s

/-- Restrict a scope to the window of a request, if there is one. -/
def Scope.windowFrom (s : Scope) (request : Request) : Scope :=
  match Window.ofRequest? request with
  | some w => s.window w
  | none => s

/-- What a request adds to the scope that the custom filter leaves. -/
def Registry.refine (r : Registry) (e : Entity) (request : Request) (s : Scope) :
    Except Fault Scope := do
  let filtered ← s.filterAll r e request.column request.filters
  let selected ← filtered.selectFrom request
  let sorted ← (selected.sort r e request.sorts).toExcept
  return sorted.windowFrom request

/-- Compile a request against a subject. -/
def Registry.compile (r : Registry) (subject : Subject) (request : Request) :
    Except Fault Query := do
  let start ← subject.scope
  let customized ← (r.customize subject.entity request.customFilters start).toExcept
  let scope ← r.refine subject.entity request customized
  return { request := request, subject := subject, scope := scope }

end DataGrid
