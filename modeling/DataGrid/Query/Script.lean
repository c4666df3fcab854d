import DataGrid.Filter.Compile
import DataGrid.Query.Order

/-!
# Running custom filters

A custom filter changes a scope step by step, until a step fails.

## Main definitions

* `DataGrid.givenList` — the values that a request gives for a custom filter.
* `DataGrid.HookStep.run`, `DataGrid.Hook.run` — one step, and a whole custom filter.
-/

namespace DataGrid

open Sql

/-- The literal of a value that a request gives; arrays and objects count as null. -/
def givenLiteral : Json → Literal
  | .bool b => .bool b
  | .number n => n.literal
  | .string s => .string s
  | _ => .null

/-- The literals that a request gives under a key; there are none unless it gives an array. -/
def givenList (given : List (String × Json)) (key : String) : List Literal :=
  match Keyed.find? key given with
  | some (.array items) => items.map givenLiteral
  | _ => []

/-- Whether the request gives a certain value under a key. -/
def isGiven (given : List (String × Json)) (key : String) (value : Json) : Bool :=
  (Keyed.find? key given).any fun j => j.same value

/-- A scope restricted by a filter as a request could bring it. -/
def Scope.filterBy (s : Scope) (r : Registry) (e : Entity) (column : String) (node : FilterNode) :
    Except Fault Scope := do
  let p ← r.resolve e column
  return s.restrict (← node.entry p s.table)

section

variable (r : Registry) (e : Entity) (given : List (String × Json))

mutual

/-- Run one step of a custom filter of the entity `e`. -/
def HookStep.run (s : Scope) : HookStep → Progress
  | .change c => { scope := s.apply c }
  | .keepGiven column key => { scope := s.keepIn column (givenList given key) }
  | .keepNotGiven column key => { scope := s.keepNotIn column (givenList given key) }
  | .filter column node => .ofExcept s (s.filterBy r e column node)
  | .sort entries => s.sort r e entries
  | .select selection => .ofExcept s (s.select selection)
  | .window w => { scope := s.window w }
  | .when key value steps =>
    if isGiven given key value then HookStep.runAll s steps else { scope := s }
  | .tolerate step => { scope := (HookStep.run s step).scope }
  | .fail why => { scope := s, fault := some why }

/-- Run the steps in order, up to the first that fails. -/
def HookStep.runAll (s : Scope) : List HookStep → Progress
  | [] => { scope := s }
  | step :: rest =>
    match HookStep.run s step with
    | ⟨changed, none⟩ => HookStep.runAll changed rest
    | ⟨changed, some f⟩ => ⟨changed, some f⟩

end

/-- Run a custom filter of the entity `e`. -/
def Hook.run (hook : Hook) (s : Scope) : Progress := HookStep.runAll r e given s hook

end

end DataGrid
