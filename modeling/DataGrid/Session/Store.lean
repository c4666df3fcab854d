import DataGrid.Fault
import DataGrid.Json.Basic
import DataGrid.Sql.Printer

/-!
# Stores

A store that answers every statement with prepared rows or a prepared count, may fail at any
fetch, and keeps a record of what it was asked.

## Main definitions

* `DataGrid.Store` — the store, with `fetchRows` and `fetchCount`.
* `DataGrid.Store.executed` — the statements that were answered.
-/

namespace DataGrid

open Sql

/-- A statement that a store was asked to run. -/
structure Fetch where
  statement : Statement
  /-- Whether the store answered; otherwise it failed. -/
  answered : Bool

/-- A store with prepared answers. -/
structure Store where
  /-- The answer to every statement for rows. -/
  rows : List Json := []
  /-- The answer to every statement for a count. -/
  count : Int := 0
  /-- Whether the fetch with the given number fails; the first one has number zero. -/
  fails : Nat → Bool := fun _ => false
  /-- All fetches so far, in order. -/
  fetches : List Fetch := []

namespace Store

/-- The next fetch fails. -/
def failsNext (s : Store) : Bool := s.fails s.fetches.length

/-- The store after one more fetch. -/
def record (s : Store) (statement : Statement) : Store :=
  { s with fetches := s.fetches ++ [⟨statement, !s.failsNext⟩] }

/-- Answer a statement, unless this fetch fails. -/
def fetch {α : Type} (answer : Store → α) (s : Store) (statement : Statement) :
    Except Fault α × Store :=
  (if s.failsNext then .error .store else .ok (answer s), s.record statement)

/-- Run a statement for rows. -/
def fetchRows (s : Store) (statement : Statement) : Except Fault (List Json) × Store :=
  s.fetch Store.rows statement

/-- Run a statement for a count. -/
def fetchCount (s : Store) (statement : Statement) : Except Fault Int × Store :=
  s.fetch Store.count statement

/-- The texts of the statements that were answered, in order. -/
def executed (s : Store) : List String :=
  (s.fetches.filter Fetch.answered).map fun f => f.statement.text

/-- The last statement that was answered. -/
def lastExecuted? (s : Store) : Option String := s.executed.getLast?

end Store

end DataGrid
