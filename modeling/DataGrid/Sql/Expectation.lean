import DataGrid.Text.Segment

/-!
# Expectations on statements

What the text of a statement is expected to look like, and the complaint when it does not.

## Main definitions

* `DataGrid.Sql.Expectation` — the expectations.
* `DataGrid.Sql.Expectation.complaint?` — the complaint about a statement that does not meet one.
-/

namespace DataGrid.Sql

/-- An expectation on the text of a statement. -/
inductive Expectation where
  | contains
  | lacks
  | endsWith
deriving DecidableEq

namespace Expectation

/-- Whether a text meets the expectation with the given fragment. -/
def isMet (e : Expectation) (fragment text : String) : Bool :=
  match e with
  | .contains => Text.contains text fragment
  | .lacks => !Text.contains text fragment
  | .endsWith => Text.endsWith text fragment

/-- How the expectation is worded. -/
def words : Expectation → String
  | .contains => "to contain"
  | .lacks => "to NOT contain"
  | .endsWith => "to end with"

/-- The complaint about a text that does not meet the expectation. -/
def complaint? (e : Expectation) (fragment text : String) : Option String :=
  if e.isMet fragment text then none
  else some ("Expected SQL " ++ e.words ++ " '" ++ fragment ++ "'\nActual: " ++ text)

end Expectation

end DataGrid.Sql
