import DataGrid.Sql.Syntax
import Mathlib.Data.List.Basic
import Mathlib.Tactic.Lemma

/-!
# Statements without their values

A statement is blanked by putting the same constant in the place of all its literals and LIKE
patterns. What is left is its text as it is prepared once for all values: tables, columns, keys
inside documents, operators, and the number of values in each list.

## Main definitions

* `DataGrid.Sql.Expr.blanked`, `DataGrid.Sql.Condition.blanked`, `DataGrid.Sql.Statement.blanked` —
  an expression, a condition and a statement without their values.

## Main results

* `DataGrid.Sql.Condition.blanked_add` — conditions can be blanked before or after one is put into
  another: what a condition becomes inside another one does not depend on values.
-/

namespace DataGrid

/-- What blanking keeps is the same in everything that has the same blanked form. -/
lemma eq_of_blanked {α β : Type} {blank : α → α} (part : α → β) {a b : α} (h : blank a = blank b)
    (hpart : ∀ a, part (blank a) = part a) : part a = part b := by
  rw [← hpart a, h, hpart b]

namespace Sql

/-! ## Expressions -/

mutual

/-- An expression without its values. -/
def Expr.blanked : Expr → Expr
  | .column table name => .column table name
  | .output name => .output name
  | .literal _ => .literal .null
  | .countRows => .countRows
  | .extreme pick e => .extreme pick e.blanked
  | .cast e type => .cast e.blanked type
  | .member e key asText => .member e.blanked key asText
  | .compare op left right => .compare op left.blanked right.blanked
  | .isNull negated e => .isNull negated e.blanked
  | .isIn negated e values => .isIn negated e.blanked (.replicate values.length .null)
  | .like negated e _ => .like negated e.blanked ""
  | .not e => .not e.blanked
  | .group negated junction terms => .group negated junction (blankedTerms terms)
  | .existsIn table label filter => .existsIn table label filter.blanked
  | .lookup pick leaf table label joins filter =>
    .lookup pick leaf.blanked table label (blankedJoins joins) filter.blanked

/-- Several expressions without their values. -/
def blankedTerms : List Expr → List Expr
  | [] => []
  | e :: rest => e.blanked :: blankedTerms rest

/-- Joins without the values in their conditions. -/
def blankedJoins : List Join → List Join
  | [] => []
  | .mk table label on :: rest => .mk table label on.blanked :: blankedJoins rest

end

/-- Several expressions are blanked one by one. -/
lemma blankedTerms_eq_map (terms : List Expr) : blankedTerms terms = terms.map Expr.blanked := by
  induction terms with
  | nil => rfl
  | cons e rest ih => rw [blankedTerms, ih, List.map_cons]

/-! ## Conditions -/

namespace Condition

/-- A condition without its values. -/
def blanked (c : Condition) : Condition := { c with terms := c.terms.map Expr.blanked }

/-- The expression of a condition is blanked by blanking the condition. -/
@[simp] theorem blanked_toExpr (c : Condition) : c.toExpr.blanked = c.blanked.toExpr := by
  rw [toExpr, Expr.blanked, blankedTerms_eq_map]
  rfl

/-- A condition of one term is blanked by blanking the term. -/
@[simp] theorem blanked_ofExpr (e : Expr) : (ofExpr e).blanked = ofExpr e.blanked := rfl

/-- Terms are blanked before or after they are put together. -/
@[simp] theorem blanked_addExpr (c : Condition) (e : Expr) :
    (c.addExpr e).blanked = c.blanked.addExpr e.blanked := by
  simp [blanked, addExpr]

/-- What stands for a condition inside another one is decided by its form alone. -/
@[simp] theorem blanked_asTerm (c : Condition) : c.asTerm.blanked = c.blanked.asTerm := by
  obtain ⟨negated, junction, terms⟩ := c
  cases negated with
  | true => exact blanked_toExpr _
  | false =>
    match terms with
    | [] => exact blanked_toExpr _
    | [_] => rfl
    | _ :: _ :: _ => exact blanked_toExpr _

/-- **Conditions can be blanked** before or after one is put into another. -/
@[simp] theorem blanked_add (c d : Condition) : (c.add d).blanked = c.blanked.add d.blanked := by
  rw [add, blanked_addExpr, blanked_asTerm, add]

/-- So are terms that may be missing. -/
lemma blanked_addExpr? (c : Condition) (o : Option Expr) :
    (c.addExpr? o).blanked = c.blanked.addExpr? (o.map Expr.blanked) := by
  cases o with
  | none => rfl
  | some e => exact blanked_addExpr c e

/-- So are conditions that may be missing. -/
lemma blanked_add? (c : Condition) (o : Option Condition) :
    (c.add? o).blanked = c.blanked.add? (o.map blanked) := by
  cases o with
  | none => rfl
  | some d => exact blanked_add c d

/-- Blanking neither adds terms nor takes them away. -/
@[simp] theorem isEmpty_blanked (c : Condition) : c.blanked.isEmpty = c.isEmpty :=
  List.isEmpty_map

end Condition

/-! ## Statements -/

/-- An item of a SELECT list without its values. -/
def Output.blanked : Output → Output
  | .row table => .row table
  | .expr e => .expr e.blanked
  | .named e name => .named e.blanked name

/-- A statement on one table and the tables joined to it, without its values. Offset and limit are
not values: they are kept. -/
def Select.blanked (s : Select) : Select :=
  { s with
    outputs := s.outputs.map Output.blanked
    joins := blankedJoins s.joins
    filter := s.filter.map Condition.blanked
    groups := s.groups.map Expr.blanked
    orders := s.orders.map fun t => (t.1.blanked, t.2) }

/-- A whole statement without its values. -/
def Statement.blanked : Statement → Statement
  | .select s => .select s.blanked
  | .countOf s label => .countOf s.blanked label

end Sql

end DataGrid
