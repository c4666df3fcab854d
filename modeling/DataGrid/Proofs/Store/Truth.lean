import DataGrid.Sql.Syntax
import Mathlib.Data.List.Basic
import Mathlib.Tactic.Lemma

/-!
# Three-valued truth

The truth values of the store are true, false and unknown, and AND, OR and NOT follow Kleene: a
value is known as soon as the known operands decide it. A restriction keeps a row only when it is
true of the row; false and unknown are alike in that.

## Main definitions

* `DataGrid.Sql.Truth` — a truth value, unknown being `none`.
* `DataGrid.Sql.Truth.conj`, `DataGrid.Sql.Truth.disj`, `DataGrid.Sql.Truth.neg` — AND, OR, NOT.
* `DataGrid.Sql.Junction.fold` — any number of truth values joined by AND or OR.

## Main results

* `DataGrid.Sql.Junction.fold_all_eq_true`, `DataGrid.Sql.Junction.fold_any_eq_true`,
  `DataGrid.Sql.Junction.fold_any_eq_false` — when terms joined by AND, or by OR, are true, and when
  terms joined by OR are false.
* `DataGrid.Sql.Junction.fold_append` — a fold may be cut anywhere.
-/

namespace DataGrid.Sql

/-- A truth value; none is unknown. -/
abbrev Truth := Option Bool

namespace Truth

/-! ## Connectives -/

/-- AND: false beats unknown, and unknown beats true. -/
def conj : Truth → Truth → Truth
  | some true, b => b
  | some false, _ => some false
  | none, b => if b = some false then some false else none

/-- OR: true beats unknown, and unknown beats false. -/
def disj : Truth → Truth → Truth
  | some false, b => b
  | some true, _ => some true
  | none, b => if b = some true then some true else none

/-- NOT: the opposite of unknown is unknown. -/
def neg : Truth → Truth := Option.map not

/-- A truth value or its opposite. -/
def negatedIf (negated : Bool) (a : Truth) : Truth := if negated then neg a else a

/-- A conjunction is true when both operands are. -/
@[simp] theorem conj_eq_true {a b : Truth} :
    conj a b = some true ↔ a = some true ∧ b = some true := by
  rcases a with _ | _ | _ <;> rcases b with _ | _ | _ <;> decide

/-- A disjunction is true when one of the operands is. -/
@[simp] theorem disj_eq_true {a b : Truth} :
    disj a b = some true ↔ a = some true ∨ b = some true := by
  rcases a with _ | _ | _ <;> rcases b with _ | _ | _ <;> decide

/-- A disjunction is false when both operands are. -/
@[simp] theorem disj_eq_false {a b : Truth} :
    disj a b = some false ↔ a = some false ∧ b = some false := by
  rcases a with _ | _ | _ <;> rcases b with _ | _ | _ <;> decide

/-- The opposite of a truth value is true when the value is false, and not when it is unknown. -/
@[simp] theorem neg_eq_true {a : Truth} : neg a = some true ↔ a = some false := by
  rcases a with _ | _ | _ <;> decide

/-- True is neutral behind AND. -/
@[simp] theorem conj_true (a : Truth) : conj a (some true) = a := by
  rcases a with _ | _ | _ <;> rfl

/-- False is neutral behind OR. -/
@[simp] theorem disj_false (a : Truth) : disj a (some false) = a := by
  rcases a with _ | _ | _ <;> rfl

/-- A truth value that is known is told by when it is true. -/
lemma eq_some_decide {a : Truth} (hknown : a ≠ none) {p : Prop} [Decidable p]
    (h : a = some true ↔ p) : a = some (decide p) := by
  rcases a with _ | _ | _
  · exact absurd rfl hknown
  · simpa using h
  · simpa using h

/-- The brackets of a conjunction do not matter. -/
theorem conj_assoc (a b c : Truth) : conj (conj a b) c = conj a (conj b c) := by
  rcases a with _ | _ | _ <;> rcases b with _ | _ | _ <;> rcases c with _ | _ | _ <;> rfl

/-- The brackets of a disjunction do not matter. -/
theorem disj_assoc (a b c : Truth) : disj (disj a b) c = disj a (disj b c) := by
  rcases a with _ | _ | _ <;> rcases b with _ | _ | _ <;> rcases c with _ | _ | _ <;> rfl

end Truth

namespace Junction

/-! ## Joined terms -/

/-- The connective of a junction. -/
def op : Junction → Truth → Truth → Truth
  | .all => Truth.conj
  | .any => Truth.disj

/-- The truth value of a junction without terms. -/
def unit : Junction → Truth
  | .all => some true
  | .any => some false

/-- Truth values joined by AND or OR. -/
def fold (j : Junction) (terms : List Truth) : Truth := terms.foldr j.op j.unit

/-- No truth values come to that of the empty junction. -/
@[simp] theorem fold_nil (j : Junction) : j.fold [] = j.unit := rfl

/-- The first truth value is joined to what the others come to. -/
@[simp] theorem fold_cons (j : Junction) (a : Truth) (terms : List Truth) :
    j.fold (a :: terms) = j.op a (j.fold terms) := rfl

/-- The value of an empty junction is neutral for its connective. -/
@[simp] theorem op_unit (j : Junction) (a : Truth) : j.op a j.unit = a := by
  cases j with
  | all => exact Truth.conj_true a
  | any => exact Truth.disj_false a

/-- The value of an empty junction is neutral in front, too. -/
@[simp] theorem unit_op (j : Junction) (a : Truth) : j.op j.unit a = a := by
  cases j <;> rfl

/-- The brackets of joined terms do not matter. -/
theorem op_assoc (j : Junction) (a b c : Truth) : j.op (j.op a b) c = j.op a (j.op b c) := by
  cases j with
  | all => exact Truth.conj_assoc a b c
  | any => exact Truth.disj_assoc a b c

/-- A junction of two lists of terms is the junction of their junctions. -/
theorem fold_append (j : Junction) (front back : List Truth) :
    j.fold (front ++ back) = j.op (j.fold front) (j.fold back) := by
  induction front with
  | nil => rw [List.nil_append, fold_nil, unit_op]
  | cons a front ih => rw [List.cons_append, fold_cons, fold_cons, ih, op_assoc]

/-- Terms joined by AND are true when all of them are. -/
@[simp] theorem fold_all_eq_true {terms : List Truth} :
    Junction.all.fold terms = some true ↔ ∀ a ∈ terms, a = some true := by
  induction terms with
  | nil => simp [unit]
  | cons a terms ih => rw [fold_cons, List.forall_mem_cons, ← ih]; exact Truth.conj_eq_true

/-- Terms joined by OR are true when one of them is. -/
@[simp] theorem fold_any_eq_true {terms : List Truth} :
    Junction.any.fold terms = some true ↔ ∃ a ∈ terms, a = some true := by
  induction terms with
  | nil => simp [unit]
  | cons a terms ih => rw [fold_cons, List.exists_mem_cons_iff, ← ih]; exact Truth.disj_eq_true

/-- Terms joined by OR are false when all of them are. -/
@[simp] theorem fold_any_eq_false {terms : List Truth} :
    Junction.any.fold terms = some false ↔ ∀ a ∈ terms, a = some false := by
  induction terms with
  | nil => simp [unit]
  | cons a terms ih => rw [fold_cons, List.forall_mem_cons, ← ih]; exact Truth.disj_eq_false

end Junction

end DataGrid.Sql
