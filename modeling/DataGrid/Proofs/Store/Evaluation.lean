import DataGrid.Keyed
import DataGrid.Proofs.Store.Scalars

/-!
# Evaluation of expressions

What an expression is worth in a database. Rows are known by the names that the FROM clauses and
joins around them give them, and the innermost row of a name is the one that counts; a subquery
sees the rows of the queries around it.

## Main definitions

* `DataGrid.Sql.Row`, `DataGrid.Sql.Database` — rows as cells by column name, tables as lists of
  rows.
* `DataGrid.Sql.Env` — what an expression is evaluated in.
* `DataGrid.Sql.Expr.eval` — the cell of an expression.
* `DataGrid.Sql.Expr.truth`, `DataGrid.Sql.Expr.Holds` — the truth value of a restriction.
* `DataGrid.Sql.Condition.IsConjunction` — a plain list of terms joined by AND.

## Main results

* `DataGrid.Sql.Condition.truth_add` — a condition put into another joins its truth value.
* `DataGrid.Sql.Condition.holds_add?` — a condition put into a conjunction has to hold as well.

## Implementation notes

A table is a list in the order in which the store happens to read it. The lookup of one value takes
the first row in that order, as the store may; where a statement must not depend on the choice, it
says so by a hypothesis or quantifies over the orders.
-/

namespace DataGrid.Sql

/-! ## Databases -/

/-- A row: the cell under each column name. -/
abbrev Row (V : Type) := String → Option V

/-- The rows of each table, in the order in which they are read. -/
abbrev Database (V : Type) := String → List (Row V)

/-- Rows by the names they go by, the innermost first. -/
abbrev Frames (V : Type) := List (String × Row V)

/-- What an expression is evaluated in. -/
structure Env (V : Type) where
  frames : Frames V
  /-- The named output columns that an ordering may refer to. -/
  outputs : List (String × Option V) := []
  /-- The rows that an aggregate runs over. -/
  peers : List (Frames V) := []

variable {V : Type}

namespace Env

/-- The cell of a column in the innermost row that goes by the name. -/
def cell (env : Env V) (table name : String) : Option V :=
  (Keyed.find? table env.frames).bind fun row => row name

/-- The cell of an output column. -/
def output (env : Env V) (name : String) : Option V := (Keyed.find? name env.outputs).join

/-- One more row, inside all others. -/
def enter (env : Env V) (label : String) (row : Row V) : Env V where
  frames := (label, row) :: env.frames

/-- The environment with one row only. -/
def ofRow (label : String) (row : Row V) : Env V where
  frames := [(label, row)]

/-- The row that is entered is the innermost one. -/
@[simp] theorem frames_enter (env : Env V) (label : String) (row : Row V) :
    (env.enter label row).frames = (label, row) :: env.frames := rfl

/-- A column of the innermost row. -/
@[simp] theorem cell_ofRow (label name : String) (row : Row V) :
    (ofRow label row).cell label name = row name := by
  simp [cell, ofRow, Keyed.find?]

/-- A column of the row that was entered last. -/
@[simp] theorem cell_enter (env : Env V) (label name : String) (row : Row V) :
    (env.enter label row).cell label name = row name := by
  simp [cell, Keyed.find?]

end Env

/-! ## Expressions -/

section

variable (S : Scalars V) (db : Database V)

mutual

/-- The cell of an expression. -/
def Expr.eval (env : Env V) : Expr → Option V
  | .column table name => env.cell table name
  | .output name => env.output name
  | .literal v => S.literal v
  | .countRows => some (S.ofInt env.peers.length)
  | .extreme pick e => S.extreme pick (env.peers.map fun frames => e.eval { frames := frames })
  | .cast e type => (e.eval env).bind (S.cast type)
  | .member e key asText => (e.eval env).bind (S.member asText key)
  | .compare op left right => S.ofTruth (S.compared op (left.eval env) (right.eval env))
  | .isNull negated e => S.ofTruth (some ((e.eval env).isNone != negated))
  | .isIn negated e values =>
    S.ofTruth (Truth.negatedIf negated (S.isMember (e.eval env) (values.map S.literal)))
  | .like negated e pattern =>
    S.ofTruth (Truth.negatedIf negated (S.matched pattern (e.eval env)))
  | .not e => S.ofTruth (S.truth (e.eval env)).neg
  | .group negated junction terms =>
    S.ofTruth (Truth.negatedIf negated (junction.fold (truths env terms)))
  | .existsIn table label filter =>
    S.ofTruth (some ((db table).any fun row =>
      S.truth (filter.eval (env.enter label row)) == some true))
  | .lookup pick leaf table label joins filter =>
    let rows := (joined ((db table).map fun row => (label, row) :: env.frames) joins).filter
      fun frames => S.truth (filter.eval { frames := frames }) == some true
    let cells := rows.map fun frames => leaf.eval { frames := frames }
    match pick with
    | some extreme => S.extreme extreme cells
    | none => cells.head?.join

/-- The truth values of several expressions. -/
def truths (env : Env V) : List Expr → List Truth
  | [] => []
  | e :: rest => S.truth (e.eval env) :: truths env rest

/-- Rows joined with the rows of further tables that meet the conditions of the joins. -/
def joined (rows : List (Frames V)) : List Join → List (Frames V)
  | [] => rows
  | .mk table label on :: rest =>
    joined
      (rows.flatMap fun frames => ((db table).map fun row => (label, row) :: frames).filter
        fun frames => S.truth (on.eval { frames := frames }) == some true)
      rest

end

/-- The truth value of an expression. -/
def Expr.truth (env : Env V) (e : Expr) : Truth := S.truth (e.eval S db env)

/-- A restriction keeps what it is true of; unknown is not enough. -/
def Expr.Holds (env : Env V) (e : Expr) : Prop := e.truth S db env = some true

/-- Whether an expression holds can be evaluated. -/
instance (env : Env V) (e : Expr) : Decidable (e.Holds S db env) :=
  inferInstanceAs (Decidable (_ = _))

/-- The test that subqueries and joins put their rows to. -/
lemma Expr.beq_some_true (env : Env V) (e : Expr) :
    (S.truth (e.eval S db env) == some true) = decide (e.Holds S db env) := by
  rw [Bool.eq_iff_iff, beq_iff_eq, decide_eq_true_iff]
  rfl

/-- The truth value of a condition. -/
def Condition.truth (env : Env V) (c : Condition) : Truth := c.toExpr.truth S db env

/-- A restriction by a condition keeps what the condition is true of. -/
def Condition.Holds (env : Env V) (c : Condition) : Prop := c.truth S db env = some true

/-- Whether a condition holds can be evaluated. -/
instance (env : Env V) (c : Condition) : Decidable (c.Holds S db env) :=
  inferInstanceAs (Decidable (_ = _))

/-! ## Truth values -/

variable (env : Env V)

/-- The truth values of several expressions, one by one. -/
lemma truths_eq_map (terms : List Expr) :
    truths S db env terms = terms.map (Expr.truth S db env) := by
  induction terms with
  | nil => rfl
  | cons e rest ih => rw [truths, List.map_cons, ih]; rfl

namespace Expr

/-- The truth value of a group. -/
@[simp] theorem truth_group (negated : Bool) (junction : Junction) (terms : List Expr) :
    (group negated junction terms).truth S db env =
      Truth.negatedIf negated (junction.fold (terms.map (Expr.truth S db env))) := by
  rw [truth, eval, Scalars.truth_ofTruth, truths_eq_map]

/-- The truth value of a comparison. -/
@[simp] theorem truth_compare (op : Comparison) (left right : Expr) :
    (compare op left right).truth S db env =
      S.compared op (left.eval S db env) (right.eval S db env) := by
  rw [truth, eval, Scalars.truth_ofTruth]

/-- A test for null is never unknown. -/
@[simp] theorem truth_isNull (negated : Bool) (e : Expr) :
    (isNull negated e).truth S db env = some ((e.eval S db env).isNone != negated) := by
  rw [truth, eval, Scalars.truth_ofTruth]

/-- The truth value of a membership test. -/
@[simp] theorem truth_isIn (negated : Bool) (e : Expr) (values : List Literal) :
    (isIn negated e values).truth S db env =
      Truth.negatedIf negated (S.isMember (e.eval S db env) (values.map S.literal)) := by
  rw [truth, eval, Scalars.truth_ofTruth]

/-- The truth value of a match. -/
@[simp] theorem truth_like (negated : Bool) (e : Expr) (pattern : String) :
    (like negated e pattern).truth S db env =
      Truth.negatedIf negated (S.matched pattern (e.eval S db env)) := by
  rw [truth, eval, Scalars.truth_ofTruth]

/-- The truth value of an opposite. -/
@[simp] theorem truth_not (e : Expr) :
    (Expr.not e).truth S db env = (e.truth S db env).neg := by
  rw [truth, eval, Scalars.truth_ofTruth, truth]

/-- An existence test is true when some row of the table meets the filter, and never unknown. -/
theorem truth_existsIn (table label : String) (filter : Expr) :
    (existsIn table label filter).truth S db env =
      some (decide (∃ row ∈ db table, filter.Holds S db (env.enter label row))) := by
  rw [truth, eval, Scalars.truth_ofTruth, Option.some.injEq, Bool.eq_iff_iff, List.any_eq_true,
    decide_eq_true_iff]
  simp only [beq_some_true, decide_eq_true_iff]

/-- An existence test holds when some row of the table meets the filter. -/
@[simp] theorem holds_existsIn (table label : String) (filter : Expr) :
    (existsIn table label filter).Holds S db env ↔
      ∃ row ∈ db table, filter.Holds S db (env.enter label row) := by
  rw [Holds, truth_existsIn, Option.some.injEq, decide_eq_true_iff]

/-- A test for null holds of null, or of values if it is negated. -/
@[simp] theorem holds_isNull (negated : Bool) (e : Expr) :
    (isNull negated e).Holds S db env ↔ (e.eval S db env).isNone = !negated := by
  rw [Holds, truth_isNull, Option.some.injEq]
  cases negated <;> simp

end Expr

namespace Condition

/-- The truth value of a condition from those of its terms. -/
theorem truth_eq (c : Condition) :
    c.truth S db env =
      Truth.negatedIf c.negated (c.junction.fold (c.terms.map (Expr.truth S db env))) :=
  Expr.truth_group S db env c.negated c.junction c.terms

/-- A condition of one term has its truth value. -/
@[simp] theorem truth_ofExpr (e : Expr) : (ofExpr e).truth S db env = e.truth S db env := by
  rw [truth_eq]
  exact Junction.op_unit .all _

/-- A condition of one term holds when the term does. -/
@[simp] theorem holds_ofExpr (e : Expr) : (ofExpr e).Holds S db env ↔ e.Holds S db env := by
  rw [Condition.Holds, truth_ofExpr, Expr.Holds]

/-- What stands for a condition inside another one has its truth value: a single term loses its
junction, which does not matter to it. -/
theorem truth_asTerm (c : Condition) : c.asTerm.truth S db env = c.truth S db env := by
  unfold asTerm
  split
  · next junction e => rw [truth_eq]; exact (Junction.op_unit junction _).symm
  · rfl

/-- A term put behind the others joins its truth value. -/
theorem truth_addExpr {c : Condition} (h : c.negated = false) (e : Expr) :
    (c.addExpr e).truth S db env =
      c.junction.op (c.truth S db env) (e.truth S db env) := by
  rw [truth_eq, truth_eq, addExpr, h]
  simp only [Truth.negatedIf, Bool.false_eq_true, if_false, List.map_append,
    Junction.fold_append]
  congr 1
  exact Junction.op_unit c.junction _

/-- **A condition put into another** joins its truth value, whatever its own shape is: a lost
junction of a single term is not missed. -/
theorem truth_add {c : Condition} (h : c.negated = false) (d : Condition) :
    (c.add d).truth S db env = c.junction.op (c.truth S db env) (d.truth S db env) := by
  rw [add, truth_addExpr S db env h, truth_asTerm]

/-- A condition on all terms holds when they all do. -/
theorem holds_all_iff {c : Condition} (hn : c.negated = false) (hj : c.junction = .all) :
    c.Holds S db env ↔ ∀ e ∈ c.terms, e.Holds S db env := by
  rw [Holds, truth_eq, hn, hj]
  simp only [Truth.negatedIf, Bool.false_eq_true, if_false, Junction.fold_all_eq_true,
    List.forall_mem_map]
  rfl

end Condition

/-! ## Conjunctions -/

/-- A plain list of terms joined by AND. -/
structure Condition.IsConjunction (c : Condition) : Prop where
  negated : c.negated = false
  junction : c.junction = .all

namespace Condition

variable {c : Condition}

/-- The condition without terms is a conjunction. -/
lemma isConjunction_all : all.IsConjunction := ⟨rfl, rfl⟩

/-- A term put into a conjunction leaves it one. -/
lemma IsConjunction.addExpr? (h : c.IsConjunction) (e : Option Expr) :
    (c.addExpr? e).IsConjunction := by
  cases e with
  | none => exact h
  | some e => exact ⟨h.negated, h.junction⟩

/-- A condition put into a conjunction leaves it one. -/
lemma IsConjunction.add? (h : c.IsConjunction) (d : Option Condition) :
    (c.add? d).IsConjunction := by
  cases d with
  | none => exact h
  | some d => exact ⟨h.negated, h.junction⟩

/-- The condition without terms is true of every row. -/
lemma holds_all : all.Holds S db env :=
  (holds_all_iff S db env rfl rfl).mpr fun _ h => nomatch h

/-- A term put into a conjunction has to hold as well. -/
lemma holds_addExpr? (h : c.IsConjunction) (e : Option Expr) :
    (c.addExpr? e).Holds S db env ↔ c.Holds S db env ∧ ∀ x, e = some x → x.Holds S db env := by
  cases e with
  | none => simp [Condition.addExpr?]
  | some e =>
    rw [Condition.addExpr?, Holds, truth_addExpr S db env h.negated, h.junction, Junction.op,
      Truth.conj_eq_true]
    simp only [Option.some.injEq, forall_eq']
    rfl

/-- A condition put into a conjunction has to hold as well, whatever its own shape is. -/
lemma holds_add? (h : c.IsConjunction) (d : Option Condition) :
    (c.add? d).Holds S db env ↔ c.Holds S db env ∧ ∀ x, d = some x → x.Holds S db env := by
  cases d with
  | none => simp [Condition.add?]
  | some d =>
    rw [Condition.add?, Holds, truth_add S db env h.negated, h.junction, Junction.op,
      Truth.conj_eq_true]
    simp only [Option.some.injEq, forall_eq']
    rfl

end Condition

end

end DataGrid.Sql
