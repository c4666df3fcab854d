import DataGrid.Proofs.Filter.Meaning
import DataGrid.Proofs.Filter.Operators

/-!
# The cells that leaf filters select

What a compiled leaf filter is worth on a row depends on one cell, that of its column, and on the
operands of the filter. The operators on text, numbers and days are described as operations on that
cell; what they have in common, and how they go together, is then told without looking at conditions
any more.

## Main definitions

* `DataGrid.ColumnPath.textCell`, `numberCell`, `dateCell` — the cell of a column as the kinds of
  filters compare it.
* `DataGrid.TextOperator.truth`, `DataGrid.NumberOperator.truth`, `DataGrid.DateOperator.truth` —
  what an operator is worth on a cell.
* `DataGrid.LeafFilter.Selects` — the cells that a leaf filter selects.

## Main results

* `DataGrid.LeafFilter.truth_of_compileText`, `truth_of_compileNumber`, `truth_of_compileDate` — a
  compiled leaf is worth what its operator is worth.
* `DataGrid.LeafFilter.selects_of_compile` — what every leaf filter that compiles selects.

## Implementation notes

Casts are operations of the store and take null to null. They may take a value to null, too, and
then the comparison of a cell that is not null is unknown; statements about all cells that are not
null therefore say whether they mean the cell before or after the cast.
-/

namespace DataGrid

open Sql

variable {V : Type} (S : Scalars V) (db : Database V)

/-! ## Comparisons -/

namespace Sql.Scalars

/-- Of a comparison and its opposite one is true, where both sides are values. -/
lemma compared_ne_eq_true {a : Option V} (ha : a ≠ none) (w : V) :
    S.compared .ne a (some w) = some true ↔ ¬ S.compared .eq a (some w) = some true := by
  obtain ⟨v, rfl⟩ := Option.ne_none_iff_exists'.mp ha
  simp [compared, Comparison.holds]

/-- At least is turned around. -/
lemma compared_ge_eq_true {a b : Option V} : S.compared .ge a b = some true ↔
    ∃ v w, a = some v ∧ b = some w ∧ (S.order w v).isLE := by
  cases a with
  | none => simp [compared]
  | some v =>
    cases b with
    | none => simp [compared]
    | some w =>
      have hswap : S.order w v = (S.order v w).swap := Std.OrientedCmp.eq_swap
      cases h : S.order v w <;> simp [compared, Comparison.holds, hswap, h]

/-- A cell is at most another one when both have values and these are in order. -/
lemma compared_le_eq_true {a b : Option V} : S.compared .le a b = some true ↔
    ∃ v w, a = some v ∧ b = some w ∧ (S.order v w).isLE := by
  cases a with
  | none => simp [compared]
  | some v =>
    cases b with
    | none => simp [compared]
    | some w => cases h : S.order v w <;> simp [compared, Comparison.holds, h]

/-- Equal is what is neither before nor behind. -/
lemma compared_eq_conj (a b : Option V) :
    S.compared .eq a b = (S.compared .ge a b).conj (S.compared .le a b) := by
  cases a with
  | none => rfl
  | some v =>
    cases b with
    | none => rfl
    | some w =>
      rw [compared, compared, compared]
      cases S.order v w <;> rfl

end Sql.Scalars

/-! ## Cells as they are compared -/

namespace ColumnPath

/-- The cell of a column, as text filters compare it. -/
def textCell (p : ColumnPath) (cell : Option V) : Option V :=
  if p.isTextual || p.isNested then cell else cell.bind (S.cast "text")

/-- The cell of a column, as number filters compare it. -/
def numberCell (p : ColumnPath) (cell : Option V) : Option V :=
  if p.isJson then cell.bind (S.cast "numeric") else cell

/-- The cell of a column, as date filters compare it. -/
def dateCell (cell : Option V) : Option V := cell.bind (S.cast "date")

variable (p : ColumnPath)

/-- Null stays null for every kind of filter. -/
@[simp] lemma textCell_none : p.textCell S none = none := by
  rw [textCell]
  split <;> rfl

/-- Null stays null as a number. -/
@[simp] lemma numberCell_none : p.numberCell S none = none := by
  rw [numberCell]
  split <;> rfl

/-- Null stays null as a day. -/
@[simp] lemma dateCell_none : dateCell S none = none := rfl

end ColumnPath

/-! ## Operators on cells -/

/-- What a text operator is worth on a cell, `text` being the cell as it is compared. -/
def TextOperator.truth (operator : TextOperator) (value : String) (cell text : Option V) : Truth :=
  match operator with
  | .equals => S.compared .eq text (some (S.ofText value))
  | .notEqual => S.compared .ne text (some (S.ofText value))
  | .contains => S.matched ("%" ++ escapeWildcards value ++ "%") text
  | .notContains => (S.matched ("%" ++ escapeWildcards value ++ "%") text).neg
  | .startsWith => S.matched (escapeWildcards value ++ "%") text
  | .endsWith => S.matched ("%" ++ escapeWildcards value) text
  | .blank => some cell.isNone
  | .notBlank => some (!cell.isNone)

/-- What a number operator is worth on a cell, `number` being the cell as it is compared. -/
def NumberOperator.truth (operator : NumberOperator) (value upper : Literal)
    (cell number : Option V) : Truth :=
  match operator with
  | .equals => S.compared .eq number (S.literal value)
  | .notEqual => S.compared .ne number (S.literal value)
  | .greaterThan => S.compared .gt number (S.literal value)
  | .greaterThanOrEqual => S.compared .ge number (S.literal value)
  | .lessThan => S.compared .lt number (S.literal value)
  | .lessThanOrEqual => S.compared .le number (S.literal value)
  | .inRange =>
    (S.compared .ge number (S.literal value)).conj (S.compared .le number (S.literal upper))
  | .blank => some cell.isNone
  | .notBlank => some (!cell.isNone)

/-- What a date operator is worth on a cell, `day` being the cell as it is compared. -/
def DateOperator.truth (operator : DateOperator) (start stop : String) (cell day : Option V) :
    Truth :=
  match operator with
  | .equals => S.compared .eq day (some (S.ofText start))
  | .notEqual => S.compared .ne day (some (S.ofText start))
  | .greaterThan => S.compared .ge day (some (S.ofText start))
  | .lessThan => S.compared .le day (some (S.ofText start))
  | .inRange =>
    (S.compared .ge day (some (S.ofText start))).conj (S.compared .le day (some (S.ofText stop)))
  | .blank => some cell.isNone
  | .notBlank => some (!cell.isNone)

/-- A listed value is equal to a cell: both are there, and the store takes them for equal. -/
def Json.EqualsCell (column : String) (cell : Option V) (j : Json) : Prop :=
  ∃ l v w, literal column j = .ok l ∧ cell = some v ∧ S.literal l = some w ∧ S.order v w = .eq

/-- A listed value is different from a cell: both are there, and the store tells them apart. -/
def Json.DiffersFromCell (column : String) (cell : Option V) (j : Json) : Prop :=
  ∃ l v w, literal column j = .ok l ∧ cell = some v ∧ S.literal l = some w ∧ S.order v w ≠ .eq

section

variable {column : String} {listed : List Json} {values : List Literal}
variable (h : listed.mapM (literal column) = .ok values) {cell : Option V}
include h

/-- A cell is a member of the literals of listed values when one of these is equal to it. -/
lemma isMember_eq_true : S.isMember cell (values.map S.literal) = some true ↔
    ∃ j ∈ listed, j.EqualsCell S column cell := by
  have hread := forall₂_of_mapM_eq_ok h
  simp only [Scalars.isMember, Junction.fold_any_eq_true, List.mem_map, exists_exists_and_eq_and,
    Scalars.compared_eq_true]
  constructor
  · rintro ⟨l, hl, v, w, hv, hw, heq⟩
    obtain ⟨j, hj, hliteral⟩ := exists_of_mem_forall₂ hread hl
    exact ⟨j, hj, l, v, w, hliteral, hv, hw, heq⟩
  · rintro ⟨j, hj, l, v, w, hliteral, hv, hw, heq⟩
    obtain ⟨l', hl', hliteral'⟩ := exists_of_mem_forall₂ hread.flip hj
    obtain rfl := Except.ok.inj (hliteral.symm.trans hliteral')
    exact ⟨l, hl', v, w, hv, hw, heq⟩

/-- It is none of them when all listed values are different from it. -/
lemma isMember_eq_false : S.isMember cell (values.map S.literal) = some false ↔
    ∀ j ∈ listed, j.DiffersFromCell S column cell := by
  have hread := forall₂_of_mapM_eq_ok h
  simp only [Scalars.isMember, Junction.fold_any_eq_false, List.forall_mem_map,
    Scalars.compared_eq_false]
  constructor
  · intro hall j hj
    obtain ⟨l, hl, hliteral⟩ := exists_of_mem_forall₂ hread.flip hj
    obtain ⟨v, w, hv, hw, hne⟩ := hall l hl
    exact ⟨l, v, w, hliteral, hv, hw, hne⟩
  · intro hall l hl
    obtain ⟨j, hj, hliteral⟩ := exists_of_mem_forall₂ hread hl
    obtain ⟨l', v, w, hliteral', hv, hw, hne⟩ := hall j hj
    obtain rfl := Except.ok.inj (hliteral.symm.trans hliteral')
    exact ⟨v, w, hv, hw, hne⟩

end

/-- Null is equal to no cell. -/
lemma Json.not_equalsCell_null {column : String} {cell : Option V} :
    ¬ Json.EqualsCell S column cell .null := by
  rintro ⟨l, v, w, hliteral, -, hw, -⟩
  obtain rfl := Except.ok.inj hliteral
  cases hw

namespace LeafFilter

variable {f : LeafFilter} {p : ColumnPath} {label : String} {c : Condition} {env : Env V}
  {row : Row V}

/-! ## Compiled leaves -/

/-- Two terms are worth what the junction makes of them. -/
lemma truth_pair (junction : Junction) (first second : Expr) :
    (((Condition.mk false junction []).addExpr first).addExpr second).truth S db env =
      junction.op (first.truth S db env) (second.truth S db env) := by
  rw [Condition.truth_addExpr S db env rfl, Condition.truth_addExpr S db env rfl,
    FilterNode.truth_empty]
  exact congrArg (junction.op · _) (Junction.unit_op junction _)

/-- A cell is a member of the literals of a set filter when a listed value is equal to it. -/
lemma isMember_literals {values : List Literal} (h : f.literals p = .ok values) {cell : Option V} :
    S.isMember cell (values.map S.literal) = some true ↔
      ∃ j ∈ f.values, j.EqualsCell S p.id cell := by
  rw [isMember_eq_true S h]
  constructor
  · rintro ⟨j, hj, hequal⟩
    exact ⟨j, List.mem_of_mem_filter hj, hequal⟩
  · rintro ⟨j, hj, hequal⟩
    have hvalue : j.isNull = false := by
      cases j with
      | null => exact absurd hequal (Json.not_equalsCell_null S)
      | _ => rfl
    exact ⟨j, List.mem_filter.mpr ⟨hj, by rw [hvalue]; rfl⟩, hequal⟩

/-- A set filter selects null when null is listed. -/
lemma selectsNull_iff : f.selectsNull = true ↔ .null ∈ f.values := by
  rw [selectsNull, List.any_eq_true]
  constructor
  · rintro ⟨j, hj, hnull⟩
    cases j <;> cases hnull
    exact hj
  · intro hnull
    exact ⟨.null, hnull, rfl⟩

section

variable (hrow : Keyed.find? label env.frames = some row)
include hrow

/-- The column as text has the cell of the row as text. -/
lemma eval_textExpr : (textExpr p label).eval S db env = p.textCell S (p.value S row) := by
  rw [textExpr, ColumnPath.textCell]
  split
  · exact p.eval_expr S db hrow
  · rw [Expr.eval, p.eval_expr S db hrow]

/-- The column as a number has the cell of the row as a number. -/
lemma eval_numberExpr : (numberExpr p label).eval S db env = p.numberCell S (p.value S row) := by
  rw [numberExpr, ColumnPath.numberCell]
  split
  · rw [Expr.eval, p.eval_expr S db hrow]
  · exact p.eval_expr S db hrow

/-- Only whole documents have no days. -/
lemma eval_of_dateExpr {column : Expr} (h : dateExpr p label = .ok column) :
    p.isDocument = false ∧
      column.eval S db env = ColumnPath.dateCell S (p.value S row) := by
  rw [dateExpr] at h
  split at h
  · cases h
  · next hscalar =>
    rw [← Except.ok.inj h, Expr.eval, p.eval_expr S db hrow]
    exact ⟨Bool.eq_false_iff.mpr hscalar, rfl⟩

/-- All kinds of filters test for null alike. -/
lemma truth_blank :
    (Condition.ofExpr (.isNull false (p.expr label))).truth S db env =
      some (p.value S row).isNone := by
  rw [Condition.truth_ofExpr, Expr.truth_isNull, p.eval_expr S db hrow, Bool.bne_false]

/-- The test for a value is true of every cell that is not null. -/
lemma truth_notBlank :
    (Condition.ofExpr (.isNull true (p.expr label))).truth S db env =
      some (!(p.value S row).isNone) := by
  rw [Condition.truth_ofExpr, Expr.truth_isNull, p.eval_expr S db hrow, Bool.bne_true]

/-- **A text filter** is worth what its operator is worth on the cell of its column. -/
theorem truth_of_compileText (h : f.compileText p label = .ok c) :
    ∃ (operator : TextOperator) (value : String), f.operator = some operator.tag ∧
      (operator ≠ .blank → operator ≠ .notBlank → textOperand p.id f.filter = .ok value) ∧
      c.truth S db env =
        operator.truth S value (p.value S row) (p.textCell S (p.value S row)) := by
  have htext := eval_textExpr (p := p) S db hrow
  unfold compileText at h
  obtain ⟨tag, hoperator, h⟩ := bind_eq_ok.mp h
  obtain ⟨operator, htag, h⟩ := bind_eq_ok.mp h
  have hread : f.operator = some operator.tag :=
    operator_of_readTag TextOperator.isTagTable hoperator htag
  cases operator with
  | blank =>
    refine ⟨.blank, "", hread, by simp, ?_⟩
    rw [← pure_eq_ok.mp h]
    exact truth_blank S db hrow
  | notBlank =>
    refine ⟨.notBlank, "", hread, by simp, ?_⟩
    rw [← pure_eq_ok.mp h]
    exact truth_notBlank S db hrow
  | equals | notEqual =>
    obtain ⟨value, hvalue, h⟩ := bind_eq_ok.mp h
    refine ⟨_, value, hread, fun _ _ => hvalue, ?_⟩
    rw [← pure_eq_ok.mp h, Condition.truth_ofExpr, Expr.truth_compare, htext]
    rfl
  | contains | notContains | startsWith | endsWith =>
    obtain ⟨pattern, hpattern, h⟩ := bind_eq_ok.mp h
    obtain ⟨value, hvalue, rfl⟩ := map_eq_ok.mp hpattern
    refine ⟨_, value, hread, fun _ _ => hvalue, ?_⟩
    rw [← pure_eq_ok.mp h, Condition.truth_ofExpr, Expr.truth_like, htext]
    rfl

/-- **A set filter** selects null if null is listed, and the values that are equal to a listed one.

**Proof sketch.** The condition is a test for membership, a test for null or both joined by OR; a
test that is left out is one that would select nothing. -/
theorem holds_of_compileSet (h : f.compileSet p label = .ok c) :
    c.Holds S db env ↔ p.value S row = none ∧ .null ∈ f.values ∨
      ∃ j ∈ f.values, j.EqualsCell S p.id (p.value S row) := by
  have heval := p.eval_expr S db hrow
  unfold compileSet at h
  split at h
  · cases h
  · obtain ⟨values, hvalues, h⟩ := bind_eq_ok.mp h
    have hmember : (Expr.isIn false (p.expr label) values).truth S db env = some true ↔
        ∃ j ∈ f.values, j.EqualsCell S p.id (p.value S row) := by
      rw [Expr.truth_isIn, heval]
      exact isMember_literals S hvalues
    have hnull : (Expr.isNull false (p.expr label)).truth S db env = some true ↔
        p.value S row = none := by
      rw [Expr.truth_isNull, heval, Bool.bne_false, Option.some.injEq, Option.isNone_iff_eq_none]
    rw [← selectsNull_iff, Condition.Holds, ← pure_eq_ok.mp h]
    split
    · next hempty hselects =>
      have hnone : ¬ ∃ j ∈ f.values, j.EqualsCell S p.id (p.value S row) := by
        rw [← hmember, List.isEmpty_iff.mp hempty, Expr.truth_isIn]
        intro htrue
        cases htrue
      rw [Condition.truth_ofExpr, hnull, hselects]
      simp [hnone]
    · next hselects =>
      have heither : ((Condition.any.addExpr (.isIn false (p.expr label) values)).addExpr
          (.isNull false (p.expr label))).truth S db env = Junction.any.op _ _ :=
        truth_pair S db .any _ _
      rw [heither, Junction.op, Truth.disj_eq_true, hmember, hnull, hselects]
      simp [or_comm]
    · next hselects =>
      rw [Condition.truth_ofExpr, hmember, hselects]
      simp

/-- A comparison with a number compares the cell as a number with the operand. -/
lemma truth_of_compareNumber {op : Comparison} (h : f.compareNumber p label op = .ok c) :
    ∃ value, numberOperand p.id .filter f.filter = .ok value ∧
      c.truth S db env = S.compared op (p.numberCell S (p.value S row)) (S.literal value) := by
  obtain ⟨value, hvalue, h⟩ := bind_eq_ok.mp h
  refine ⟨value, hvalue, ?_⟩
  rw [← pure_eq_ok.mp h, Condition.truth_ofExpr, Expr.truth_compare, eval_numberExpr S db hrow]
  rfl

/-- **A number filter** is worth what its operator is worth on the cell of its column. -/
theorem truth_of_compileNumber (h : f.compileNumber p label = .ok c) :
    ∃ (operator : NumberOperator) (value upper : Literal), f.operator = some operator.tag ∧
      (operator ≠ .blank → operator ≠ .notBlank →
        numberOperand p.id .filter f.filter = .ok value) ∧
      (operator = .inRange → numberOperand p.id .filterTo f.filterTo = .ok upper) ∧
      c.truth S db env =
        operator.truth S value upper (p.value S row) (p.numberCell S (p.value S row)) := by
  have hnumber := eval_numberExpr (p := p) S db hrow
  unfold compileNumber at h
  obtain ⟨tag, hoperator, h⟩ := bind_eq_ok.mp h
  obtain ⟨operator, htag, h⟩ := bind_eq_ok.mp h
  have hread : f.operator = some operator.tag :=
    operator_of_readTag NumberOperator.isTagTable hoperator htag
  refine ⟨operator, ?_⟩
  cases operator with
  | blank =>
    refine ⟨.null, .null, hread, by simp, by simp, ?_⟩
    rw [← pure_eq_ok.mp h]
    exact truth_blank S db hrow
  | notBlank =>
    refine ⟨.null, .null, hread, by simp, by simp, ?_⟩
    rw [← pure_eq_ok.mp h]
    exact truth_notBlank S db hrow
  | inRange =>
    obtain ⟨upper, hupper, h⟩ := bind_eq_ok.mp h
    obtain ⟨value, hvalue, h⟩ := bind_eq_ok.mp h
    refine ⟨value, upper, hread, fun _ _ => hvalue, fun _ => hupper, ?_⟩
    rw [← pure_eq_ok.mp h]
    refine (truth_pair S db .all _ _).trans ?_
    rw [Expr.truth_compare, Expr.truth_compare, hnumber]
    rfl
  | equals | notEqual | greaterThan | greaterThanOrEqual | lessThan | lessThanOrEqual =>
    obtain ⟨value, hvalue, htruth⟩ := truth_of_compareNumber S db hrow h
    exact ⟨value, .null, hread, fun _ _ => hvalue, nofun, htruth⟩

/-- A comparison with a day compares the cell as a day with the endpoint, unless it is a whole
document. -/
lemma truth_of_compareDate {op : Comparison} (h : f.compareDate p label op = .ok c) :
    p.isDocument = false ∧ ∃ day, dateOperand p.id .dateFrom f.dateFrom = .ok day ∧
      c.truth S db env =
        S.compared op (ColumnPath.dateCell S (p.value S row)) (some (S.ofText day)) := by
  obtain ⟨column, hcolumn, h⟩ := bind_eq_ok.mp h
  obtain ⟨day, hday, h⟩ := bind_eq_ok.mp h
  obtain ⟨hscalar, heval⟩ := eval_of_dateExpr S db hrow hcolumn
  refine ⟨hscalar, day, hday, ?_⟩
  rw [← pure_eq_ok.mp h, Condition.truth_ofExpr, Expr.truth_compare, heval]
  rfl

/-- **A date filter** is worth what its operator is worth on the cell of its column. -/
theorem truth_of_compileDate (h : f.compileDate p label = .ok c) :
    ∃ (operator : DateOperator) (start stop : String), f.operator = some operator.tag ∧
      (operator ≠ .blank → operator ≠ .notBlank →
        p.isDocument = false ∧ dateOperand p.id .dateFrom f.dateFrom = .ok start) ∧
      (operator = .inRange → dateOperand p.id .dateTo f.dateTo = .ok stop) ∧
      c.truth S db env = operator.truth S start stop (p.value S row)
        (ColumnPath.dateCell S (p.value S row)) := by
  unfold compileDate at h
  obtain ⟨tag, hoperator, h⟩ := bind_eq_ok.mp h
  obtain ⟨operator, htag, h⟩ := bind_eq_ok.mp h
  have hread : f.operator = some operator.tag :=
    operator_of_readTag DateOperator.isTagTable hoperator htag
  refine ⟨operator, ?_⟩
  cases operator with
  | blank =>
    refine ⟨"", "", hread, by simp, by simp, ?_⟩
    rw [← pure_eq_ok.mp h]
    exact truth_blank S db hrow
  | notBlank =>
    refine ⟨"", "", hread, by simp, by simp, ?_⟩
    rw [← pure_eq_ok.mp h]
    exact truth_notBlank S db hrow
  | inRange =>
    obtain ⟨stop, hstop, h⟩ := bind_eq_ok.mp h
    obtain ⟨column, hcolumn, h⟩ := bind_eq_ok.mp h
    obtain ⟨start, hstart, h⟩ := bind_eq_ok.mp h
    obtain ⟨hscalar, heval⟩ := eval_of_dateExpr S db hrow hcolumn
    refine ⟨start, stop, hread, fun _ _ => ⟨hscalar, hstart⟩, fun _ => hstop, ?_⟩
    rw [← pure_eq_ok.mp h]
    refine (truth_pair S db .all _ _).trans ?_
    rw [Expr.truth_compare, Expr.truth_compare, heval]
    rfl
  | equals | notEqual | greaterThan | lessThan =>
    obtain ⟨hscalar, start, hstart, htruth⟩ := truth_of_compareDate S db hrow h
    exact ⟨start, "", hread, fun _ _ => ⟨hscalar, hstart⟩, nofun, htruth⟩

end

/-! ## Selected cells -/

/-- The cell of a column, as a leaf filter compares it. -/
def comparedCell (f : LeafFilter) (p : ColumnPath) (cell : Option V) : Option V :=
  match f.filterType with
  | "text" => p.textCell S cell
  | "number" => p.numberCell S cell
  | "date" => ColumnPath.dateCell S cell
  | _ => cell

/-- The same filter with another operator. -/
def withOperator (f : LeafFilter) (tag : String) : LeafFilter := { f with operator := some tag }

/-- What a leaf filter with condition `c` selects, in an environment where `cell` is the cell of its
column. -/
structure Selects (f : LeafFilter) (p : ColumnPath) (label : String) (c : Condition) (env : Env V)
    (cell : Option V) : Prop where
  /-- A set filter selects null if null is listed, and values that are equal to a listed one. -/
  set : f.filterType = "set" → (c.Holds S db env ↔
    cell = none ∧ .null ∈ f.values ∨ ∃ j ∈ f.values, j.EqualsCell S p.id cell)
  /-- A set filter without values selects nothing. -/
  setEmpty : f.filterType = "set" → f.values = [] → ¬ c.Holds S db env
  /-- The order of the values and their repetitions do not matter. -/
  setMembers : f.filterType = "set" → ∀ g : LeafFilter, g.filterType = "set" →
    (∀ j, j ∈ g.values ↔ j ∈ f.values) →
      ∃ d, g.compile p label = .ok d ∧ (d.Holds S db env ↔ c.Holds S db env)
  blank : f.filterType ≠ "set" → f.operator = some "blank" → (c.Holds S db env ↔ cell = none)
  notBlank : f.filterType ≠ "set" → f.operator = some "notBlank" → (c.Holds S db env ↔ cell ≠ none)
  /-- The tests for null do not look at the operands. -/
  blankOperands : f.filterType ≠ "set" → f.operator = some "blank" ∨ f.operator = some "notBlank" →
    ∀ g : LeafFilter, g.filterType = f.filterType → g.operator = f.operator →
      g.compile p label = .ok c
  /-- Every other operator is unknown on null. -/
  null : f.filterType ≠ "set" → f.operator ≠ some "blank" → f.operator ≠ some "notBlank" →
    cell = none → c.truth S db env = none
  /-- Of equality and its opposite one selects what the other does not, wherever there is something
  to compare; that is every cell but null, if casts keep values. -/
  opposite : f.filterType ≠ "set" → f.operator = some "equals" ∨ f.operator = some "notEqual" →
    ∃ d d', (f.withOperator "equals").compile p label = .ok d ∧
      (f.withOperator "notEqual").compile p label = .ok d' ∧
      (f.comparedCell S p cell ≠ none → (d'.Holds S db env ↔ ¬ d.Holds S db env)) ∧
      ((∀ type v, S.cast type v ≠ none) → cell ≠ none → (d'.Holds S db env ↔ ¬ d.Holds S db env))
  /-- A range of numbers includes both of its bounds. -/
  numberRange : f.filterType = "number" → f.operator = some "inRange" →
    ∃ lower upper, numberOperand p.id .filter f.filter = .ok lower ∧
      numberOperand p.id .filterTo f.filterTo = .ok upper ∧
      (c.Holds S db env ↔ ∃ v lo hi, p.numberCell S cell = some v ∧ S.literal lower = some lo ∧
        S.literal upper = some hi ∧ (S.order lo v).isLE ∧ (S.order v hi).isLE)
  /-- The days from a day on include it. -/
  daysFrom : f.filterType = "date" → f.operator = some "greaterThan" →
    ∃ raw day, f.dateFrom = some raw ∧ Day.read? raw = some day ∧
      (c.Holds S db env ↔ ∃ v, ColumnPath.dateCell S cell = some v ∧
        (S.order (S.ofText day.text) v).isLE)
  /-- The days up to a day include it. -/
  daysTo : f.filterType = "date" → f.operator = some "lessThan" →
    ∃ raw day, f.dateFrom = some raw ∧ Day.read? raw = some day ∧
      (c.Holds S db env ↔ ∃ v, ColumnPath.dateCell S cell = some v ∧
        (S.order v (S.ofText day.text)).isLE)
  /-- A range of days is the days from its start and up to its end. -/
  dayRange : f.filterType = "date" → f.operator = some "inRange" →
    ∃ d d', (f.withOperator "greaterThan").compile p label = .ok d ∧
      ({ f.withOperator "lessThan" with dateFrom := f.dateTo }).compile p label = .ok d' ∧
      c.truth S db env = (d.truth S db env).conj (d'.truth S db env)
  /-- A day is the range from the day to itself. -/
  singleDay : f.filterType = "date" →
    f.operator = some "equals" ∨ f.operator = some "greaterThan" ∨ f.operator = some "lessThan" →
    ∃ d d' d'', (f.withOperator "greaterThan").compile p label = .ok d ∧
      (f.withOperator "lessThan").compile p label = .ok d' ∧
      (f.withOperator "equals").compile p label = .ok d'' ∧
      d''.truth S db env = (d.truth S db env).conj (d'.truth S db env)

/-- Casts that keep values leave nothing null that was not. -/
lemma comparedCell_ne_none (hcasts : ∀ type v, S.cast type v ≠ none) {cell : Option V}
    (h : cell ≠ none) : f.comparedCell S p cell ≠ none := by
  obtain ⟨v, rfl⟩ := Option.ne_none_iff_exists'.mp h
  rw [comparedCell]
  split
  · rw [ColumnPath.textCell]
    split
    · exact h
    · exact hcasts _ v
  · rw [ColumnPath.numberCell]
    split
    · exact hcasts _ v
    · exact h
  · exact hcasts _ v
  · exact h

/-- The operand of a number filter is a value. -/
lemma exists_literal_of_numberOperand {column : String} {operand : Operand} {given : Option Json}
    {value : Literal} (h : numberOperand column operand given = .ok value) :
    ∃ w, S.literal value = some w := by
  have hnumber : ∀ n : Json.Number, ∃ w, S.literal n.literal = some w := by
    intro n
    cases n <;> exact ⟨_, rfl⟩
  unfold numberOperand at h
  split at h
  · next n =>
    rw [← Except.ok.inj h]
    exact hnumber n
  · next text =>
    split at h
    · next v hv =>
      rw [← Except.ok.inj h]
      unfold numberOfText? at hv
      dsimp only at hv
      split at hv
      · rw [← Option.some.inj hv]
        exact ⟨_, rfl⟩
      · obtain ⟨x, -, rfl⟩ := Option.map_eq_some_iff.mp hv
        exact ⟨_, rfl⟩
    · cases h
  · cases h
  · cases h

section

variable (hrow : Keyed.find? label env.frames = some row)
include hrow

/-- A text filter with the given operator and operand. -/
lemma exists_text (operator : TextOperator) {value : String}
    (hkind : f.filterType = FilterKind.text.tag) (hoperator : f.operator = some operator.tag)
    (hvalue : textOperand p.id f.filter = .ok value) :
    ∃ c, f.compile p label = .ok c ∧
      c.truth S db env =
        operator.truth S value (p.value S row) (p.textCell S (p.value S row)) := by
  obtain ⟨c, hc⟩ : ∃ c, f.compileText p label = .ok c :=
    exists_compileText hoperator fun _ _ => ⟨value, hvalue⟩
  obtain ⟨operator', value', hsame, hvalue', htruth⟩ := truth_of_compileText S db hrow hc
  obtain rfl : operator = operator' :=
    TextOperator.isTagTable.tag_inj (Option.some.inj (hoperator.symm.trans hsame))
  refine ⟨c, (compile_of_kind .text hkind).trans hc, ?_⟩
  rw [htruth]
  cases operator with
  | blank | notBlank => rfl
  | _ => rw [Except.ok.inj (hvalue.symm.trans (hvalue' nofun nofun))]

/-- A number filter with the given operator, other than that of ranges, and operand. -/
lemma exists_number (operator : NumberOperator) {value : Literal}
    (hkind : f.filterType = FilterKind.number.tag) (hoperator : f.operator = some operator.tag)
    (hrange : operator ≠ .inRange) (hvalue : numberOperand p.id .filter f.filter = .ok value) :
    ∃ c, f.compile p label = .ok c ∧
      c.truth S db env =
        operator.truth S value .null (p.value S row) (p.numberCell S (p.value S row)) := by
  obtain ⟨c, hc⟩ : ∃ c, f.compileNumber p label = .ok c :=
    exists_compileNumber hoperator (fun _ _ => ⟨value, hvalue⟩) fun h => absurd h hrange
  obtain ⟨operator', value', upper', hsame, hvalue', -, htruth⟩ :=
    truth_of_compileNumber S db hrow hc
  obtain rfl : operator = operator' :=
    NumberOperator.isTagTable.tag_inj (Option.some.inj (hoperator.symm.trans hsame))
  refine ⟨c, (compile_of_kind .number hkind).trans hc, ?_⟩
  rw [htruth]
  cases operator with
  | inRange => exact absurd rfl hrange
  | blank | notBlank => rfl
  | _ =>
    rw [Except.ok.inj (hvalue.symm.trans (hvalue' nofun nofun))]
    rfl

/-- A date filter with the given operator, other than that of ranges, and endpoint. -/
lemma exists_day (operator : DateOperator) {day : String}
    (hkind : f.filterType = FilterKind.date.tag) (hoperator : f.operator = some operator.tag)
    (hrange : operator ≠ .inRange) (hscalar : p.isDocument = false)
    (hday : dateOperand p.id .dateFrom f.dateFrom = .ok day) :
    ∃ c, f.compile p label = .ok c ∧
      c.truth S db env = operator.truth S day "" (p.value S row)
        (ColumnPath.dateCell S (p.value S row)) := by
  obtain ⟨c, hc⟩ : ∃ c, f.compileDate p label = .ok c :=
    exists_compileDate hoperator (fun _ _ => ⟨hscalar, day, hday⟩) fun h => absurd h hrange
  obtain ⟨operator', day', stop', hsame, hday', -, htruth⟩ := truth_of_compileDate S db hrow hc
  obtain rfl : operator = operator' :=
    DateOperator.isTagTable.tag_inj (Option.some.inj (hoperator.symm.trans hsame))
  refine ⟨c, (compile_of_kind .date hkind).trans hc, ?_⟩
  rw [htruth]
  cases operator with
  | inRange => exact absurd rfl hrange
  | blank | notBlank => rfl
  | _ =>
    rw [Except.ok.inj (hday.symm.trans (hday' nofun nofun).2)]
    rfl

/-- The filters of equality and of its opposite, if one of them compiles: both compare the cell with
the same value. -/
lemma exists_comparison (hset : f.filterType ≠ "set")
    (hequality : f.operator = some "equals" ∨ f.operator = some "notEqual")
    (h : f.compile p label = .ok c) :
    ∃ w d d', (f.withOperator "equals").compile p label = .ok d ∧
      (f.withOperator "notEqual").compile p label = .ok d' ∧
      d.truth S db env = S.compared .eq (f.comparedCell S p (p.value S row)) (some w) ∧
      d'.truth S db env = S.compared .ne (f.comparedCell S p (p.value S row)) (some w) := by
  obtain ⟨kind, hkind⟩ := exists_kind h
  have hblank : f.operator ≠ some "blank" := by
    rcases hequality with h | h <;> rw [h] <;> decide
  have hnotBlank : f.operator ≠ some "notBlank" := by
    rcases hequality with h | h <;> rw [h] <;> decide
  rw [compile_of_kind kind hkind] at h
  rw [comparedCell, hkind]
  cases kind with
  | set => exact absurd hkind hset
  | text =>
    obtain ⟨operator, value, hoperator, hvalue, -⟩ := truth_of_compileText S db hrow h
    have hvalue := hvalue (fun h => hblank (by rw [hoperator, h]; rfl))
      fun h => hnotBlank (by rw [hoperator, h]; rfl)
    obtain ⟨d, hd, htruth⟩ :=
      exists_text S db hrow (f := f.withOperator "equals") .equals hkind rfl hvalue
    obtain ⟨d', hd', htruth'⟩ :=
      exists_text S db hrow (f := f.withOperator "notEqual") .notEqual hkind rfl hvalue
    exact ⟨S.ofText value, d, d', hd, hd', htruth, htruth'⟩
  | number =>
    obtain ⟨operator, value, _, hoperator, hvalue, -⟩ := truth_of_compileNumber S db hrow h
    have hvalue := hvalue (fun h => hblank (by rw [hoperator, h]; rfl))
      fun h => hnotBlank (by rw [hoperator, h]; rfl)
    obtain ⟨w, hw⟩ := exists_literal_of_numberOperand S hvalue
    obtain ⟨d, hd, htruth⟩ :=
      exists_number S db hrow (f := f.withOperator "equals") .equals hkind rfl nofun hvalue
    obtain ⟨d', hd', htruth'⟩ :=
      exists_number S db hrow (f := f.withOperator "notEqual") .notEqual hkind rfl nofun hvalue
    simp only [NumberOperator.truth, hw] at htruth htruth'
    exact ⟨w, d, d', hd, hd', htruth, htruth'⟩
  | date =>
    obtain ⟨operator, day, _, hoperator, hday, -⟩ := truth_of_compileDate S db hrow h
    obtain ⟨hscalar, hday⟩ := hday (fun h => hblank (by rw [hoperator, h]; rfl))
      fun h => hnotBlank (by rw [hoperator, h]; rfl)
    obtain ⟨d, hd, htruth⟩ :=
      exists_day S db hrow (f := f.withOperator "equals") .equals hkind rfl nofun hscalar hday
    obtain ⟨d', hd', htruth'⟩ :=
      exists_day S db hrow (f := f.withOperator "notEqual") .notEqual hkind rfl nofun hscalar hday
    exact ⟨S.ofText day, d, d', hd, hd', htruth, htruth'⟩

/-- Operators other than the tests for null are unknown on null. -/
lemma truth_of_null (hset : f.filterType ≠ "set") (hblank : f.operator ≠ some "blank")
    (hnotBlank : f.operator ≠ some "notBlank") (hnull : p.value S row = none)
    (h : f.compile p label = .ok c) : c.truth S db env = none := by
  obtain ⟨kind, hkind⟩ := exists_kind h
  rw [compile_of_kind kind hkind] at h
  cases kind with
  | set => exact absurd hkind hset
  | text =>
    obtain ⟨operator, value, hoperator, -, htruth⟩ := truth_of_compileText S db hrow h
    rw [htruth, hnull, ColumnPath.textCell_none]
    cases operator with
    | blank => exact absurd hoperator hblank
    | notBlank => exact absurd hoperator hnotBlank
    | _ => rfl
  | number =>
    obtain ⟨operator, value, upper, hoperator, -, -, htruth⟩ := truth_of_compileNumber S db hrow h
    rw [htruth, hnull, ColumnPath.numberCell_none]
    cases operator with
    | blank => exact absurd hoperator hblank
    | notBlank => exact absurd hoperator hnotBlank
    | _ => rfl
  | date =>
    obtain ⟨operator, start, stop, hoperator, -, -, htruth⟩ := truth_of_compileDate S db hrow h
    rw [htruth, hnull, ColumnPath.dateCell_none]
    cases operator with
    | blank => exact absurd hoperator hblank
    | notBlank => exact absurd hoperator hnotBlank
    | _ => rfl

end

/-! ## Main result -/

section

variable (hrow : Keyed.find? label env.frames = some row)
include hrow

/-- A range of numbers includes its bounds. -/
lemma holds_of_numberRange (hoperator : f.operator = some "inRange")
    (h : f.compileNumber p label = .ok c) :
    ∃ lower upper, numberOperand p.id .filter f.filter = .ok lower ∧
      numberOperand p.id .filterTo f.filterTo = .ok upper ∧
      (c.Holds S db env ↔ ∃ v lo hi, p.numberCell S (p.value S row) = some v ∧
        S.literal lower = some lo ∧ S.literal upper = some hi ∧
        (S.order lo v).isLE ∧ (S.order v hi).isLE) := by
  obtain ⟨operator, lower, upper, hsame, hlower, hupper, htruth⟩ :=
    truth_of_compileNumber S db hrow h
  have hrange : operator = .inRange :=
    NumberOperator.isTagTable.tag_inj (Option.some.inj (hsame.symm.trans hoperator))
  subst hrange
  refine ⟨lower, upper, hlower nofun nofun, hupper rfl, ?_⟩
  rw [Condition.Holds, htruth, NumberOperator.truth.eq_def]
  dsimp only
  rw [Truth.conj_eq_true, S.compared_ge_eq_true, S.compared_le_eq_true]
  constructor
  · rintro ⟨⟨v, lo, hv, hlo, hge⟩, v', hi, hv', hhi, hle⟩
    obtain rfl := Option.some.inj (hv.symm.trans hv')
    exact ⟨v, lo, hi, hv, hlo, hhi, hge, hle⟩
  · rintro ⟨v, lo, hi, hv, hlo, hhi, hge, hle⟩
    exact ⟨⟨v, lo, hv, hlo, hge⟩, v, hi, hv, hhi, hle⟩

/-- The days from a day on include it. -/
lemma holds_of_daysFrom (hoperator : f.operator = some "greaterThan")
    (h : f.compileDate p label = .ok c) :
    ∃ raw day, f.dateFrom = some raw ∧ Day.read? raw = some day ∧
      (c.Holds S db env ↔ ∃ v, ColumnPath.dateCell S (p.value S row) = some v ∧
        (S.order (S.ofText day.text) v).isLE) := by
  obtain ⟨operator, start, stop, hsame, hstart, -, htruth⟩ := truth_of_compileDate S db hrow h
  have hfrom : operator = .greaterThan :=
    DateOperator.isTagTable.tag_inj (Option.some.inj (hsame.symm.trans hoperator))
  subst hfrom
  obtain ⟨raw, day, hraw, hday, rfl⟩ := dateOperand_eq_ok.mp (hstart nofun nofun).2
  refine ⟨raw, day, hraw, hday, ?_⟩
  rw [Condition.Holds, htruth, DateOperator.truth.eq_def]
  dsimp only
  rw [S.compared_ge_eq_true]
  simp

/-- The days up to a day include it. -/
lemma holds_of_daysTo (hoperator : f.operator = some "lessThan")
    (h : f.compileDate p label = .ok c) :
    ∃ raw day, f.dateFrom = some raw ∧ Day.read? raw = some day ∧
      (c.Holds S db env ↔ ∃ v, ColumnPath.dateCell S (p.value S row) = some v ∧
        (S.order v (S.ofText day.text)).isLE) := by
  obtain ⟨operator, start, stop, hsame, hstart, -, htruth⟩ := truth_of_compileDate S db hrow h
  have hto : operator = .lessThan :=
    DateOperator.isTagTable.tag_inj (Option.some.inj (hsame.symm.trans hoperator))
  subst hto
  obtain ⟨raw, day, hraw, hday, rfl⟩ := dateOperand_eq_ok.mp (hstart nofun nofun).2
  refine ⟨raw, day, hraw, hday, ?_⟩
  rw [Condition.Holds, htruth, DateOperator.truth.eq_def]
  dsimp only
  rw [S.compared_le_eq_true]
  simp

/-- A range of days is the days from its start and up to its end. -/
lemma truth_of_dayRange (hkind : f.filterType = "date") (hoperator : f.operator = some "inRange")
    (h : f.compileDate p label = .ok c) :
    ∃ d d', (f.withOperator "greaterThan").compile p label = .ok d ∧
      ({ f.withOperator "lessThan" with dateFrom := f.dateTo }).compile p label = .ok d' ∧
      c.truth S db env = (d.truth S db env).conj (d'.truth S db env) := by
  obtain ⟨operator, start, stop, hsame, hstart, hstop, htruth⟩ := truth_of_compileDate S db hrow h
  have hrange : operator = .inRange :=
    DateOperator.isTagTable.tag_inj (Option.some.inj (hsame.symm.trans hoperator))
  subst hrange
  obtain ⟨hscalar, hstart⟩ := hstart nofun nofun
  -- The end is read as an endpoint of its own.
  have hend : dateOperand p.id .dateFrom f.dateTo = .ok stop :=
    dateOperand_eq_ok.mpr (dateOperand_eq_ok.mp (hstop rfl))
  obtain ⟨d, hd, hfrom⟩ := exists_day S db hrow (f := f.withOperator "greaterThan") .greaterThan
    hkind rfl nofun hscalar hstart
  obtain ⟨d', hd', hto⟩ := exists_day S db hrow
    (f := { f.withOperator "lessThan" with dateFrom := f.dateTo }) .lessThan hkind rfl nofun
    hscalar hend
  refine ⟨d, d', hd, hd', ?_⟩
  rw [htruth, hfrom, hto]
  rfl

/-- A day is the range from the day to itself. -/
lemma truth_of_singleDay (hkind : f.filterType = "date")
    (hoperator : f.operator = some "equals" ∨ f.operator = some "greaterThan" ∨
      f.operator = some "lessThan") (h : f.compileDate p label = .ok c) :
    ∃ d d' d'', (f.withOperator "greaterThan").compile p label = .ok d ∧
      (f.withOperator "lessThan").compile p label = .ok d' ∧
      (f.withOperator "equals").compile p label = .ok d'' ∧
      d''.truth S db env = (d.truth S db env).conj (d'.truth S db env) := by
  obtain ⟨operator, day, -, hsame, hday, -⟩ := truth_of_compileDate S db hrow h
  have hblank : operator ≠ .blank := by
    rintro rfl
    rw [hsame] at hoperator
    exact absurd hoperator (by decide)
  have hnotBlank : operator ≠ .notBlank := by
    rintro rfl
    rw [hsame] at hoperator
    exact absurd hoperator (by decide)
  obtain ⟨hscalar, hday⟩ := hday hblank hnotBlank
  obtain ⟨d, hd, hfrom⟩ := exists_day S db hrow (f := f.withOperator "greaterThan") .greaterThan
    hkind rfl nofun hscalar hday
  obtain ⟨d', hd', hto⟩ := exists_day S db hrow (f := f.withOperator "lessThan") .lessThan
    hkind rfl nofun hscalar hday
  obtain ⟨d'', hd'', hon⟩ := exists_day S db hrow (f := f.withOperator "equals") .equals
    hkind rfl nofun hscalar hday
  refine ⟨d, d', d'', hd, hd', hd'', ?_⟩
  rw [hfrom, hto, hon]
  exact S.compared_eq_conj _ _

/-- **The cells that a leaf filter selects**: whatever leaf filter compiles, on whatever column,
selects the cells that it is meant to, null included.

**Proof sketch.** The condition of a leaf is worth what its operator is worth on the cell
(`truth_of_compileText`, `truth_of_compileNumber`, `truth_of_compileDate`), or tests for membership
and for null (`holds_of_compileSet`). What is said about several filters at once holds because all
of them read the same operands. -/
theorem selects_of_compile (h : f.compile p label = .ok c) :
    f.Selects S db p label c env (p.value S row) := by
  have hkind : ∀ kind : FilterKind, f.filterType = kind.tag → f.compileAs p label kind = .ok c :=
    fun kind hkind => (compile_of_kind kind hkind).symm.trans h
  constructor
  · intro hset
    exact holds_of_compileSet S db hrow (hkind .set hset)
  · intro hset hempty hholds
    rw [holds_of_compileSet S db hrow (hkind .set hset), hempty] at hholds
    simp at hholds
  · intro hset g hgset hsame
    have hc := hkind .set hset
    obtain ⟨hjson, hscalars⟩ := scalars_of_compileSet hc
    obtain ⟨d, hd⟩ : ∃ d, g.compileSet p label = .ok d :=
      exists_compileSet hjson fun j hj => hscalars j ((hsame j).mp hj)
    refine ⟨d, (compile_of_kind .set hgset).trans hd, ?_⟩
    rw [holds_of_compileSet S db hrow hc, holds_of_compileSet S db hrow hd]
    simp only [hsame]
  · intro hset hoperator
    have hc := Except.ok.inj (h.symm.trans (compile_nullTest false (exists_kind h) hset hoperator))
    rw [hc, Condition.Holds, truth_blank S db hrow, Option.some.injEq, Option.isNone_iff_eq_none]
  · intro hset hoperator
    have hc := Except.ok.inj (h.symm.trans (compile_nullTest true (exists_kind h) hset hoperator))
    rw [hc, Condition.Holds, truth_notBlank S db hrow, Option.some.injEq, Bool.not_eq_true',
      Option.isNone_eq_false_iff, Option.isSome_iff_ne_none]
  · rintro hset (hoperator | hoperator) g hgkind hgoperator
    · rw [← h, compile_nullTest false (exists_kind h) hset hoperator]
      exact compile_nullTest false (hgkind ▸ exists_kind h) (hgkind ▸ hset)
        (hgoperator.trans hoperator)
    · rw [← h, compile_nullTest true (exists_kind h) hset hoperator]
      exact compile_nullTest true (hgkind ▸ exists_kind h) (hgkind ▸ hset)
        (hgoperator.trans hoperator)
  · intro hset hblank hnotBlank hnull
    exact truth_of_null S db hrow hset hblank hnotBlank hnull h
  · intro hset hequality
    obtain ⟨w, d, d', hd, hd', heq, hne⟩ := exists_comparison S db hrow hset hequality h
    have hopposite : f.comparedCell S p (p.value S row) ≠ none →
        (d'.Holds S db env ↔ ¬ d.Holds S db env) := by
      intro hcell
      rw [Condition.Holds, Condition.Holds, heq, hne]
      exact S.compared_ne_eq_true hcell w
    exact ⟨d, d', hd, hd', hopposite,
      fun hcasts hcell => hopposite (comparedCell_ne_none S hcasts hcell)⟩
  · intro hnumber hoperator
    exact holds_of_numberRange S db hrow hoperator (hkind .number hnumber)
  · intro hdate hoperator
    exact holds_of_daysFrom S db hrow hoperator (hkind .date hdate)
  · intro hdate hoperator
    exact holds_of_daysTo S db hrow hoperator (hkind .date hdate)
  · intro hdate hoperator
    exact truth_of_dayRange S db hrow hdate hoperator (hkind .date hdate)
  · intro hdate hoperator
    exact truth_of_singleDay S db hrow hdate hoperator (hkind .date hdate)

end

end LeafFilter

/-- A range of two days. -/
def Zoo.twoDays : LeafFilter where
  filterType := "date"
  operator := some "inRange"
  dateFrom := some "2024-05-06"
  dateTo := some "2024-05-07 10:00:00"

/-- The filter of two days, on a flamingo that was vaccinated on the second of them. -/
theorem LeafFilter.selects_of_compile_days :
    ∃ r p c row, Zoo.registry = .ok r ∧
      r.resolve Zoo.flamingos "last_vaccinated_on" = .ok p ∧
      Zoo.twoDays.compile p "flamingos" = .ok c ∧
      row = Zoo.rowOf [("last_vaccinated_on", .string "2024-05-07")] ∧
      Zoo.twoDays.Selects Scalars.ofLiterals Zoo.flock p "flamingos" c (.ofRow "flamingos" row)
        (some (.string "2024-05-07")) := by
  have hrow : ∀ row : Row Literal,
      Keyed.find? "flamingos" (Env.ofRow "flamingos" row).frames = some row := fun _ => rfl
  exact ⟨_, _, _, _, rfl, rfl, rfl, rfl,
    LeafFilter.selects_of_compile Scalars.ofLiterals Zoo.flock (hrow _) rfl⟩

end DataGrid
