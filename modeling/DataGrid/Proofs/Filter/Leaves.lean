import DataGrid.Filter.Compile
import DataGrid.Proofs.Outcome
import Mathlib.Data.List.Basic
import Mathlib.Tactic.Lemma

/-!
# The terms of compiled filters

All kinds of leaf filters test the column of their path in one of four forms: whether it is null,
whether it is among some values, how it compares with a value, and whether it matches a pattern.
What holds of these tests and of groups of terms holds of every compiled filter tree.

## Main definitions

* `DataGrid.castTypes` — the types that values are cast to.
* `DataGrid.ColumnPath.IsTest` — the terms that leaf filters on a path become.

## Main results

* `DataGrid.LeafFilter.isTest_of_compile` — a leaf becomes such terms only.
* `DataGrid.FilterNode.forall_terms_of_compile` — what holds of the terms of a compiled tree.
-/

namespace DataGrid

open Sql

/-- The types that values are cast to. -/
def castTypes : List String := ["text", "numeric", "date"]

namespace ColumnPath

/-- What leaf filters on a path compare: its value in the rows called `label`, cast or not. -/
inductive IsOperand (p : ColumnPath) (label : String) : Expr → Prop
  | plain : p.IsOperand label (p.expr label)
  | cast {type : String} : type ∈ castTypes → p.IsOperand label (.cast (p.expr label) type)

/-- The terms that leaf filters on a path become. -/
inductive IsTest (p : ColumnPath) (label : String) : Expr → Prop
  | isNull (negated : Bool) : p.IsTest label (.isNull negated (p.expr label))
  | isIn (values : List Literal) : p.IsTest label (.isIn false (p.expr label) values)
  | compare (op : Comparison) {e : Expr} (v : Literal) :
    p.IsOperand label e → p.IsTest label (.compare op e (.literal v))
  | like (negated : Bool) {e : Expr} (pattern : String) :
    p.IsOperand label e → p.IsTest label (.like negated e pattern)

end ColumnPath

/-! ## Leaves -/

namespace LeafFilter

variable {f : LeafFilter} {p : ColumnPath} {label : String} {c : Condition}

/-- The tag of the operator is there only if the filter has an operator. -/
lemma operator_of_operatorTag {tag : String} (h : f.operatorTag p = .ok tag) :
    f.operator = some tag := by
  unfold operatorTag at h
  split at h
  · next operator hoperator =>
    rw [Except.ok.injEq] at h
    rw [hoperator, h]
  · cases h

/-- A set filter tests for membership and for null. -/
lemma isTest_of_compileSet (h : f.compileSet p label = .ok c) : ∀ e ∈ c.terms, p.IsTest label e := by
  unfold compileSet at h
  split at h
  · cases h
  · obtain ⟨values, _, h⟩ := bind_eq_ok.mp h
    rw [← pure_eq_ok.mp h]
    split
    · exact List.forall_mem_singleton.mpr (.isNull false)
    · exact List.forall_mem_cons.mpr ⟨.isIn values, List.forall_mem_singleton.mpr (.isNull false)⟩
    · exact List.forall_mem_singleton.mpr (.isIn values)

/-- A text filter compares the column as text. -/
lemma isOperand_textExpr (p : ColumnPath) (label : String) :
    p.IsOperand label (textExpr p label) := by
  unfold textExpr
  split
  · exact .plain
  · exact .cast (by decide)

/-- A text filter tests the column in one way. -/
lemma isTest_of_compileText (h : f.compileText p label = .ok c) :
    ∀ e ∈ c.terms, p.IsTest label e := by
  have htext := isOperand_textExpr p label
  unfold compileText at h
  obtain ⟨tag, _, h⟩ := bind_eq_ok.mp h
  obtain ⟨operator, _, h⟩ := bind_eq_ok.mp h
  -- the two tests for null read no operand, and every other operator reads exactly one
  cases operator with
  | blank => exact pure_eq_ok.mp h ▸ List.forall_mem_singleton.mpr (.isNull false)
  | notBlank => exact pure_eq_ok.mp h ▸ List.forall_mem_singleton.mpr (.isNull true)
  | equals | notEqual =>
    obtain ⟨value, _, h⟩ := bind_eq_ok.mp h
    exact pure_eq_ok.mp h ▸ List.forall_mem_singleton.mpr (.compare _ _ htext)
  | contains | notContains | startsWith | endsWith =>
    obtain ⟨pattern, _, h⟩ := bind_eq_ok.mp h
    exact pure_eq_ok.mp h ▸ List.forall_mem_singleton.mpr (.like _ _ htext)

/-- Two bounds on an operand. -/
lemma isTest_range {e : Expr} (he : p.IsOperand label e) (lower upper : Literal) :
    ∀ t ∈ ((Condition.all.addExpr (.compare .ge e (.literal lower))).addExpr
      (.compare .le e (.literal upper))).terms, p.IsTest label t :=
  List.forall_mem_cons.mpr ⟨.compare .ge lower he,
    List.forall_mem_singleton.mpr (.compare .le upper he)⟩

/-- A number filter compares the column as a number. -/
lemma isOperand_numberExpr (p : ColumnPath) (label : String) :
    p.IsOperand label (numberExpr p label) := by
  unfold numberExpr
  split
  · exact .cast (by decide)
  · exact .plain

/-- A comparison with a number is a test of the column. -/
lemma isTest_of_compareNumber {op : Comparison} (h : f.compareNumber p label op = .ok c) :
    ∀ e ∈ c.terms, p.IsTest label e := by
  obtain ⟨value, _, h⟩ := bind_eq_ok.mp h
  exact pure_eq_ok.mp h ▸
    List.forall_mem_singleton.mpr (.compare op value (isOperand_numberExpr p label))

/-- A number filter tests the column, from both ends if it is a range. -/
lemma isTest_of_compileNumber (h : f.compileNumber p label = .ok c) :
    ∀ e ∈ c.terms, p.IsTest label e := by
  unfold compileNumber at h
  obtain ⟨tag, _, h⟩ := bind_eq_ok.mp h
  obtain ⟨operator, _, h⟩ := bind_eq_ok.mp h
  cases operator with
  | blank => exact pure_eq_ok.mp h ▸ List.forall_mem_singleton.mpr (.isNull false)
  | notBlank => exact pure_eq_ok.mp h ▸ List.forall_mem_singleton.mpr (.isNull true)
  | inRange =>
    obtain ⟨upper, _, h⟩ := bind_eq_ok.mp h
    obtain ⟨lower, _, h⟩ := bind_eq_ok.mp h
    exact pure_eq_ok.mp h ▸ isTest_range (isOperand_numberExpr p label) lower upper
  | _ => exact isTest_of_compareNumber h

/-- A date filter compares the column as a day. -/
lemma isOperand_of_dateExpr {e : Expr} (h : dateExpr p label = .ok e) : p.IsOperand label e := by
  unfold dateExpr at h
  split at h
  · cases h
  · exact Except.ok.inj h ▸ .cast (by decide)

/-- A comparison with a day is a test of the column. -/
lemma isTest_of_compareDate {op : Comparison} (h : f.compareDate p label op = .ok c) :
    ∀ e ∈ c.terms, p.IsTest label e := by
  obtain ⟨column, hcolumn, h⟩ := bind_eq_ok.mp h
  obtain ⟨day, _, h⟩ := bind_eq_ok.mp h
  exact pure_eq_ok.mp h ▸
    List.forall_mem_singleton.mpr (.compare op _ (isOperand_of_dateExpr hcolumn))

/-- A date filter tests the column, from both ends if it is a range. -/
lemma isTest_of_compileDate (h : f.compileDate p label = .ok c) :
    ∀ e ∈ c.terms, p.IsTest label e := by
  unfold compileDate at h
  obtain ⟨tag, _, h⟩ := bind_eq_ok.mp h
  obtain ⟨operator, _, h⟩ := bind_eq_ok.mp h
  cases operator with
  | blank => exact pure_eq_ok.mp h ▸ List.forall_mem_singleton.mpr (.isNull false)
  | notBlank => exact pure_eq_ok.mp h ▸ List.forall_mem_singleton.mpr (.isNull true)
  | inRange =>
    obtain ⟨upper, _, h⟩ := bind_eq_ok.mp h
    obtain ⟨day, hday, h⟩ := bind_eq_ok.mp h
    obtain ⟨lower, _, h⟩ := bind_eq_ok.mp h
    exact pure_eq_ok.mp h ▸ isTest_range (isOperand_of_dateExpr hday) _ _
  | _ => exact isTest_of_compareDate h

/-- **A leaf becomes tests** of the column and nothing else. -/
theorem isTest_of_compile (h : f.compile p label = .ok c) : ∀ e ∈ c.terms, p.IsTest label e := by
  unfold compile at h
  obtain ⟨kind, _, h⟩ := bind_eq_ok.mp h
  cases kind with
  | set => exact isTest_of_compileSet h
  | text => exact isTest_of_compileText h
  | number => exact isTest_of_compileNumber h
  | date => exact isTest_of_compileDate h

end LeafFilter

/-! ## Trees -/

/-- What holds of the terms of a condition, and of groups of such terms, holds of what stands for
the condition inside another one. -/
lemma Sql.Condition.asTerm_of_forall {holds : Expr → Prop}
    (hgroup : ∀ negated junction terms, (∀ e ∈ terms, holds e) →
      holds (.group negated junction terms))
    {c : Condition} (hc : ∀ e ∈ c.terms, holds e) : holds c.asTerm := by
  unfold asTerm
  split
  · exact hc _ (List.mem_singleton_self _)
  · exact hgroup _ _ _ hc

namespace FilterNode

section

variable {holds : Expr → Prop} {p : ColumnPath} {label : String}

mutual

/-- **What holds of the terms of a compiled tree**: all that holds of the tests of its column and is
kept by groups.

**Proof sketch.** Induction over the tree, a group together with the list of its nodes. A node goes
into its group as its single term or as a group of its terms. -/
theorem forall_terms_of_compile (htest : ∀ e, p.IsTest label e → holds e)
    (hgroup : ∀ negated junction terms, (∀ e ∈ terms, holds e) →
      holds (.group negated junction terms)) {c : Condition} :
    ∀ node : FilterNode, node.compile p label = .ok c → ∀ e ∈ c.terms, holds e
  | .leaf f, h => by
    rw [compile] at h
    exact fun e he => htest e (f.isTest_of_compile h e he)
  | .group operator conditions, h => by
    rw [compile] at h
    split at h
    · cases h
    · exact forall_terms_of_compileInto htest hgroup (List.forall_mem_nil _) conditions h

/-- Nodes put into a group bring terms of the same sort. -/
theorem forall_terms_of_compileInto (htest : ∀ e, p.IsTest label e → holds e)
    (hgroup : ∀ negated junction terms, (∀ e ∈ terms, holds e) →
      holds (.group negated junction terms)) {group c : Condition}
    (hterms : ∀ e ∈ group.terms, holds e) : ∀ nodes : List FilterNode,
      compileInto p label group nodes = .ok c → ∀ e ∈ c.terms, holds e
  | [], h => by
    rw [compileInto] at h
    exact Except.ok.inj h ▸ hterms
  | node :: rest, h => by
    rw [compileInto] at h
    split at h
    · cases h
    · next d hd =>
      have hnode : holds d.asTerm :=
        Condition.asTerm_of_forall hgroup (forall_terms_of_compile htest hgroup node hd)
      have hadd : ∀ e ∈ (group.add d).terms, holds e :=
        List.forall_mem_append.mpr ⟨hterms, List.forall_mem_singleton.mpr hnode⟩
      exact forall_terms_of_compileInto htest hgroup hadd rest h

end

end

end FilterNode

end DataGrid
