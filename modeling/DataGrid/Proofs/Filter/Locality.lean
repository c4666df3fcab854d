import DataGrid.Proofs.Filter.Leaves
import DataGrid.Proofs.Store.Mentions

/-!
# What compiled filters look at

A filter tree becomes a condition on one row: it looks at the row that holds the column and at
nothing else of the database. Seen from the subject, a filter through relations takes only the row
of the subject from around it; all other rows it finds itself.

## Main definitions

* `DataGrid.Sql.Expr.IsLocal`, `DataGrid.Sql.Condition.IsLocal` — an expression on the row of one
  name, without subqueries.

## Main results

* `DataGrid.FilterNode.compile_isLocal` — the condition of a tree is local to the row that holds
  the column.
* `DataGrid.FilterNode.entry_labels` — the condition of a tree on the subject takes the row of the
  subject only.
-/

namespace DataGrid

namespace Sql

/-! ## Local expressions -/

/-- An expression on the row of the given name, without subqueries. -/
structure Expr.IsLocal (label : String) (e : Expr) : Prop where
  labels : e.labels ⊆ [label]
  tables : e.tables = []

/-- A condition on the row of the given name, without subqueries. -/
def Condition.IsLocal (label : String) (c : Condition) : Prop := c.toExpr.IsLocal label

namespace Expr

variable {label : String}

/-- A column stays with its table. -/
lemma isLocal_column (label name : String) : (column label name).IsLocal label :=
  ⟨List.Subset.refl _, rfl⟩

/-- A literal mentions no table. -/
lemma isLocal_literal (v : Literal) : (literal v).IsLocal label := ⟨List.nil_subset _, rfl⟩

/-- A comparison mentions what its sides mention. -/
lemma IsLocal.compare {left right : Expr} (op : Comparison) (hl : left.IsLocal label)
    (hr : right.IsLocal label) : (compare op left right).IsLocal label :=
  ⟨List.append_subset.mpr ⟨hl.labels, hr.labels⟩, List.append_eq_nil_iff.mpr ⟨hl.tables, hr.tables⟩⟩

variable {e : Expr}

/-- A cast mentions what it casts. -/
lemma IsLocal.cast (h : e.IsLocal label) (type : String) : (cast e type).IsLocal label :=
  ⟨h.labels, h.tables⟩

/-- A value inside a document mentions what the document mentions. -/
lemma IsLocal.member (h : e.IsLocal label) (key : String) (asText : Bool) :
    (member e key asText).IsLocal label := ⟨h.labels, h.tables⟩

/-- A test for null mentions what it tests. -/
lemma IsLocal.isNull (h : e.IsLocal label) (negated : Bool) : (isNull negated e).IsLocal label :=
  ⟨h.labels, h.tables⟩

/-- A membership test mentions what it tests; its values are literals. -/
lemma IsLocal.isIn (h : e.IsLocal label) (negated : Bool) (values : List Literal) :
    (isIn negated e values).IsLocal label := ⟨h.labels, h.tables⟩

/-- A match mentions what it matches; its pattern is a text. -/
lemma IsLocal.like (h : e.IsLocal label) (negated : Bool) (pattern : String) :
    (like negated e pattern).IsLocal label := ⟨h.labels, h.tables⟩

end Expr

/-- The tables of a condition are those of its terms. -/
lemma tablesOf_eq_nil {terms : List Expr} : tablesOf terms = [] ↔ ∀ e ∈ terms, e.tables = [] := by
  induction terms with
  | nil => simp [tablesOf]
  | cons e rest ih => rw [tablesOf, List.append_eq_nil_iff, ih, List.forall_mem_cons]

/-- The names of two lists of expressions in a row. -/
lemma labelsOf_append (front back : List Expr) :
    labelsOf (front ++ back) = labelsOf front ++ labelsOf back := by
  induction front with
  | nil => rfl
  | cons e rest ih => rw [List.cons_append, labelsOf, ih, labelsOf, List.append_assoc]

namespace Condition

variable {label : String} {c d : Condition} {e : Expr}

/-- The names that a condition of one term takes. -/
lemma labels_ofExpr (e : Expr) : (ofExpr e).toExpr.labels = e.labels := List.append_nil _

/-- A term put behind the others takes its own names. -/
lemma labels_addExpr (c : Condition) (e : Expr) :
    (c.addExpr e).toExpr.labels = c.toExpr.labels ++ e.labels := by
  have happend : (c.addExpr e).toExpr.labels = labelsOf (c.terms ++ [e]) := rfl
  rw [happend, labelsOf_append, labelsOf, labelsOf, List.append_nil]
  rfl

/-- What stands for a condition inside another one takes the same names. -/
lemma labels_asTerm (c : Condition) : c.asTerm.labels = c.toExpr.labels := by
  unfold asTerm
  split
  · exact (List.append_nil _).symm
  · rfl

/-- A condition put into another takes its own names. -/
lemma labels_add (c d : Condition) :
    (c.add d).toExpr.labels = c.toExpr.labels ++ d.toExpr.labels := by
  rw [add, labels_addExpr, labels_asTerm]

/-- A condition is local when its terms are. -/
lemma isLocal_iff : c.IsLocal label ↔ ∀ e ∈ c.terms, e.IsLocal label := by
  constructor
  · intro h e he
    exact ⟨fun l hl => h.labels (mem_labelsOf.mpr ⟨e, he, hl⟩), tablesOf_eq_nil.mp h.tables e he⟩
  · intro h
    refine ⟨fun l hl => ?_, tablesOf_eq_nil.mpr fun e he => (h e he).tables⟩
    obtain ⟨e, he, hle⟩ := mem_labelsOf.mp hl
    exact (h e he).labels hle

/-- A condition of one local term is local. -/
lemma isLocal_ofExpr (h : e.IsLocal label) : (ofExpr e).IsLocal label :=
  isLocal_iff.mpr fun _ he => List.mem_singleton.mp he ▸ h

/-- A local condition is the same in all databases. -/
lemma IsLocal.truth_eq {V : Type} (S : Scalars V) {db db' : Database V} (h : c.IsLocal label)
    (env : Env V) : c.truth S db env = c.truth S db' env :=
  congrArg S.truth (Expr.eval_eq_of_tables S h.tables env)

end Condition

end Sql

open Sql

/-! ## The value of a path -/

/-- A key inside a document is looked up on the same row. -/
lemma ColumnPath.memberAt_isLocal {label : String} {e : Expr} (h : e.IsLocal label)
    (keys : List String) : (memberAt e keys).IsLocal label := by
  induction keys generalizing e with
  | nil => exact h
  | cons key rest ih =>
    cases rest with
    | nil => exact h.member key true
    | cons next rest => exact ih (h.member key false)

/-- The value of a path is one of the row that holds its column. -/
lemma ColumnPath.expr_isLocal (p : ColumnPath) (label : String) : (p.expr label).IsLocal label :=
  memberAt_isLocal (Expr.isLocal_column label p.leaf) p.keys

/-! ## Trees -/

section

variable {p : ColumnPath} {label : String} {e : Expr}

/-- What leaf filters compare is on the row that holds the column. -/
lemma ColumnPath.IsOperand.isLocal (h : p.IsOperand label e) : e.IsLocal label := by
  cases h with
  | plain => exact p.expr_isLocal label
  | cast _ => exact (p.expr_isLocal label).cast _

/-- So are the tests that they become. -/
lemma ColumnPath.IsTest.isLocal (h : p.IsTest label e) : e.IsLocal label := by
  cases h with
  | isNull negated => exact (p.expr_isLocal label).isNull negated
  | isIn values => exact (p.expr_isLocal label).isIn false values
  | compare op v he => exact he.isLocal.compare op (Expr.isLocal_literal v)
  | like negated pattern he => exact he.isLocal.like negated pattern

/-- **The condition of a tree** is one on the row that holds the column. -/
theorem FilterNode.compile_isLocal {c : Condition} (node : FilterNode)
    (h : node.compile p label = .ok c) : c.IsLocal label := by
  have hgroup : ∀ negated junction terms, (∀ e ∈ terms, e.IsLocal label) →
      (Expr.group negated junction terms).IsLocal label :=
    fun negated junction terms => (Condition.isLocal_iff (c := ⟨negated, junction, terms⟩)).mpr
  rw [Condition.isLocal_iff]
  exact node.forall_terms_of_compile (fun _ he => he.isLocal) hgroup h

end

/-! ## Chains of relations -/

/-- What joins a hop to its parent takes the rows of both and nothing else. -/
lemma Hop.correlation_labels (h : Hop) (parent : String) :
    (h.correlation parent).toExpr.labels ⊆ [h.label parent, parent] := by
  unfold Hop.correlation Hop.live?
  cases h.softDelete <;>
    simp [Condition.all, Condition.addExpr, Condition.addExpr?, Condition.toExpr, Expr.labels,
      labelsOf]

/-- An existence test along a hop takes the row of the parent, if what is asked of the related row
takes no other than that. -/
lemma Hop.existsExpr_labels (h : Hop) (parent : String) {inner : Option Condition}
    (hinner : ∀ c, inner = some c → c.toExpr.labels ⊆ [h.label parent]) :
    (h.existsExpr parent inner).labels ⊆ [parent] := by
  have hcorrelation := h.correlation_labels parent
  intro label hlabel
  rw [Hop.existsExpr, Expr.labels, List.mem_filter] at hlabel
  obtain ⟨hmem, hne⟩ := hlabel
  have hne' : label ≠ h.label parent := by simpa using hne
  cases inner with
  | none => simpa [hne'] using hcorrelation hmem
  | some c =>
    rw [Condition.add?, Condition.labels_add, List.mem_append] at hmem
    rcases hmem with hmem | hmem
    · simpa [hne'] using hcorrelation hmem
    · exact absurd (List.mem_singleton.mp (hinner c rfl hmem)) hne'

/-- A chain of existence tests takes the row it starts from, if the condition at its end takes no
other than the row at its end.

**Proof sketch.** Induction on the hops: each one hides the name of the row that it enters. -/
lemma existsAlong_labels {hops : List Hop} {parent : String} {inner : Option Condition}
    (hinner : ∀ c, inner = some c →
      c.toExpr.labels ⊆ [hops.foldl (fun label h => h.label label) parent]) :
    ∀ c, existsAlong parent inner hops = some c → c.toExpr.labels ⊆ [parent] := by
  induction hops generalizing parent with
  | nil => exact hinner
  | cons h rest ih =>
    intro c hc
    rw [existsAlong, Option.some.injEq] at hc
    rw [← hc, Condition.labels_ofExpr]
    exact h.existsExpr_labels parent (ih hinner)

namespace ColumnPath

variable {p : ColumnPath} {base : String} {c : Condition}

/-- A condition through relations takes the row of the subject only. -/
lemma related_labels (h : c.toExpr.labels ⊆ [p.leafLabel base]) :
    (p.related base c).toExpr.labels ⊆ [base] := by
  have hchain : ∀ d, existsAlong base (some c) p.hops = some d → d.toExpr.labels ⊆ [base] :=
    existsAlong_labels fun d hd => Option.some.inj hd ▸ h
  unfold related
  cases hhops : existsAlong base (some c) p.hops with
  | some d => exact hchain d hhops
  | none =>
    cases hp : p.hops with
    | nil => rwa [p.leafLabel_of_hops_eq_nil hp] at h
    | cons hop rest => rw [hp] at hhops; cases hhops

/-- The lack of a related row shows in the row of the subject only. -/
lemma missing?_labels {e : Expr} (h : p.missing? base = some e) : e.labels ⊆ [base] := by
  unfold missing? at h
  split at h
  · cases h
  · next hop rest _ =>
    rw [Option.some.injEq] at h
    rw [← h]
    exact hop.existsExpr_labels base (existsAlong_labels fun d hd => nomatch hd)

end ColumnPath

/-- **The condition of a tree on the subject** takes the row of the subject only, through however
many relations the column is reached. -/
theorem FilterNode.entry_labels {node : FilterNode} {p : ColumnPath} {base : String}
    {c : Condition} (h : node.entry p base = .ok c) : c.toExpr.labels ⊆ [base] := by
  obtain ⟨predicate, hpredicate, h⟩ := bind_eq_ok.mp h
  have hrelated : (p.related base predicate).toExpr.labels ⊆ [base] :=
    p.related_labels (node.compile_isLocal hpredicate).labels
  rw [← pure_eq_ok.mp h]
  split
  · next missing hmissing _ =>
    rw [Condition.labels_addExpr, Condition.labels_add]
    exact List.append_subset.mpr
      ⟨List.append_subset.mpr ⟨List.nil_subset _, hrelated⟩, p.missing?_labels hmissing⟩
  · exact hrelated

end DataGrid
