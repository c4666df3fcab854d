import DataGrid.Proofs.Store.Mentions
import DataGrid.Proofs.Store.Result

/-!
# Statements in two databases

A statement has the same results in two databases when it finds the same rows in both, in whatever
order, when its ordering cannot tell the databases apart, and when everything else that it computes
comes from the rows it has found.

## Main definitions

* `DataGrid.Sql.Output.tables` — the tables of the subqueries of an output.

## Main results

* `DataGrid.Sql.Select.returns_congr` — a statement has the same results in both databases.
-/

namespace DataGrid.Sql

/-- The tables of the subqueries of an item of a SELECT list. -/
def Output.tables : Output → List String
  | .row _ => []
  | .expr e => e.tables
  | .named e _ => e.tables

namespace Select

variable {V : Type} (S : Scalars V) {db db' : Database V} {s : Select}

/-! ## What comes from the rows -/

/-- Outputs without subqueries have the same cells in both databases. -/
lemma cells_congr (h : ∀ o ∈ s.outputs, o.tables = []) : s.cells S db = s.cells S db' := by
  funext unit
  refine List.map_congr_left fun o ho => ?_
  have htables := h o ho
  cases o with
  | row table => rfl
  | expr e => exact congrArg Cell.value (Expr.eval_eq_of_tables S htables _)
  | named e name => exact congrArg Cell.value (Expr.eval_eq_of_tables S htables _)

/-- Outputs without subqueries have the same named columns in both databases. -/
lemma names_congr (h : ∀ o ∈ s.outputs, o.tables = []) : s.names S db = s.names S db' := by
  funext unit
  refine List.filterMap_congr fun o ho => ?_
  have htables := h o ho
  cases o with
  | row table => rfl
  | expr e => rfl
  | named e name =>
    exact congrArg (fun cell => some (name, cell)) (Expr.eval_eq_of_tables S htables _)

/-- Group columns without subqueries have the same tuples in both databases. -/
lemma tuple_congr (h : ∀ e ∈ s.groups, e.tables = []) : s.tuple S db = s.tuple S db' := by
  funext frames
  exact List.map_congr_left fun e he => Expr.eval_eq_of_tables S (h e he) _

/-- The rows fall into the same groups in both databases. -/
lemma units_congr (houtputs : ∀ o ∈ s.outputs, o.tables = [])
    (hgroups : ∀ e ∈ s.groups, e.tables = []) (rows : List (Frames V)) :
    s.units S db rows = s.units S db' rows := by
  have hgroupsOf : s.groupsOf S db rows = s.groupsOf S db' rows := by
    rw [groupsOf, groupsOf, tuple_congr S hgroups]
  rw [units, units, hgroupsOf, cells_congr S houtputs]

/-! ## Ordering -/

/-- Terms that cannot tell the databases apart order groups in the same way. -/
lemma orderUnits_congr_of_eq (houtputs : ∀ o ∈ s.outputs, o.tables = [])
    {terms : List (Expr × Direction)}
    (h : ∀ t ∈ terms, ∀ env, S.cellOrder (t.1.eval S db env) (t.1.eval S db' env) = .eq) :
    s.orderUnits S db terms = s.orderUnits S db' terms := by
  induction terms with
  | nil => rfl
  | cons term rest ih =>
    obtain ⟨e, d⟩ := term
    rw [List.forall_mem_cons] at h
    have hkey : ∀ u, S.cellOrder (s.key S db e u) (s.key S db' e u) = .eq := by
      intro u
      rw [key, key, names_congr S houtputs]
      exact h.1 _
    have horder : ∀ u u', S.cellOrder (s.key S db e u) (s.key S db e u') =
        S.cellOrder (s.key S db' e u) (s.key S db' e u') := by
      intro u u'
      rw [Std.TransCmp.congr_left (hkey u), Std.TransCmp.congr_right (hkey u')]
    cases d <;> rw [orderUnits, orderUnits, ih h.2] <;> simp only [horder]

/-! ## Results -/

/-- What a statement returns in one database it returns in the other. -/
lemma Returns.congr (hfound : (s.found S db).Perm (s.found S db'))
    (houtputs : ∀ o ∈ s.outputs, o.tables = []) (hgroups : ∀ e ∈ s.groups, e.tables = [])
    (horders : ∀ t ∈ s.orders, ∀ env,
      S.cellOrder (t.1.eval S db env) (t.1.eval S db' env) = .eq)
    {result : List (List (Cell V))} (h : s.Returns S db result) : s.Returns S db' result := by
  obtain ⟨scan, hscan, arranged, hunits, harranged, hresult⟩ := h
  refine ⟨scan, hscan.trans hfound, arranged, ?_, ?_, ?_⟩
  · rw [← units_congr S houtputs hgroups]
    exact hunits
  · unfold Arranged
    rw [← orderUnits_congr_of_eq S houtputs horders]
    exact harranged
  · rw [← cells_congr S houtputs]
    exact hresult

/-- **Two databases in which a statement finds the same rows** and which its ordering cannot tell
apart give it the same results, if its outputs and groups have no subqueries. -/
theorem returns_congr (hfound : (s.found S db).Perm (s.found S db'))
    (houtputs : ∀ o ∈ s.outputs, o.tables = []) (hgroups : ∀ e ∈ s.groups, e.tables = [])
    (horders : ∀ t ∈ s.orders, ∀ env,
      S.cellOrder (t.1.eval S db env) (t.1.eval S db' env) = .eq)
    {result : List (List (Cell V))} : s.Returns S db result ↔ s.Returns S db' result :=
  ⟨Returns.congr S hfound houtputs hgroups horders,
    Returns.congr S hfound.symm houtputs hgroups
      fun t ht env => Std.OrientedCmp.eq_symm (horders t ht env)⟩

end Select

/-- Two databases give a whole statement the same results, if they do so to the part of it that
finds rows. -/
theorem Statement.returns_congr {V : Type} (S : Scalars V) {db db' : Database V}
    {statement : Statement}
    (h : ∀ result, statement.body.Returns S db result ↔ statement.body.Returns S db' result)
    (result : List (List (Cell V))) :
    statement.Returns S db result ↔ statement.Returns S db' result := by
  cases statement with
  | select s => exact h result
  | countOf s label => exact exists_congr fun rows => and_congr_left fun _ => h rows

end DataGrid.Sql
