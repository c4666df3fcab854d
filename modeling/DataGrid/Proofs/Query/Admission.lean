import DataGrid.Proofs.Filter.Locality
import DataGrid.Proofs.Path.Labels
import DataGrid.Proofs.Query.Restriction
import DataGrid.Query.Listing
import DataGrid.Schema.Zoo

/-!
# The rows of a compiled request

A request that compiles is about the rows that pass every single restriction: that of the parent,
those of the custom filter, the filters of the request, its selection and the guard against deleted
rows. Page, total and value listing are about these rows and no others.

## Main definitions

* `DataGrid.Registry.Admits` — a row passes each restriction, taken alone.
* `DataGrid.Query.IsStatement` — the statements that are made of a compiled request.
* `DataGrid.Sql.Select.kept` — the rows of its own table that a statement is about.

## Main results

* `DataGrid.Registry.Stages.holds_restriction_iff` — the restriction of a compiled request in terms
  of its stages.
* `DataGrid.Registry.compile_narrows` — the rows of a compiled request are those that are admitted.

## Implementation notes

A condition that a custom filter brings along may take rows of any name. A listing joins further
tables, and a condition that takes a row of theirs sees it only there; what a listing finds behind
its joins is therefore stated for custom filters that take no row but that of the subject.
-/

namespace DataGrid

open Sql

/-! ## Statements -/

/-- The rows of its own table that the filter of a statement keeps, before anything is joined to
them. -/
def Sql.Select.kept {V : Type} (S : Scalars V) (db : Database V) (s : Select) : List (Row V) :=
  (db s.table).filter fun row => s.keeps S db [(s.table, row)]

/-- The statements that are made of a compiled request. -/
inductive Query.IsStatement (r : Registry) (q : Query) : Statement → Prop
  | page : q.IsStatement r q.page
  | total : q.IsStatement r q.total
  | listing {allowed : List String} {l : Listing} (h : q.listing r allowed = .ok l) :
    q.IsStatement r l.statement

namespace Query.IsStatement

variable {r : Registry} {q : Query} {statement : Statement}

/-- A listing is one of the same scope, along the path of the column that the request names. -/
lemma listing_spec {allowed : List String} {l : Listing} (h : q.listing r allowed = .ok l) :
    l.scope = q.scope ∧ ∃ column, q.request.column = some column ∧
      r.resolve q.subject.entity column = .ok l.path := by
  unfold Query.listing at h
  split at h
  · cases h
  · next column hcolumn =>
    split at h
    · obtain ⟨p, hp, h⟩ := bind_eq_ok.mp h
      rw [← pure_eq_ok.mp h]
      exact ⟨rfl, column, hcolumn, hp⟩
    · cases h

/-- All statements read the table of the scope. -/
lemma table_eq (h : q.IsStatement r statement) : statement.body.table = q.scope.table := by
  cases h with
  | page => rfl
  | total =>
    rw [Query.total, Scope.countStatement]
    split <;> rfl
  | listing h => rw [← (listing_spec h).1]; rfl

/-- All statements filter by the restriction of the scope. -/
lemma filter_eq (h : q.IsStatement r statement) : statement.body.filter = q.scope.filter? := by
  cases h with
  | page => rfl
  | total =>
    rw [Query.total, Scope.countStatement]
    split <;> rfl
  | listing h => rw [← (listing_spec h).1]; rfl

/-- Only listings join tables, and they join those of a path. -/
lemma joins_eq (h : q.IsStatement r statement) :
    ∃ hops, statement.body.joins = joinsAlong q.scope.table hops ∧
      (hops = [] ∨ ∃ column p, r.resolve q.subject.entity column = .ok p ∧ hops = p.hops) := by
  cases h with
  | page => exact ⟨[], rfl, .inl rfl⟩
  | total =>
    refine ⟨[], ?_, .inl rfl⟩
    rw [Query.total, Scope.countStatement]
    split <;> rfl
  | @listing allowed l h =>
    obtain ⟨hscope, column, -, hpath⟩ := listing_spec h
    exact ⟨l.path.hops, by rw [← hscope]; rfl, .inr ⟨column, l.path, hpath, rfl⟩⟩

end Query.IsStatement

/-! ## Restrictions, taken alone -/

section

variable {V : Type} (S : Scalars V) (db : Database V)

/-- A row passes each single restriction of a request on a subject. The row is the one that goes by
the name of the table in `env`. -/
structure Registry.Admits (r : Registry) (subject : Subject) (request : Request) (env : Env V) :
    Prop where
  /-- It belongs to the parent. -/
  parent : ∀ p, subject.parent = some p → ∃ key, literal p.column p.key = .ok key ∧
    (Expr.compare .eq (.column subject.entity.table p.column) (.literal key)).Holds S db env
  /-- It meets each condition of the custom filter. -/
  custom : ∀ op ∈ r.operations subject request, ∀ c,
    op.condition? subject.entity.table = some c → c.Holds S db env
  /-- It meets each filter but the one on the listed column. -/
  filters : ∀ entry ∈ request.filters, request.column ≠ some entry.1 →
    ∃ p c, r.resolve subject.entity entry.1 = .ok p ∧
      entry.2.entry p subject.entity.table = .ok c ∧ c.Holds S db env
  /-- It is selected. -/
  selection : ∀ selection, Selection.ofRequest? request = some selection →
    ∃ ids, selection.toggled.mapM (literal subject.entity.primaryKey) = .ok ids ∧
      (Expr.isIn (selection.mode = .except) (.column subject.entity.table subject.entity.primaryKey)
        ids).Holds S db env
  /-- It is not deleted, unless the custom filter includes deleted rows. -/
  live : .withTrashed ∉ r.operations subject request →
    ∀ name, subject.entity.softDelete = some name → env.cell subject.entity.table name = none

variable {r : Registry} {subject : Subject} {request : Request} (env : Env V)

/-- The scope of a subject is on the table of its entity, and the condition of it is that the row
belongs to the parent. -/
lemma Subject.holds_scope {start : Scope} (h : subject.scope = .ok start) :
    start.condition.Holds S db env ↔
      ∀ p, subject.parent = some p → ∃ key, literal p.column p.key = .ok key ∧
        (Expr.compare .eq (.column subject.entity.table p.column)
          (.literal key)).Holds S db env := by
  obtain ⟨ops, hstart, hops⟩ := subject.scope_spec h
  rw [hstart, Scope.holds_applyAll S db env Condition.isConjunction_all]
  cases hparent : subject.parent with
  | none =>
    rw [hparent] at hops
    have hnone : ops = [] := hops
    rw [hnone]
    exact iff_of_true ⟨Condition.holds_all S db env, fun _ h => nomatch h⟩ fun _ h => nomatch h
  | some p =>
    rw [hparent] at hops
    obtain ⟨key, hkey, hops⟩ := hops
    rw [hops]
    simp only [List.mem_singleton, forall_eq, ScopeChange.condition?, Option.some.injEq,
      forall_eq', hkey, Except.ok.injEq, exists_eq_left', Condition.Holds, Condition.truth_ofExpr]
    exact and_iff_right (Condition.holds_all S db env)

end

namespace Registry.Stages

variable {V : Type} (S : Scalars V) (db : Database V) (env : Env V)
variable {r : Registry} {subject : Subject} {request : Request} {q : Query} {start : Scope}
variable {conditions : List Condition} {selected : List ScopeChange}

/-- A selection adds at most one condition: that the row is among the selected ones. -/
lemma holds_selection (h : r.Stages subject request q start conditions selected) :
    (∀ op ∈ selected, ∀ c, op.condition? start.table = some c → c.Holds S db env) ↔
      ∀ selection, Selection.ofRequest? request = some selection →
        ∃ ids, selection.toggled.mapM (literal start.primaryKey) = .ok ids ∧
          (Expr.isIn (selection.mode = .except) (.column start.table start.primaryKey)
            ids).Holds S db env := by
  have hselection := h.selection
  cases hrequest : Selection.ofRequest? request with
  | none =>
    rw [hrequest] at hselection
    rw [show selected = [] from hselection]
    exact iff_of_true (fun _ h => nomatch h) fun _ h => nomatch h
  | some selection =>
    rw [hrequest] at hselection
    obtain ⟨ids, hids, hops⟩ := hselection
    rw [hops]
    simp only [List.mem_singleton, forall_eq, Selection.condition?_operation, Option.some.injEq,
      forall_eq', hids, Except.ok.injEq, exists_eq_left', Condition.Holds, Condition.truth_ofExpr,
      Expr.Holds]

/-- The conditions of the filters are those of the entries but the one on the listed column. -/
lemma holds_filters (h : r.Stages subject request q start conditions selected) :
    (∀ c ∈ conditions, c.Holds S db env) ↔
      ∀ entry ∈ request.filters, request.column ≠ some entry.1 →
        ∃ p c, r.resolve subject.entity entry.1 = .ok p ∧
          entry.2.entry p start.table = .ok c ∧ c.Holds S db env := by
  rw [forall_mem_iff_of_forall₂ (fun entry c c' hc hc' => ?_) h.filters]
  · simp only [List.mem_filter, decide_eq_true_eq, and_imp]
    refine forall₃_congr fun entry _ _ => ⟨?_, ?_⟩
    · rintro ⟨c, ⟨p, hp, hc⟩, hholds⟩
      exact ⟨p, c, hp, hc, hholds⟩
    · rintro ⟨p, c, hp, hc, hholds⟩
      exact ⟨c, ⟨p, hp, hc⟩, hholds⟩
  · obtain ⟨p, hp, hc⟩ := hc
    obtain ⟨p', hp', hc'⟩ := hc'
    rw [hp, Except.ok.injEq] at hp'
    rw [← hp', hc, Except.ok.injEq] at hc'
    exact hc'

/-- Only the custom filter can include deleted rows. -/
lemma withTrashed_mem_iff (h : r.Stages subject request q start conditions selected) :
    .withTrashed ∈ r.operations subject request ++ conditions.map .restrict ++ selected ↔
      .withTrashed ∈ r.operations subject request := by
  have hselected : ScopeChange.withTrashed ∉ selected := by
    intro hmem
    obtain ⟨c, hc, -⟩ := h.exists_condition_of_mem_selected _ hmem
    cases hc
  simp [List.mem_append, hselected]

/-- **The restriction of a compiled request** holds of a row when the row passes each restriction of
the stages, taken alone.

**Proof sketch.** All stages are operations on the scope of the subject, so `Scope.holds_applyAll`
takes the condition apart; what the operations of each stage add is known from `Stages`. -/
theorem holds_restriction_iff (h : r.Stages subject request q start conditions selected) :
    q.scope.restriction.Holds S db env ↔ r.Admits S db subject request env := by
  obtain ⟨htable, hkey, hsoft, htrashed, hstart⟩ := h.start_spec
  obtain ⟨orders, offset, limit, hscope⟩ := h.exists_scope_eq
  have hselection := h.holds_selection S db env
  have hfilters := h.holds_filters S db env
  have hparent := Subject.holds_scope S db env h.start_eq
  have hguard := h.withTrashed_mem_iff
  have hconjunction := Scope.isConjunction_applyAll hstart
    (r.operations subject request ++ conditions.map .restrict ++ selected)
  have hholds := Scope.holds_applyAll S db env hstart
    (r.operations subject request ++ conditions.map .restrict ++ selected)
  have hincluded := Scope.withTrashed_applyAll start
    (r.operations subject request ++ conditions.map .restrict ++ selected)
  rw [htrashed, hguard] at hincluded
  rw [htable, hkey] at hselection
  rw [htable] at hfilters
  have hrestriction : q.scope.restriction = (start.applyAll
      (r.operations subject request ++ conditions.map .restrict ++ selected)).restriction := by
    rw [hscope]
    rfl
  rw [hrestriction, Scope.holds_restriction S db env hconjunction, hholds, hparent]
  simp only [List.forall_mem_append, List.forall_mem_map, ScopeChange.condition?_restrict,
    Option.some.injEq, forall_eq', htable, hselection, hfilters, Scope.table_applyAll,
    Scope.softDelete_applyAll, hsoft]
  rw [Bool.eq_false_iff, Ne, hincluded]
  constructor
  · rintro ⟨⟨hp, ⟨hc, hf⟩, hs⟩, hl⟩
    exact ⟨hp, hc, hf, hs, fun hnot => hl (by simpa using hnot)⟩
  · rintro ⟨hp, hc, hf, hs, hl⟩
    exact ⟨⟨hp, ⟨hc, hf⟩, hs⟩, fun hnot => hl (by simpa using hnot)⟩

/-- The restriction of a compiled request takes the row of the subject only, if the conditions of
the custom filter do. -/
lemma labels_restriction (h : r.Stages subject request q start conditions selected)
    (hcustom : ∀ op ∈ r.operations subject request, ∀ c,
      op.condition? subject.entity.table = some c → c.toExpr.labels ⊆ [subject.entity.table]) :
    q.scope.restriction.toExpr.labels ⊆ [subject.entity.table] := by
  obtain ⟨ops, hscope, hops⟩ := h.exists_operations
  have hlabels : ((Subject.freshScope subject.entity).applyAll ops).condition.toExpr.labels ⊆
      [subject.entity.table] := by
    refine Scope.labels_applyAll (List.nil_subset _) fun op hop c hc => ?_
    rcases hops op hop with hcustom' | ⟨d, hd, hcases⟩
    · exact hcustom op hcustom' c hc
    · obtain rfl : d = c := Option.some.inj (hd.symm.trans hc)
      rcases hcases with hlocal | ⟨column, node, p, -, hentry⟩
      · exact hlocal.labels
      · exact FilterNode.entry_labels hentry
  have htable : ((Subject.freshScope subject.entity).applyAll ops).table = subject.entity.table :=
    Scope.table_applyAll _ _
  rw [hscope, Scope.restriction_refined, ← htable]
  exact Scope.labels_restriction (htable ▸ hlabels)

end Registry.Stages

/-! ## The rows -/

section

variable {V : Type} (S : Scalars V) (db : Database V)

open Classical in
/-- The rows of a subject that are admitted, as often as they stand in the table. -/
noncomputable def Registry.admitted (r : Registry) (subject : Subject) (request : Request) :
    List (Row V) :=
  (db subject.entity.table).filter fun row =>
    r.Admits S db subject request (.ofRow subject.entity.table row)

variable {r : Registry} {subject : Subject} {request : Request} {q : Query}
variable {start : Scope} {conditions : List Condition} {selected : List ScopeChange}

/-- An admitted row is one of the table that passes each restriction. -/
lemma Registry.mem_admitted {row : Row V} :
    row ∈ r.admitted S db subject request ↔ row ∈ db subject.entity.table ∧
      r.Admits S db subject request (.ofRow subject.entity.table row) := by
  simp only [Registry.admitted, List.mem_filter, decide_eq_true_eq]

/-- The filter of a statement keeps the rows that are admitted. -/
lemma Registry.Stages.kept_eq (h : r.Stages subject request q start conditions selected)
    {statement : Statement} (hs : q.IsStatement r statement) :
    statement.body.kept S db = r.admitted S db subject request := by
  have htable : statement.body.table = subject.entity.table := hs.table_eq.trans h.table_eq
  unfold Select.kept Registry.admitted
  rw [htable]
  refine List.filter_congr fun row _ => ?_
  rw [Scope.keeps_eq S db h.isConjunction hs.filter_eq, decide_eq_decide]
  exact h.holds_restriction_iff S db _

/-- What a statement finds is the admitted rows with the rows joined to them, provided that its
filter does not look at the joined rows. -/
lemma Registry.Stages.found_eq (h : r.Stages subject request q start conditions selected)
    {statement : Statement} (hs : q.IsStatement r statement)
    (hjoins : statement.body.joins = [] ∨ ∀ op ∈ r.operations subject request, ∀ c,
      op.condition? subject.entity.table = some c → c.toExpr.labels ⊆ [subject.entity.table]) :
    statement.body.found S db =
      leftJoined S db
        ((r.admitted S db subject request).map fun row => [(subject.entity.table, row)])
        statement.body.joins := by
  have htable : statement.body.table = subject.entity.table := hs.table_eq.trans h.table_eq
  have hkeep : ∀ join ∈ statement.body.joins, ∀ row frames,
      statement.body.keeps S db ((join.label, row) :: frames) =
        statement.body.keeps S db frames := by
    intro join hjoin row frames
    rcases hjoins with hnone | hcustom
    · rw [hnone] at hjoin
      exact nomatch hjoin
    · -- the name of a joined table is longer than that of the subject
      obtain ⟨hops, hchain, -⟩ := hs.joins_eq
      rw [hchain] at hjoin
      have hlong := length_lt_of_mem_joinsAlong hjoin
      rw [h.table_eq] at hlong
      have hnot : join.label ∉ q.scope.restriction.toExpr.labels := by
        intro hmem
        rw [List.mem_singleton.mp (h.labels_restriction hcustom hmem)] at hlong
        exact Nat.lt_irrefl _ hlong
      rw [Scope.keeps_eq S db h.isConjunction hs.filter_eq,
        Scope.keeps_eq S db h.isConjunction hs.filter_eq, decide_eq_decide]
      exact Condition.holds_of_notMem S hnot row frames
  rw [Select.found, leftJoined_eq, leftJoined_eq,
    extended_filter (fun _ _ _ hf => Join.exists_of_mem_partnersOrNull hf) hkeep,
    ← h.kept_eq S db hs, Select.kept, htable, List.filter_map]
  rfl

end

end DataGrid
