import DataGrid.Proofs.Store.Evaluation
import Mathlib.Data.List.Forall2

/-!
# What an expression looks at

An expression looks at the rows that go by certain names around it, and at the tables of its own
subqueries. Nothing else of the database or of the surrounding rows has an influence on it.

## Main definitions

* `DataGrid.Sql.Expr.labels` — the names of rows that an expression takes from around it.
* `DataGrid.Sql.Expr.tables` — the tables of its subqueries.

## Main results

* `DataGrid.Sql.Expr.eval_congr` — an expression has one cell wherever what it looks at is the
  same.
-/

namespace DataGrid.Sql

/-! ## Names and tables -/

mutual

/-- The names of rows that an expression takes from around it; the names that a subquery gives to
its own rows are not among them. -/
def Expr.labels : Expr → List String
  | .column table _ => [table]
  | .output _ => []
  | .literal _ => []
  | .countRows => []
  | .extreme _ e => e.labels
  | .cast e _ => e.labels
  | .member e _ _ => e.labels
  | .compare _ left right => left.labels ++ right.labels
  | .isNull _ e => e.labels
  | .isIn _ e _ => e.labels
  | .like _ e _ => e.labels
  | .not e => e.labels
  | .group _ _ terms => labelsOf terms
  | .existsIn _ label filter => filter.labels.filter (· != label)
  | .lookup _ leaf _ label joins filter =>
    (labelsThrough (leaf.labels ++ filter.labels) joins).filter (· != label)

/-- The names that several expressions take from around them. -/
def labelsOf : List Expr → List String
  | [] => []
  | e :: rest => e.labels ++ labelsOf rest

/-- The names that joins, and what stands inside them, take from around the joins. -/
def labelsThrough (inner : List String) : List Join → List String
  | [] => inner
  | .mk _ label on :: rest => (on.labels ++ labelsThrough inner rest).filter (· != label)

end

mutual

/-- The tables of the subqueries of an expression. -/
def Expr.tables : Expr → List String
  | .column _ _ => []
  | .output _ => []
  | .literal _ => []
  | .countRows => []
  | .extreme _ e => e.tables
  | .cast e _ => e.tables
  | .member e _ _ => e.tables
  | .compare _ left right => left.tables ++ right.tables
  | .isNull _ e => e.tables
  | .isIn _ e _ => e.tables
  | .like _ e _ => e.tables
  | .not e => e.tables
  | .group _ _ terms => tablesOf terms
  | .existsIn table _ filter => table :: filter.tables
  | .lookup _ leaf table _ joins filter =>
    table :: (leaf.tables ++ filter.tables ++ tablesThrough joins)

/-- The tables of the subqueries of several expressions. -/
def tablesOf : List Expr → List String
  | [] => []
  | e :: rest => e.tables ++ tablesOf rest

/-- The tables of joins and of the subqueries in their conditions. -/
def tablesThrough : List Join → List String
  | [] => []
  | .mk table _ on :: rest => table :: (on.tables ++ tablesThrough rest)

end

/-- The names of a condition are those of its terms. -/
lemma mem_labelsOf {label : String} {terms : List Expr} :
    label ∈ labelsOf terms ↔ ∃ e ∈ terms, label ∈ e.labels := by
  induction terms with
  | nil => simp [labelsOf]
  | cons e rest ih => rw [labelsOf, List.mem_append, ih, List.exists_mem_cons_iff]

/-! ## Agreement -/

variable {V : Type}

/-- The same rows go by the given names. -/
def AgreeOn (labels : List String) (frames frames' : Frames V) : Prop :=
  ∀ label ∈ labels, Keyed.find? label frames = Keyed.find? label frames'

/-- Agreement on some names is agreement on fewer of them. -/
lemma AgreeOn.mono {labels labels' : List String} {frames frames' : Frames V}
    (h : AgreeOn labels frames frames') (hsub : labels' ⊆ labels) :
    AgreeOn labels' frames frames' := fun label hl => h label (hsub hl)

/-- A row that is entered on both sides need not have been agreed on. -/
lemma AgreeOn.enter {labels : List String} {frames frames' : Frames V} {label : String}
    (h : AgreeOn (labels.filter (· != label)) frames frames') (row : Row V) :
    AgreeOn labels ((label, row) :: frames) ((label, row) :: frames') := by
  intro other hother
  rw [Keyed.find?, Keyed.find?]
  by_cases hl : label = other
  · rw [if_pos hl, if_pos hl]
  · rw [if_neg hl, if_neg hl]
    refine h other (List.mem_filter.mpr ⟨hother, ?_⟩)
    simpa using Ne.symm hl

/-- A row whose name is not taken makes no difference. -/
lemma AgreeOn.of_notMem {labels : List String} {label : String} (h : label ∉ labels) (row : Row V)
    (frames : Frames V) : AgreeOn labels ((label, row) :: frames) frames := by
  intro other hother
  have hne : label ≠ other := fun heq => h (heq ▸ hother)
  rw [Keyed.find?, if_neg hne]

/-- One row after the other is entered on both sides of an agreement, and tests that agree pick
the same of them. -/
lemma forall₂_enter_filter {labels : List String} {frames frames' : Frames V} {label : String}
    (h : AgreeOn (labels.filter (· != label)) frames frames') (rows : List (Row V))
    (test test' : Frames V → Bool)
    (htest : ∀ f f', AgreeOn labels f f' → test f = test' f') :
    List.Forall₂ (AgreeOn labels)
      ((rows.map fun row => (label, row) :: frames).filter test)
      ((rows.map fun row => (label, row) :: frames').filter test') := by
  induction rows with
  | nil => exact List.Forall₂.nil
  | cons row rows ih =>
    have hrow := h.enter row
    rw [List.map_cons, List.map_cons, List.filter_cons, List.filter_cons, htest _ _ hrow]
    split
    · exact List.Forall₂.cons hrow ih
    · exact ih

/-- Rows that agree pairwise have extensions that agree pairwise. -/
lemma forall₂_flatMap {labels labels' : List String} {rows rows' : List (Frames V)}
    (h : List.Forall₂ (AgreeOn labels) rows rows') {f f' : Frames V → List (Frames V)}
    (hf : ∀ r r', AgreeOn labels r r' → List.Forall₂ (AgreeOn labels') (f r) (f' r')) :
    List.Forall₂ (AgreeOn labels') (rows.flatMap f) (rows'.flatMap f') := by
  induction h with
  | nil => exact List.Forall₂.nil
  | cons hr _ ih =>
    rw [List.flatMap_cons, List.flatMap_cons]
    exact List.rel_append (hf _ _ hr) ih

/-- Functions that agree wherever the rows do have the same values on rows that agree pairwise. -/
lemma map_eq_of_forall₂ {labels : List String} {rows rows' : List (Frames V)} {α : Type}
    (h : List.Forall₂ (AgreeOn labels) rows rows') (f f' : Frames V → α)
    (hf : ∀ r r', AgreeOn labels r r' → f r = f' r') : rows.map f = rows'.map f' := by
  induction h with
  | nil => rfl
  | cons hr _ ih => rw [List.map_cons, List.map_cons, hf _ _ hr, ih]

/-- Tests that agree wherever the rows do keep pairwise agreement. -/
lemma forall₂_filter {labels : List String} {rows rows' : List (Frames V)}
    (h : List.Forall₂ (AgreeOn labels) rows rows') (test test' : Frames V → Bool)
    (htest : ∀ f f', AgreeOn labels f f' → test f = test' f') :
    List.Forall₂ (AgreeOn labels) (rows.filter test) (rows'.filter test') := by
  induction h with
  | nil => exact List.Forall₂.nil
  | cons hr _ ih =>
    rw [List.filter_cons, List.filter_cons, htest _ _ hr]
    split
    · exact List.Forall₂.cons hr ih
    · exact ih

/-! ## Evaluation -/

variable (S : Scalars V) {db db' : Database V}

mutual

/-- **What an expression looks at decides its cell**: two databases that agree on the tables of its
subqueries, and two environments that agree on the names it takes, give it the same cell.

**Proof sketch.** Induction on the expression. A subquery reads the same rows on both sides; each
row is entered under the same name, so the agreement holds inside for that name as well. -/
theorem Expr.eval_congr {env env' : Env V} : ∀ e : Expr,
    (∀ t ∈ e.tables, db t = db' t) → AgreeOn e.labels env.frames env'.frames →
      env.outputs = env'.outputs → env.peers = env'.peers → e.eval S db env = e.eval S db' env'
  | .column table name, _, hl, _, _ => by
    rw [Expr.eval, Expr.eval, Env.cell, Env.cell, hl table (List.mem_singleton_self table)]
  | .output name, _, _, ho, _ => by rw [Expr.eval, Expr.eval, Env.output, Env.output, ho]
  | .literal v, _, _, _, _ => by rw [Expr.eval, Expr.eval]
  | .countRows, _, _, _, hp => by rw [Expr.eval, Expr.eval, hp]
  | .extreme pick e, hdb, _, _, hp => by
    rw [Expr.eval, Expr.eval, hp]
    congr 1
    exact List.map_congr_left fun frames _ => Expr.eval_congr e hdb (fun _ _ => rfl) rfl rfl
  | .cast e type, hdb, hl, ho, hp => by rw [Expr.eval, Expr.eval, Expr.eval_congr e hdb hl ho hp]
  | .member e key asText, hdb, hl, ho, hp => by
    rw [Expr.eval, Expr.eval, Expr.eval_congr e hdb hl ho hp]
  | .compare op left right, hdb, hl, ho, hp => by
    have hleft := Expr.eval_congr left (fun t ht => hdb t (List.mem_append_left _ ht))
      (hl.mono (List.subset_append_left _ _)) ho hp
    have hright := Expr.eval_congr right (fun t ht => hdb t (List.mem_append_right _ ht))
      (hl.mono (List.subset_append_right _ _)) ho hp
    rw [Expr.eval, Expr.eval, hleft, hright]
  | .isNull negated e, hdb, hl, ho, hp => by
    rw [Expr.eval, Expr.eval, Expr.eval_congr e hdb hl ho hp]
  | .isIn negated e values, hdb, hl, ho, hp => by
    rw [Expr.eval, Expr.eval, Expr.eval_congr e hdb hl ho hp]
  | .like negated e pattern, hdb, hl, ho, hp => by
    rw [Expr.eval, Expr.eval, Expr.eval_congr e hdb hl ho hp]
  | .not e, hdb, hl, ho, hp => by rw [Expr.eval, Expr.eval, Expr.eval_congr e hdb hl ho hp]
  | .group negated junction terms, hdb, hl, ho, hp => by
    rw [Expr.eval, Expr.eval, truths_congr terms hdb hl ho hp]
  | .existsIn table label filter, hdb, hl, _, _ => by
    have hfilter : ∀ row, filter.eval S db (env.enter label row) =
        filter.eval S db' (env'.enter label row) := fun row =>
      Expr.eval_congr filter (fun t ht => hdb t (List.mem_cons_of_mem _ ht)) (hl.enter row) rfl rfl
    rw [Expr.eval, Expr.eval, hdb table List.mem_cons_self]
    simp only [hfilter]
  | .lookup pick leaf table label joins filter, hdb, hl, _, _ => by
    have hsub : ∀ t ∈ leaf.tables ++ filter.tables ++ tablesThrough joins, db t = db' t :=
      fun t ht => hdb t (List.mem_cons_of_mem _ ht)
    have hstart := forall₂_enter_filter hl (db table) (fun _ => true) (fun _ => true)
      fun _ _ _ => rfl
    rw [List.filter_true, List.filter_true] at hstart
    have hrows := joined_congr joins (leaf.labels ++ filter.labels) _ _
      (fun t ht => hsub t (List.mem_append_right _ ht)) hstart
    have hfilter : ∀ r r', AgreeOn (leaf.labels ++ filter.labels) r r' →
        filter.eval S db { frames := r } = filter.eval S db' { frames := r' } := fun r r' hr =>
      Expr.eval_congr filter
        (fun t ht => hsub t (List.mem_append_left _ (List.mem_append_right _ ht)))
        (hr.mono (List.subset_append_right _ _)) rfl rfl
    have hleaf : ∀ r r', AgreeOn (leaf.labels ++ filter.labels) r r' →
        leaf.eval S db { frames := r } = leaf.eval S db' { frames := r' } := fun r r' hr =>
      Expr.eval_congr leaf
        (fun t ht => hsub t (List.mem_append_left _ (List.mem_append_left _ ht)))
        (hr.mono (List.subset_append_left _ _)) rfl rfl
    have hfound := forall₂_filter hrows
      (fun frames => S.truth (filter.eval S db { frames := frames }) == some true)
      (fun frames => S.truth (filter.eval S db' { frames := frames }) == some true)
      fun r r' hr => by rw [hfilter r r' hr]
    have hcells := map_eq_of_forall₂ hfound _ _ hleaf
    cases pick with
    | none =>
      rw [Expr.eval, Expr.eval, ← hdb table List.mem_cons_self]
      exact congrArg (fun cells => cells.head?.join) hcells
    | some extreme =>
      rw [Expr.eval, Expr.eval, ← hdb table List.mem_cons_self]
      exact congrArg (S.extreme extreme) hcells

/-- What several expressions look at decides their truth values. -/
theorem truths_congr {env env' : Env V} : ∀ terms : List Expr,
    (∀ t ∈ tablesOf terms, db t = db' t) → AgreeOn (labelsOf terms) env.frames env'.frames →
      env.outputs = env'.outputs → env.peers = env'.peers →
      truths S db env terms = truths S db' env' terms
  | [], _, _, _, _ => rfl
  | e :: rest, hdb, hl, ho, hp => by
    rw [truths, truths,
      Expr.eval_congr e (fun t ht => hdb t (List.mem_append_left _ ht))
        (hl.mono (List.subset_append_left _ _)) ho hp,
      truths_congr rest (fun t ht => hdb t (List.mem_append_right _ ht))
        (hl.mono (List.subset_append_right _ _)) ho hp]

/-- Joins of rows that agree on what the joins and `inner` take agree on `inner`. -/
theorem joined_congr : ∀ (joins : List Join) (inner : List String) (rows rows' : List (Frames V)),
    (∀ t ∈ tablesThrough joins, db t = db' t) →
      List.Forall₂ (AgreeOn (labelsThrough inner joins)) rows rows' →
      List.Forall₂ (AgreeOn inner) (joined S db rows joins) (joined S db' rows' joins)
  | [], _, _, _, _, h => h
  | .mk table label on :: rest, inner, rows, rows', hdb, h => by
    rw [joined, joined, ← hdb table List.mem_cons_self]
    refine joined_congr rest inner _ _
      (fun t ht => hdb t (List.mem_cons_of_mem _ (List.mem_append_right _ ht))) ?_
    refine forall₂_flatMap h fun r r' hr => ?_
    have hon : ∀ f f', AgreeOn (on.labels ++ labelsThrough inner rest) f f' →
        on.eval S db { frames := f } = on.eval S db' { frames := f' } := fun f f' hf =>
      Expr.eval_congr on
        (fun t ht => hdb t (List.mem_cons_of_mem _ (List.mem_append_left _ ht)))
        (hf.mono (List.subset_append_left _ _)) rfl rfl
    have hentered := forall₂_enter_filter hr (db table)
      (fun frames => S.truth (on.eval S db { frames := frames }) == some true)
      (fun frames => S.truth (on.eval S db' { frames := frames }) == some true)
      fun f f' hf => by rw [hon f f' hf]
    exact hentered.imp fun _ _ hf => hf.mono (List.subset_append_right _ _)

end

/-- An expression without subqueries is the same in all databases. -/
lemma Expr.eval_eq_of_tables {e : Expr} (h : e.tables = []) (env : Env V) :
    e.eval S db env = e.eval S db' env :=
  Expr.eval_congr S e (fun t ht => by rw [h] at ht; cases ht) (fun _ _ => rfl) rfl rfl

/-- A restriction does not see a row whose name it does not take. -/
lemma Condition.holds_of_notMem {c : Condition} {label : String} (h : label ∉ c.toExpr.labels)
    (row : Row V) (frames : Frames V) :
    c.Holds S db { frames := (label, row) :: frames } ↔ c.Holds S db { frames := frames } := by
  have heval : c.toExpr.eval S db { frames := (label, row) :: frames } =
      c.toExpr.eval S db { frames := frames } :=
    Expr.eval_congr S c.toExpr (fun _ _ => rfl) (AgreeOn.of_notMem h row frames) rfl rfl
  rw [Condition.Holds, Condition.truth, Expr.truth, heval]
  rfl

end DataGrid.Sql
