import DataGrid.Proofs.Path.Live
import DataGrid.Proofs.Path.Routes
import DataGrid.Proofs.Query.Admission
import DataGrid.Proofs.Query.Ordering
import DataGrid.Proofs.Store.Agreement
import DataGrid.Schema.Zoo

/-!
# Deleted rows

Deleted rows are invisible. Two databases that differ in deleted rows only give the same page, the
same total and the same value listing, provided that the custom filter does not include deleted rows
and keeps to the columns of the subject.

A table may be shared by several entities. Rows of it count as deleted here when all entities on it
name the same column for that.

## Main definitions

* `DataGrid.Registry.Guards` — all entities on a table mark deleted rows in the same column.
* `DataGrid.Registry.Agree` — two databases differ in deleted rows only.
* `DataGrid.ScopeChange.IsPlain` — an operation of a custom filter that keeps to the subject.

## Main results

* `DataGrid.Registry.Agree.sameLive` — each hop reaches the same live rows in both databases.
* `DataGrid.Registry.Stages.admitted_perm` — the same rows of the subject are admitted.
* `DataGrid.Registry.deleted_invisible` — all statements have the same results.
-/

namespace DataGrid

open Sql

/-! ## Registered entities -/

namespace Registry

variable {r : Registry}

/-- An entity is registered under some name. -/
def Has (r : Registry) (e : Entity) : Prop := ∃ name, r.entity? name = some e

/-- All entities on a table mark deleted rows in the given column. -/
def Guards (r : Registry) (table column : String) : Prop :=
  ∀ e, r.Has e → e.table = table → e.softDelete = some column

/-- The entity of a name is registered. -/
lemma has_of_entity {name : String} {e : Entity} (h : r.entity name = .ok e) : r.Has e := by
  unfold entity at h
  split at h
  · next found hfound => exact ⟨name, Except.ok.inj h ▸ hfound⟩
  · cases h

/-- Hops lead to registered entities, and know the column that marks deleted rows. -/
lemma Route.has_of_mem {e reached : Entity} {hops : List Hop} (h : r.Route e hops reached) :
    ∀ hop ∈ hops, ∃ target, r.Has target ∧ hop.table = target.table ∧
      hop.softDelete = target.softDelete := by
  induction h with
  | here => exact List.forall_mem_nil _
  | @step _ target _ _ _ _ htarget _ ih =>
    exact List.forall_mem_cons.mpr ⟨⟨target, ⟨_, htarget⟩, rfl, rfl⟩, ih⟩

/-- The hops of a path lead to registered entities. -/
lemma has_of_mem_hops {e : Entity} {id : String} {p : ColumnPath} (h : r.resolve e id = .ok p) :
    ∀ hop ∈ p.hops, ∃ target, r.Has target ∧ hop.table = target.table ∧
      hop.softDelete = target.softDelete := by
  obtain ⟨_, _, hroute, -⟩ := route_of_resolve h
  exact hroute.has_of_mem

end Registry

/-- A subject that a registry gives: all rows of an entity, or those related to a row of another
one. -/
def Subject.IsOf (subject : Subject) (r : Registry) : Prop :=
  (∃ name, r.subject name = .ok subject) ∨
    ∃ parent relation key, r.related parent relation key = .ok subject

/-- The entity of a subject is registered. -/
lemma Subject.IsOf.has {subject : Subject} {r : Registry} (h : subject.IsOf r) :
    r.Has subject.entity := by
  rcases h with ⟨name, h⟩ | ⟨parent, relation, key, h⟩
  · obtain ⟨e, he, h⟩ := bind_eq_ok.mp h
    rw [← pure_eq_ok.mp h]
    exact Registry.has_of_entity he
  · obtain ⟨source, _, h⟩ := bind_eq_ok.mp h
    split at h
    · cases h
    · obtain ⟨e, he, h⟩ := bind_eq_ok.mp h
      rw [← pure_eq_ok.mp h]
      exact Registry.has_of_entity he

/-! ## Databases that differ in deleted rows -/

section

variable {V : Type} {db db' : Database V} {r : Registry}

/-- Two databases have the same rows in each table, deleted ones aside where all entities on the
table agree on which rows are deleted. -/
def Registry.Agree (r : Registry) (db db' : Database V) : Prop :=
  ∀ table, (db table).Perm (db' table) ∨ ∃ column, r.Guards table column ∧
    ((db table).filter fun row => (row column).isNone).Perm
      ((db' table).filter fun row => (row column).isNone)

/-- The databases have the same live rows of each registered entity. -/
lemma Registry.Agree.live_perm (h : r.Agree db db') {e : Entity} (he : r.Has e) :
    ((db e.table).filter (isLive e.softDelete)).Perm
      ((db' e.table).filter (isLive e.softDelete)) := by
  rcases h e.table with hperm | ⟨column, hguards, hperm⟩
  · exact hperm.filter _
  · rw [hguards e he rfl]
    exact hperm

/-- **Each hop of a path reaches the same live rows** in both databases. -/
theorem Registry.Agree.sameLive (h : r.Agree db db') {e : Entity} {id : String} {p : ColumnPath}
    (hp : r.resolve e id = .ok p) : ∀ hop ∈ p.hops, hop.SameLive db db' := by
  intro hop hhop
  obtain ⟨target, htarget, htable, hsoft⟩ := Registry.has_of_mem_hops hp hop hhop
  rw [Hop.SameLive, Hop.liveRows, Hop.liveRows, htable, hsoft]
  exact h.live_perm htarget

end

/-! ## Plain operations -/

/-- An operation that looks at columns of the subject only and does not include deleted rows. -/
def ScopeChange.IsPlain (table : String) : ScopeChange → Prop
  | .restrict c => c.IsLocal table
  | .orderByExpr e _ => e.IsLocal table
  | .addOutput e _ => e.IsLocal table
  | .withTrashed => False
  | _ => True

/-- What a plain operation asks of a row is asked of the row of the subject only. -/
lemma ScopeChange.IsPlain.isLocal {op : ScopeChange} {table : String} {c : Condition}
    (h : op.IsPlain table) (hc : op.condition? table = some c) : c.IsLocal table := by
  by_cases hrestrict : ∃ d, op = .restrict d
  · obtain ⟨d, rfl⟩ := hrestrict
    exact Option.some.inj hc ▸ h
  · exact ScopeChange.isLocal_condition? hc fun d hd => hrestrict ⟨d, hd⟩

namespace Registry.Stages

variable {V : Type} (S : Scalars V) {db db' : Database V}
variable {r : Registry} {subject : Subject} {request : Request} {q : Query} {start : Scope}
variable {conditions : List Condition} {selected : List ScopeChange}

/-! ## Rows -/

/-- The restriction of a compiled request is the same in both databases. -/
lemma holds_restriction_congr (h : r.Stages subject request q start conditions selected)
    (hplain : ∀ op ∈ r.operations subject request, op.IsPlain subject.entity.table)
    (hagree : r.Agree db db') (env : Env V) :
    q.scope.restriction.Holds S db env ↔ q.scope.restriction.Holds S db' env := by
  obtain ⟨ops, hscope, hops⟩ := h.exists_operations
  have hfresh : (Subject.freshScope subject.entity).condition.IsConjunction :=
    Condition.isConjunction_all
  have hmade := Scope.isConjunction_applyAll hfresh ops
  have hop : ∀ op ∈ ops, ∀ c, op.condition? subject.entity.table = some c →
      (c.Holds S db env ↔ c.Holds S db' env) := by
    intro op hop c hc
    rw [Condition.Holds, Condition.Holds]
    rcases hops op hop with hcustom | ⟨d, hd, hcases⟩
    · rw [((hplain op hcustom).isLocal hc).truth_eq S env]
    · obtain rfl : d = c := Option.some.inj (hd.symm.trans hc)
      rcases hcases with hlocal | ⟨column, node, p, hp, hentry⟩
      · rw [hlocal.truth_eq S env]
      · rw [FilterNode.truth_entry S (hagree.sameLive hp) hentry env]
  rw [hscope, Scope.restriction_refined, Scope.holds_restriction S db env hmade,
    Scope.holds_restriction S db' env hmade, Scope.holds_applyAll S db env hfresh,
    Scope.holds_applyAll S db' env hfresh]
  refine and_congr_left fun _ => and_congr ?_ ?_
  · exact iff_of_true (Condition.holds_all S db env) (Condition.holds_all S db' env)
  · exact forall₄_congr hop

/-- Admitted rows are not deleted. -/
lemma isLive_of_admits (hplain : ∀ op ∈ r.operations subject request,
    op.IsPlain subject.entity.table) {row : Row V}
    (h : r.Admits S db subject request (.ofRow subject.entity.table row)) :
    isLive subject.entity.softDelete row = true := by
  rw [isLive_iff]
  intro name hname
  have hcell := h.live (fun hmem => hplain _ hmem) name hname
  rwa [Env.cell_ofRow] at hcell

/-- **The same rows of the subject are admitted** in both databases. -/
theorem admitted_perm (h : r.Stages subject request q start conditions selected)
    (hsubject : subject.IsOf r)
    (hplain : ∀ op ∈ r.operations subject request, op.IsPlain subject.entity.table)
    (hagree : r.Agree db db') :
    (r.admitted S db subject request).Perm (r.admitted S db' subject request) := by
  classical
  have hlive : ∀ d : Database V, r.admitted S d subject request =
      ((d subject.entity.table).filter (isLive subject.entity.softDelete)).filter fun row =>
        r.Admits S d subject request (.ofRow subject.entity.table row) := by
    intro d
    rw [List.filter_filter]
    refine List.filter_congr fun row _ => ?_
    rw [Bool.eq_iff_iff, Bool.and_eq_true, decide_eq_true_iff]
    exact ⟨fun hadmits => ⟨hadmits, isLive_of_admits S hplain hadmits⟩, fun hboth => hboth.1⟩
  have hadmits : ∀ row, r.Admits S db subject request (.ofRow subject.entity.table row) ↔
      r.Admits S db' subject request (.ofRow subject.entity.table row) := fun row =>
    (h.holds_restriction_iff S db _).symm.trans
      ((h.holds_restriction_congr S hplain hagree _).trans (h.holds_restriction_iff S db' _))
  rw [hlive, hlive]
  simp only [hadmits]
  exact (hagree.live_perm hsubject.has).filter _

end Registry.Stages

/-! ## Statements -/

namespace Scope

/-- Output columns come from operations that bring them. -/
lemma mem_outputs_applyAll {s : Scope} {ops : List ScopeChange} {o : Expr × String}
    (ho : o ∈ (s.applyAll ops).outputs) : o ∈ s.outputs ∨ .addOutput o.1 o.2 ∈ ops := by
  induction ops generalizing s with
  | nil => exact .inl ho
  | cons op ops ih =>
    rcases ih ho with ho | hop
    · cases op with
      | addOutput e name =>
        rcases List.mem_append.mp ho with ho | ho
        · exact .inl ho
        · exact .inr (List.mem_singleton.mp ho ▸ List.mem_cons_self)
      | _ => exact .inl ho
    · exact .inr (List.mem_cons_of_mem _ hop)

/-- Group columns have no subqueries. -/
lemma tables_of_mem_groupColumns {s : Scope} {e : Expr} (he : e ∈ s.groupColumns) :
    e.tables = [] := by
  obtain ⟨name, _, rfl⟩ := List.mem_map.mp he
  rfl

end Scope

namespace Query.IsStatement

variable {r : Registry} {q : Query} {statement : Statement}

/-- The outputs of all statements are without subqueries, if those of the scope are. -/
lemma tables_of_mem_outputs (h : q.IsStatement r statement)
    (houtputs : ∀ o ∈ q.scope.outputs, o.1.tables = []) :
    ∀ o ∈ statement.body.outputs, o.tables = [] := by
  have hgroups : ∀ o ∈ q.scope.groupColumns.map Output.expr, o.tables = [] := by
    intro o ho
    obtain ⟨e, he, rfl⟩ := List.mem_map.mp ho
    exact Scope.tables_of_mem_groupColumns he
  cases h with
  | page =>
    intro o ho
    rcases List.mem_append.mp ho with ho | ho
    · split at ho
      · exact hgroups o ho
      · exact List.mem_singleton.mp ho ▸ rfl
    · obtain ⟨named, hnamed, rfl⟩ := List.mem_map.mp ho
      exact houtputs named hnamed
  | total =>
    rw [Query.total, Scope.countStatement]
    split
    · exact hgroups
    · exact fun o ho => List.mem_singleton.mp ho ▸ rfl
  | @listing allowed l h =>
    intro o ho
    rw [List.mem_singleton.mp ho]
    exact (l.path.expr_isLocal _).tables

/-- The group columns of all statements are without subqueries. -/
lemma tables_of_mem_groups (h : q.IsStatement r statement) :
    ∀ e ∈ statement.body.groups, e.tables = [] := by
  cases h with
  | page => exact fun e he => Scope.tables_of_mem_groupColumns he
  | total =>
    rw [Query.total, Scope.countStatement]
    split <;> exact fun e he => Scope.tables_of_mem_groupColumns he
  | listing h => exact fun e he => absurd he List.not_mem_nil

/-- The ordering terms of all statements are without subqueries, or are those of the scope. -/
lemma orders_cases (h : q.IsStatement r statement) :
    ∀ t ∈ statement.body.orders, t.1.tables = [] ∨ ∃ o ∈ q.scope.orders, t.1 = o.expr := by
  cases h with
  | page =>
    intro t ht
    obtain ⟨o, ho, rfl⟩ := List.mem_map.mp ht
    exact .inr ⟨o, ho, rfl⟩
  | total =>
    rw [Query.total, Scope.countStatement]
    split <;> exact fun t ht => absurd ht List.not_mem_nil
  | @listing allowed l h =>
    intro t ht
    have hterm : t ∈ if !l.path.isDocument then [(Expr.output valueName, Direction.asc)] else [] :=
      ht
    split at hterm
    · exact .inl (List.mem_singleton.mp hterm ▸ rfl)
    · exact absurd hterm List.not_mem_nil

end Query.IsStatement

namespace Registry.Stages

variable {V : Type} (S : Scalars V) {db db' : Database V}
variable {r : Registry} {subject : Subject} {request : Request} {q : Query} {start : Scope}
variable {conditions : List Condition} {selected : List ScopeChange}

/-- The output columns of a compiled request are without subqueries. -/
lemma tables_of_mem_outputs (h : r.Stages subject request q start conditions selected)
    (hplain : ∀ op ∈ r.operations subject request, op.IsPlain subject.entity.table) :
    ∀ o ∈ q.scope.outputs, o.1.tables = [] := by
  obtain ⟨ops, hscope, hops⟩ := h.exists_operations
  intro o ho
  rw [hscope, Scope.outputs_refined] at ho
  rcases Scope.mem_outputs_applyAll ho with hfresh | hop
  · exact nomatch hfresh
  · rcases hops _ hop with hcustom | ⟨c, hc, -⟩
    · exact (hplain _ hcustom : o.1.IsLocal subject.entity.table).tables
    · cases hc

/-- The ordering terms of a compiled request cannot tell the databases apart. -/
lemma cellOrder_of_mem_orders (h : r.Stages subject request q start conditions selected)
    (hplain : ∀ op ∈ r.operations subject request, op.IsPlain subject.entity.table)
    (hagree : r.Agree db db')
    (hone : ∀ entry ∈ request.sorts, ∀ p, r.resolve subject.entity entry.column = .ok p →
      (∀ hop ∈ p.hops, hop.kind ≠ .hasMany) → ∀ hop ∈ p.hops, hop.AtMostOne S db) :
    ∀ t ∈ q.scope.orders, ∀ env,
      S.cellOrder (t.expr.eval S db env) (t.expr.eval S db' env) = .eq := by
  obtain ⟨ops, hscope, hops⟩ := h.exists_operations
  intro t ht env
  have hlocal : t.expr.tables = [] →
      S.cellOrder (t.expr.eval S db env) (t.expr.eval S db' env) = .eq := by
    intro htables
    rw [Expr.eval_eq_of_tables S htables]
    exact Std.ReflCmp.compare_self
  rw [hscope, Scope.orders_windowFrom] at ht
  rcases Scope.mem_orders_sort ht with hmade | hkey | ⟨entry, hentry, p, hp, hsort⟩
  · rcases Scope.mem_orders_applyAll hmade with hfresh | ⟨name, hname⟩ | ⟨d, hop⟩
    · exact nomatch hfresh
    · exact hlocal (hname ▸ rfl)
    · rcases hops _ hop with hcustom | ⟨c, hc, -⟩
      · exact hlocal (hplain _ hcustom : t.expr.IsLocal subject.entity.table).tables
      · cases hc
  · exact hlocal (hkey ▸ rfl)
  · rw [hsort]
    exact p.sortKey_congr S (hagree.sameLive hp) (hone entry hentry p hp) _ _ env

/-- A statement finds the same rows in both databases. -/
lemma found_perm (h : r.Stages subject request q start conditions selected)
    (hsubject : subject.IsOf r)
    (hplain : ∀ op ∈ r.operations subject request, op.IsPlain subject.entity.table)
    (hagree : r.Agree db db') {statement : Statement} (hs : q.IsStatement r statement) :
    (statement.body.found S db).Perm (statement.body.found S db') := by
  have hlabels : ∀ op ∈ r.operations subject request, ∀ c,
      op.condition? subject.entity.table = some c →
        c.toExpr.labels ⊆ [subject.entity.table] :=
    fun op hop c hc => ((hplain op hop).isLocal hc).labels
  have hrows := (h.admitted_perm S hsubject hplain hagree).map
    fun row => [(subject.entity.table, row)]
  obtain ⟨hops, hjoins, hpath⟩ := hs.joins_eq
  have hlive : ∀ hop ∈ hops, hop.SameLive db db' := by
    rcases hpath with rfl | ⟨column, p, hp, rfl⟩
    · exact fun _ hhop => nomatch hhop
    · rw [h.subject_eq] at hp
      exact hagree.sameLive hp
  rw [h.found_eq S db hs (.inr hlabels), h.found_eq S db' hs (.inr hlabels), hjoins]
  exact leftJoined_joinsAlong_perm S hlive _ hrows

end Registry.Stages

/-- **Deleted rows are invisible.** Two databases that differ in deleted rows only give the same
results to the page, the total and the value listings of a compiled request, if the custom filter
keeps to columns of the subject and does not include deleted rows; and no statement is about a
deleted row of the subject. Relations that lead to one row and are sorted by have to reach at most
one live row.

**Proof sketch.** Each hop reaches the same live rows in both databases (`Agree.sameLive`), so that
filters (`FilterNode.truth_entry`), left joins (`leftJoined_joinsAlong_perm`) and sort keys
(`ColumnPath.sortKey_congr`) are the same. The guard leaves the live rows of the subject
(`Stages.admitted_perm`). Everything else comes from the rows found (`Select.returns_congr`). -/
theorem Registry.deleted_invisible {V : Type} (S : Scalars V) {db db' : Database V} {r : Registry}
    {subject : Subject} {request : Request} {q : Query}
    (h : r.compile subject request = .ok q) (hsubject : subject.IsOf r)
    (hplain : ∀ op ∈ r.operations subject request, op.IsPlain subject.entity.table)
    (hagree : r.Agree db db')
    (hone : ∀ entry ∈ request.sorts, ∀ p, r.resolve subject.entity entry.column = .ok p →
      (∀ hop ∈ p.hops, hop.kind ≠ .hasMany) → ∀ hop ∈ p.hops, hop.AtMostOne S db) :
    ∀ statement, q.IsStatement r statement →
      (∀ result, statement.Returns S db result ↔ statement.Returns S db' result) ∧
      ∀ row ∈ statement.body.kept S db, ∀ column, subject.entity.softDelete = some column →
        row column = none := by
  obtain ⟨_, _, _, hstages⟩ := Registry.compile_spec h
  intro statement hs
  refine ⟨Statement.returns_congr S fun result => ?_, fun row hrow => ?_⟩
  · refine Select.returns_congr S (hstages.found_perm S hsubject hplain hagree hs)
      (hs.tables_of_mem_outputs (hstages.tables_of_mem_outputs hplain)) hs.tables_of_mem_groups
      fun t ht env => ?_
    rcases hs.orders_cases t ht with htables | ⟨o, ho, hexpr⟩
    · rw [Expr.eval_eq_of_tables S htables]
      exact Std.ReflCmp.compare_self
    · rw [hexpr]
      exact hstages.cellOrder_of_mem_orders S hplain hagree hone o ho env
  · rw [hstages.kept_eq S db hs] at hrow
    obtain ⟨-, hadmits⟩ := (Registry.mem_admitted S db).mp hrow
    exact isLive_iff.mp (Registry.Stages.isLive_of_admits S hplain hadmits)

/-! ## An example -/

namespace Zoo

/-- A flamingo and its keeper, with further rows of flamingos. -/
def database (others : List (Row Literal)) : Database Literal
  | "flamingos" =>
    (fun name => if name = "id" ∨ name = "keeper_id" then some (.int 1) else none) :: others
  | "keepers" => [fun name => if name = "id" then some (.int 1) else none]
  | _ => []

/-- The only entity on the table of the flamingos marks deleted rows. -/
lemma guards_flamingos {r : Registry} (h : registry = .ok r) :
    r.Guards "flamingos" "deleted_at" := by
  rintro e ⟨name, hname⟩ htable
  rw [← Except.ok.inj h] at hname
  change Keyed.find? name [("flamingos", flamingos), ("keepers", keepers),
    ("vaccinations", vaccinations), ("zoos", zoos)] = some e at hname
  simp only [Keyed.find?] at hname
  split at hname
  · rw [← Option.some.inj hname]
    rfl
  · have hothers : e = keepers ∨ e = vaccinations ∨ e = zoos := by
      split at hname
      · exact .inl (Option.some.inj hname).symm
      · split at hname
        · exact .inr (.inl (Option.some.inj hname).symm)
        · split at hname
          · exact .inr (.inr (Option.some.inj hname).symm)
          · cases hname
    rcases hothers with rfl | rfl | rfl <;> exact absurd htable (by decide)

end Zoo

/-- A deleted flamingo does not show among the flamingos ordered by the name of their keepers. -/
theorem Registry.deleted_invisible_flamingos :
    ∃ r q, Zoo.registry = .ok r ∧
      r.compile { entity := Zoo.flamingos } { sorts := [⟨"keeper.name", .asc⟩] } = .ok q ∧
      ∀ result,
        q.page.Returns Scalars.ofLiterals (Zoo.database [fun _ => some (.int 2)]) result ↔
          q.page.Returns Scalars.ofLiterals (Zoo.database []) result := by
  have hpage : ∀ r q, Zoo.registry = .ok r →
      r.compile { entity := Zoo.flamingos } { sorts := [⟨"keeper.name", .asc⟩] } = .ok q →
      ∀ result,
        q.page.Returns Scalars.ofLiterals (Zoo.database [fun _ => some (.int 2)]) result ↔
          q.page.Returns Scalars.ofLiterals (Zoo.database []) result := by
    intro r q hr h result
    have hguards := Zoo.guards_flamingos hr
    obtain rfl := Except.ok.inj hr
    refine (Registry.deleted_invisible Scalars.ofLiterals h (.inl ⟨"flamingos", rfl⟩) ?_ ?_ ?_ _
      .page).1 result
    · exact fun _ hop => nomatch hop
    · intro table
      by_cases htable : table = "flamingos"
      · subst htable
        exact .inr ⟨"deleted_at", hguards, List.Perm.refl _⟩
      · left
        have hsame : Zoo.database [fun _ => some (.int 2)] table = Zoo.database [] table := by
          unfold Zoo.database
          split
          · exact absurd rfl htable
          · rfl
          · rfl
        rw [hsame]
    · intro entry hentry p hp _ hop hhop v
      rw [List.mem_singleton.mp hentry] at hp
      obtain rfl := Except.ok.inj hp
      rw [List.mem_singleton.mp hhop]
      exact Nat.le_trans (List.length_filter_le _ _) (List.length_filter_le _ _)
  exact ⟨_, _, rfl, rfl, hpage _ _ rfl rfl⟩

end DataGrid
