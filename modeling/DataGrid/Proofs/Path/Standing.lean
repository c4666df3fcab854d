import DataGrid.Proofs.Path.Labels
import DataGrid.Proofs.Path.Routes
import DataGrid.Proofs.Schema.Accepted
import DataGrid.Proofs.Store.Scoping

/-!
# What names stand for

Whatever is compiled along a path takes columns under the names of the path: that of the subject and
those of the tables behind it. In an accepted schema each of these names is in scope wherever it is
taken, and the innermost table that goes by it is the one that the hops lead to. Names get longer
along a path, so no table behind the subject hides one in front of it.

## Main definitions

* `DataGrid.Sql.Reference.StandsFor` — a reference reads the entity that part of a path leads to.
* `DataGrid.Sql.Reference.IsSound` — it does, and its column belongs to that entity.

## Main results

* `DataGrid.Sql.Reference.StandsFor.eq` — a reference stands for one entity only.
* `DataGrid.nodup_labels` — the names along a path are different from each other.
* `DataGrid.FilterNode.refers_entry`, `DataGrid.ColumnPath.refers_sortKey`,
  `DataGrid.Registry.Route.refers_onItems` — filters, sort keys and joins have sound references.
-/

namespace DataGrid

open Sql

/-! ## Names along hops -/

/-- The names of joined tables are those of the table before, one hop longer each. -/
lemma labelAlong_append (label : String) (front back : List Hop) :
    labelAlong label (front ++ back) = labelAlong (labelAlong label front) back :=
  List.foldl_append

/-- Names get longer with every hop. -/
lemma length_lt_labelAlong {label : String} {hops : List Hop} (h : hops ≠ []) :
    label.length < (labelAlong label hops).length := by
  induction hops generalizing label with
  | nil => exact absurd rfl h
  | cons hop rest ih =>
    have hfirst := hop.length_lt_label label
    by_cases hrest : rest = []
    · subst hrest
      exact hfirst
    · have hlater : (hop.label label).length < (labelAlong (hop.label label) rest).length :=
        ih hrest
      show label.length < (labelAlong (hop.label label) rest).length
      omega

/-- Along one path the name of a table tells how far it is. -/
lemma eq_of_labelAlong_eq {label : String} {front front' hops : List Hop} (h : front <+: hops)
    (h' : front' <+: hops) (hlabel : labelAlong label front = labelAlong label front') :
    front = front' := by
  have hlonger : ∀ {shorter longer : List Hop}, shorter <+: longer →
      labelAlong label shorter = labelAlong label longer → shorter = longer := by
    intro shorter longer hprefix heq
    obtain ⟨back, rfl⟩ := hprefix
    by_contra hne
    have hback : back ≠ [] := by
      intro hnil
      simp [hnil] at hne
    have hlength : (labelAlong label shorter).length <
        (labelAlong (labelAlong label shorter) back).length := length_lt_labelAlong hback
    rw [← labelAlong_append, ← heq] at hlength
    omega
  rcases List.prefix_or_prefix_of_prefix h h' with hshort | hshort
  · exact hlonger hshort hlabel
  · exact (hlonger hshort hlabel.symm).symm

/-- **The names along a path** are different from each other.

**Proof sketch.** Induction on the hops: all later names are longer than the first one. -/
theorem nodup_labels (label : String) (hops : List Hop) :
    (label :: (joinsAlong label hops).map Join.label).Nodup := by
  induction hops generalizing label with
  | nil => simp [joinsAlong]
  | cons hop rest ih =>
    refine List.nodup_cons.mpr ⟨?_, ih (hop.label label)⟩
    intro hmem
    obtain ⟨join, hjoin, hsame⟩ := List.mem_map.mp hmem
    have hlength := length_lt_of_mem_joinsAlong hjoin
    rw [hsame] at hlength
    omega

/-- The last of the names along a path is that of the table at its end. -/
lemma getLast?_labels (label : String) (hops : List Hop) :
    (label :: (joinsAlong label hops).map Join.label).getLast? = some (labelAlong label hops) := by
  induction hops generalizing label with
  | nil => rfl
  | cons hop rest ih =>
    rw [joinsAlong_cons, List.map_cons, List.getLast?_cons_cons]
    exact ih (hop.label label)

/-! ## References along hops -/

namespace Sql.Reference

/-- The reference reads the entity that some part of the hops leads to: it goes by the name of that
part, and the innermost table of this name is the one of the entity. -/
structure StandsFor (ref : Reference) (r : Registry) (label : String) (e : Entity)
    (hops : List Hop) (reached : Entity) : Prop where
  route : ∃ front, front <+: hops ∧ ref.label = labelAlong label front ∧ r.Route e front reached
  table : ref.table? = some reached.table

/-- The reference reads the entity that some part of the hops leads to, and its column is declared
there or marks deleted rows there. -/
def IsSound (ref : Reference) (r : Registry) (label : String) (e : Entity) (hops : List Hop) :
    Prop :=
  ∃ reached, ref.StandsFor r label e hops reached ∧ ∀ column, ref.column = some column →
    reached.Declares column ∨ reached.softDelete = some column

variable {r : Registry} {ref : Reference} {label : String} {e : Entity} {hops : List Hop}
variable {scope : Bindings}

/-- A reference stands for one entity only. -/
theorem StandsFor.eq {reached reached' : Entity} (h : ref.StandsFor r label e hops reached)
    (h' : ref.StandsFor r label e hops reached') : reached = reached' := by
  obtain ⟨front, hfront, hlabel, hroute⟩ := h.route
  obtain ⟨front', hfront', hlabel', hroute'⟩ := h'.route
  have hsame : front = front' :=
    eq_of_labelAlong_eq hfront hfront' (hlabel.symm.trans hlabel')
  subst hsame
  exact hroute.eq_of_route hroute'

/-- What is taken from the table that the hops start from. -/
lemma isSound_here {column : Option String} (hscope : Keyed.find? label scope = some e.table)
    (hcolumn : ∀ name, column = some name → e.Declares name ∨ e.softDelete = some name) :
    IsSound ⟨label, column, scope⟩ r label e hops :=
  ⟨e, ⟨⟨[], List.nil_prefix, rfl, .here e⟩, hscope⟩, hcolumn⟩

/-- What is taken from the table at the end of the hops. -/
lemma isSound_end {reached : Entity} {column : Option String} (h : r.Route e hops reached)
    (hscope : Keyed.find? (labelAlong label hops) scope = some reached.table)
    (hcolumn : ∀ name, column = some name →
      reached.Declares name ∨ reached.softDelete = some name) :
    IsSound ⟨labelAlong label hops, column, scope⟩ r label e hops :=
  ⟨reached, ⟨⟨hops, List.prefix_rfl, rfl, h⟩, hscope⟩, hcolumn⟩

/-- What is sound behind the first hop is sound along all of them. -/
lemma IsSound.step {relation : Relation} {target : Entity}
    (hrelation : e.relation? relation.name = some relation)
    (htarget : r.entity? relation.target = some target)
    (h : ref.IsSound r ((relation.hop target).label label) target hops) :
    ref.IsSound r label e (relation.hop target :: hops) := by
  obtain ⟨reached, ⟨⟨front, hfront, hlabel, hroute⟩, htable⟩, hcolumn⟩ := h
  refine ⟨reached, ⟨⟨relation.hop target :: front, ?_, hlabel, ?_⟩, htable⟩, hcolumn⟩
  · simpa using hfront
  · exact .step hrelation htarget hroute

end Sql.Reference

/-! ## Joining one table -/

section

variable {r : Registry} {e reached target : Entity} {relation : Relation} {hops : List Hop}
variable {label : String} {scope : Bindings} {sound : Reference → Prop}

/-- What joins the table of a hop to its parent has sound references, with both tables in scope.

**Proof sketch.** Both keys are declared, each on its own side (`IsAccepted.declares_keys`), and the
guard asks for the column that marks deleted rows of the table that is reached. -/
lemma Relation.refers_correlation (haccepted : r.IsAccepted) (he : r.Has e)
    (hrelation : e.relation? relation.name = some relation)
    (htarget : r.entity? relation.target = some target)
    (hsound : ∀ ref : Reference, ref.IsSound r label e (relation.hop target :: hops) → sound ref)
    (hparent : Keyed.find? label scope = some e.table)
    (hscope : Keyed.find? ((relation.hop target).label label) scope = some target.table) :
    ((relation.hop target).correlation label).Refers sound scope := by
  obtain ⟨hlocal, hforeign⟩ :=
    haccepted.declares_keys he (List.mem_of_find?_eq_some hrelation) htarget
  rw [Hop.correlation, Condition.refers_addExpr?, Condition.refers_addExpr, Expr.refers_compare,
    Expr.refers_column, Expr.refers_column]
  refine ⟨⟨Condition.refers_empty _ _, ?_, ?_⟩, ?_⟩
  · apply hsound
    refine Reference.IsSound.step hrelation htarget (Reference.isSound_here hscope ?_)
    intro name hname
    exact .inl (Option.some.inj hname ▸ hforeign)
  · apply hsound
    refine Reference.isSound_here hparent ?_
    intro name hname
    exact .inl (Option.some.inj hname ▸ hlocal)
  · intro guard hguard
    obtain ⟨column, hcolumn, rfl⟩ := Option.map_eq_some_iff.mp hguard
    rw [Expr.refers_isNull, Expr.refers_column]
    apply hsound
    refine Reference.IsSound.step hrelation htarget (Reference.isSound_here hscope ?_)
    intro name hname
    exact .inr (Option.some.inj hname ▸ hcolumn)

/-- The table that a hop starts from stays in scope behind the joins of later hops. -/
lemma find?_scopeThrough_joinsAlong {name : String} (h : name.length ≤ label.length)
    (scope : Bindings) :
    Keyed.find? name (scopeThrough scope (joinsAlong label hops)) = Keyed.find? name scope := by
  apply find?_scopeThrough
  intro join hjoin hsame
  have hlength := length_lt_of_mem_joinsAlong hjoin
  rw [hsame] at hlength
  omega

/-- The table of a hop does not hide the one that it starts from. -/
lemma find?_cons_label {table : String} (h : Keyed.find? label scope = some table) (hop : Hop)
    (table' : String) : Keyed.find? label ((hop.label label, table') :: scope) = some table := by
  have hne : hop.label label ≠ label := by
    intro hsame
    have hlength := hop.length_lt_label label
    rw [hsame] at hlength
    omega
  rw [Keyed.find?, if_neg hne, h]

/-! ## Existence -/

/-- Existence tests along hops have sound references, if what stands inside of them has.

**Proof sketch.** Induction on the route. Each test brings the table of its hop into scope, and the
table that it starts from is still there. -/
theorem Registry.Route.refers_existsAlong (h : r.Route e hops reached)
    (haccepted : r.IsAccepted) (he : r.Has e)
    (hsound : ∀ ref : Reference, ref.IsSound r label e hops → sound ref)
    {inner : Option Condition}
    (hinner : ∀ scope, Keyed.find? (labelAlong label hops) scope = some reached.table →
      ∀ c, inner = some c → c.Refers sound scope)
    (hscope : Keyed.find? label scope = some e.table) :
    ∀ c, existsAlong label inner hops = some c → c.Refers sound scope := by
  induction h generalizing label scope with
  | here e => exact hinner scope hscope
  | @step e target reached relation rest hrelation htarget hrest ih =>
    intro c hc
    rw [existsAlong, Option.some.injEq] at hc
    rw [← hc, Condition.refers_ofExpr, Hop.existsExpr, Expr.refers_existsIn]
    have hparent := find?_cons_label hscope (relation.hop target) target.table
    have htable := Keyed.find?_cons_self ((relation.hop target).label label) target.table scope
    have hkeys := Relation.refers_correlation haccepted he hrelation htarget hsound hparent htable
    refine Condition.refers_add?.mpr ⟨hkeys, ?_⟩
    exact ih ⟨_, htarget⟩ (fun ref href => hsound ref (.step hrelation htarget href)) hinner htable

/-! ## Joins -/

/-- Joins along hops have sound references, and behind them the table at the end is in scope.

**Proof sketch.** Induction on the route, as for existence tests. -/
theorem Registry.Route.refers_onItems (h : r.Route e hops reached) (haccepted : r.IsAccepted)
    (he : r.Has e) (hsound : ∀ ref : Reference, ref.IsSound r label e hops → sound ref)
    (hscope : Keyed.find? label scope = some e.table) :
    (∀ item ∈ onItems scope (joinsAlong label hops), ∀ ref ∈ item.2.references item.1,
      sound ref) ∧
    Keyed.find? (labelAlong label hops) (scopeThrough scope (joinsAlong label hops)) =
      some reached.table := by
  induction h generalizing label scope with
  | here e => exact ⟨by simp [joinsAlong, onItems], hscope⟩
  | @step e target reached relation rest hrelation htarget hrest ih =>
    have hparent := find?_cons_label hscope (relation.hop target) target.table
    have htable := Keyed.find?_cons_self ((relation.hop target).label label) target.table scope
    have hkeys := Relation.refers_correlation haccepted he hrelation htarget hsound hparent htable
    obtain ⟨hlater, hend⟩ :=
      ih ⟨_, htarget⟩ (fun ref href => hsound ref (.step hrelation htarget href)) htable
    exact ⟨List.forall_mem_cons.mpr ⟨hkeys, hlater⟩, hend⟩

end

/-! ## Paths -/

namespace ColumnPath

variable {p : ColumnPath} {label : String} {scope : Bindings} {sound : Reference → Prop}

/-- A value inside a document is taken from the column of the document. -/
lemma refers_memberAt {e : Expr} (keys : List String) :
    (memberAt e keys).Refers sound scope ↔ e.Refers sound scope := by
  induction keys generalizing e with
  | nil => rfl
  | cons key rest ih =>
    cases rest with
    | nil => exact Expr.refers_member e key true
    | cons next rest => exact ih.trans (Expr.refers_member e key false)

/-- The value of a path is taken from its column. -/
lemma refers_expr : (p.expr label).Refers sound scope ↔ sound ⟨label, some p.leaf, scope⟩ := by
  rw [expr, refers_memberAt, Expr.refers_column]

/-- What leaf filters compare is taken from the column of the path. -/
lemma IsOperand.refers {e : Expr} (h : p.IsOperand label e)
    (hleaf : sound ⟨label, some p.leaf, scope⟩) : e.Refers sound scope := by
  have hexpr := refers_expr.mpr hleaf
  cases h with
  | plain => exact hexpr
  | cast => exact (Expr.refers_cast _ _).mpr hexpr

/-- So are the tests that they become. -/
lemma IsTest.refers {e : Expr} (h : p.IsTest label e)
    (hleaf : sound ⟨label, some p.leaf, scope⟩) : e.Refers sound scope := by
  have hexpr := refers_expr.mpr hleaf
  cases h with
  | isNull negated => exact (Expr.refers_isNull _ _).mpr hexpr
  | isIn values => exact (Expr.refers_isIn _ _ _).mpr hexpr
  | compare op v he =>
    exact (Expr.refers_compare _ _ _).mpr ⟨he.refers hleaf, Expr.refers_literal v⟩
  | like negated pattern he => exact (Expr.refers_like _ _ _).mpr (he.refers hleaf)

end ColumnPath

section

variable {r : Registry} {e : Entity} {id : String} {p : ColumnPath} {label : String}
variable {scope : Bindings}

/-- A resolved path leads to an entity, whose column is sound wherever its table is in scope. -/
lemma Registry.exists_route_of_resolve (hp : r.resolve e id = .ok p) (label : String) :
    ∃ reached, r.Route e p.hops reached ∧ ∀ scope,
      Keyed.find? (p.leafLabel label) scope = some reached.table →
        Reference.IsSound ⟨p.leafLabel label, some p.leaf, scope⟩ r label e p.hops := by
  obtain ⟨reached, c, hroute, hc, hleaf⟩ := route_of_resolve hp
  refine ⟨reached, hroute, fun scope hscope => ?_⟩
  refine Reference.isSound_end hroute hscope ?_
  intro name hname
  exact .inl ⟨c, hc, hleaf ▸ Option.some.inj hname⟩

/-- The test for rows behind a path that meet a condition has sound references, if the condition has
where the last table of the path is in scope. -/
lemma ColumnPath.refers_related {reached : Entity} (hroute : r.Route e p.hops reached)
    (haccepted : r.IsAccepted) (he : r.Has e) {c : Condition}
    (hc : ∀ scope, Keyed.find? (p.leafLabel label) scope = some reached.table →
      c.Refers (fun ref => ref.IsSound r label e p.hops) scope)
    (hscope : Keyed.find? label scope = some e.table) :
    (p.related label c).Refers (fun ref => ref.IsSound r label e p.hops) scope := by
  have hchain : existsAlong label (some c) p.hops = some (p.related label c) := by
    unfold ColumnPath.related
    cases p.hops <;> rfl
  refine hroute.refers_existsAlong haccepted he (fun _ href => href) ?_ hscope _ hchain
  intro scope hfind inner hinner
  rw [← Option.some.inj hinner]
  exact hc scope hfind

/-- The test for missing rows has sound references: it is one for rows that meet no condition. -/
lemma ColumnPath.refers_missing? {reached : Entity} (hroute : r.Route e p.hops reached)
    (haccepted : r.IsAccepted) (he : r.Has e) {missing : Expr}
    (h : p.missing? label = some missing) (hscope : Keyed.find? label scope = some e.table) :
    missing.Refers (fun ref => ref.IsSound r label e p.hops) scope := by
  unfold ColumnPath.missing? at h
  split at h
  · cases h
  · next hop rest hhops =>
    have hchain : existsAlong label none p.hops =
        some (.ofExpr (hop.existsExpr label (existsAlong (hop.label label) none rest))) := by
      rw [hhops, existsAlong]
    have hnothing : ∀ scope, Keyed.find? (labelAlong label p.hops) scope = some reached.table →
        ∀ c : Condition, none = some c →
          c.Refers (fun ref => ref.IsSound r label e p.hops) scope := by
      intro scope _ c hc
      cases hc
    have hnone := hroute.refers_existsAlong haccepted he (fun _ href => href) hnothing hscope _
      hchain
    rw [← Option.some.inj h, Expr.refers_not]
    exact Condition.refers_ofExpr.mp hnone

/-- **A filter has sound references**, wherever the table of the subject is in scope.

**Proof sketch.** The condition of the tree tests the column at the end of the path. It stands inside
existence tests along the hops of the path, and so does the test for missing rows, around nothing. -/
theorem FilterNode.refers_entry (haccepted : r.IsAccepted) (he : r.Has e)
    (hp : r.resolve e id = .ok p) {node : FilterNode} {c : Condition}
    (h : node.entry p label = .ok c) (hscope : Keyed.find? label scope = some e.table) :
    c.Refers (fun ref => ref.IsSound r label e p.hops) scope := by
  obtain ⟨reached, hroute, hleaf⟩ := Registry.exists_route_of_resolve hp label
  obtain ⟨predicate, hpredicate, h⟩ := bind_eq_ok.mp h
  have hinner : ∀ scope, Keyed.find? (p.leafLabel label) scope = some reached.table →
      predicate.Refers (fun ref => ref.IsSound r label e p.hops) scope := by
    intro scope hfind
    rw [Condition.refers_iff]
    refine node.forall_terms_of_compile (fun t ht => ht.refers (hleaf scope hfind)) ?_ hpredicate
    intro negated junction terms hterms
    exact (Expr.refers_group _ _ _).mpr hterms
  have hrelated := ColumnPath.refers_related hroute haccepted he hinner hscope
  rw [← pure_eq_ok.mp h]
  split
  · next missing hmissing _ =>
    rw [Condition.refers_addExpr, Condition.refers_add]
    have hnone := ColumnPath.refers_missing? hroute haccepted he hmissing hscope
    exact ⟨⟨Condition.refers_empty _ _, hrelated⟩, hnone⟩
  · exact hrelated

/-- **A sort key has sound references**, wherever the table of the subject is in scope.

**Proof sketch.** The first hop is the table that the value is looked up in, and the others are
joined to it. The tables of the subject and of the first hop are still in scope behind these joins,
because the names of later tables are longer. -/
theorem ColumnPath.refers_sortKey (haccepted : r.IsAccepted) (he : r.Has e)
    (hp : r.resolve e id = .ok p) (d : Direction)
    (hscope : Keyed.find? label scope = some e.table) :
    (p.sortKey label d).Refers (fun ref => ref.IsSound r label e p.hops) scope := by
  obtain ⟨reached, hroute, hleaf⟩ := Registry.exists_route_of_resolve hp label
  unfold sortKey
  dsimp only
  unfold leafLabel at hleaf ⊢
  generalize hhops : p.hops = hops at hroute hleaf ⊢
  cases hroute with
  | here => exact refers_expr.mpr (hleaf scope hscope)
  | @step _ target _ relation rest hrelation htarget hrest =>
    have hparent := find?_cons_label hscope (relation.hop target) target.table
    have htable := Keyed.find?_cons_self ((relation.hop target).label label) target.table scope
    have hlift : ∀ ref : Reference, ref.IsSound r ((relation.hop target).label label) target rest →
        ref.IsSound r label e (relation.hop target :: rest) :=
      fun _ href => href.step hrelation htarget
    obtain ⟨hjoins, hend⟩ := hrest.refers_onItems haccepted ⟨_, htarget⟩ hlift htable
    refine (Expr.refers_lookup _ _ _ _ _ _).mpr ⟨?_, ?_, ?_⟩
    · exact refers_expr.mpr (hleaf _ hend)
    · exact forall_mem_referencesThrough.mpr hjoins
    · have hlength := (relation.hop target).length_lt_label label
      refine Condition.refers_add.mpr ⟨Condition.refers_empty _ _, ?_⟩
      refine Relation.refers_correlation haccepted he hrelation htarget (fun _ href => href) ?_ ?_
      · exact (find?_scopeThrough_joinsAlong (by omega) _).trans hparent
      · exact (find?_scopeThrough_joinsAlong (by omega) _).trans htable

end

end DataGrid
