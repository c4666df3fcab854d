import DataGrid.Proofs.Query.Deleted
import DataGrid.Proofs.Store.Identifiers

/-!
# Declared names

A column id is text of a client, but all names that come out of it are those of the schema: the
segments that follow relations are looked up among the declared relations, and the next ones among
the declared columns. What is registered has passed the checks on names, so that all of these names
are plain identifiers, and the names under which tables are joined are put together from them.

## Main definitions

* `DataGrid.IsIdentifier` — a letter or underscore, then letters, digits and underscores.
* `DataGrid.Registry.Built` — the registries that registration makes.
* `DataGrid.Registry.IsLabel` — the names of joined tables.
* `DataGrid.Registry.Declares` — the names that may stand in a statement.

## Main results

* `DataGrid.Registry.Built.isSafe` — all names of a registered entity are identifiers.
* `DataGrid.Registry.Declares.isIdentifier` — so are all names that may stand in a statement.
* `DataGrid.Registry.isDeclared_of_resolve` — what a column id stands for is declared.
* `DataGrid.ColumnPath.IsDeclared.namedBy_sortKey`, `DataGrid.namedBy_joinsAlong` — so are the names
  in sort keys and joins.
-/

namespace DataGrid

open Sql

/-! ## Identifiers -/

/-- A name that begins with an ASCII letter or an underscore and goes on with ASCII letters, digits
and underscores. -/
def IsIdentifier (name : String) : Prop :=
  ∃ first rest, name.toList = first :: rest ∧ isNameStart first = true ∧
    ∀ c ∈ rest, isNameChar c = true

/-- A safe name is an identifier. -/
lemma isIdentifier_of_isSafeName {name : String} (h : isSafeName name = true) :
    IsIdentifier name := by
  unfold isSafeName at h
  split at h
  · cases h
  · next first rest hname =>
    rw [Bool.and_eq_true, Bool.and_eq_true, List.all_eq_true] at h
    exact ⟨first, rest, hname, h.1.1, fun c hc => h.1.2 c (List.mem_cons_of_mem _ hc)⟩

/-- The first character of an identifier is one of those that may follow it. -/
lemma isNameChar_of_isNameStart {c : Char} (h : isNameStart c = true) : isNameChar c = true := by
  rw [isNameStart, Bool.or_eq_true] at h
  rw [isNameChar, Char.isAlphanum, Bool.or_eq_true, Bool.or_eq_true]
  exact h.imp_left .inl

/-- Two identifiers with underscores between them are an identifier. -/
lemma IsIdentifier.join {front back : String} (hfront : IsIdentifier front)
    (hback : IsIdentifier back) : IsIdentifier (front ++ "__" ++ back) := by
  obtain ⟨first, rest, hname, hfirst, hrest⟩ := hfront
  obtain ⟨first', rest', hname', hfirst', hrest'⟩ := hback
  have hletter := isNameChar_of_isNameStart hfirst'
  have hunderscore : isNameChar '_' = true := rfl
  refine ⟨first, rest ++ '_' :: '_' :: first' :: rest', ?_, hfirst, ?_⟩
  · have hmiddle : "__".toList = ['_', '_'] := rfl
    rw [String.toList_append, String.toList_append, hname, hname', hmiddle]
    simp
  · simp only [List.forall_mem_append, List.forall_mem_cons]
    exact ⟨hrest, hunderscore, hunderscore, hletter, hrest'⟩

/-! ## Registered entities -/

/-- All names that an entity brings into statements are identifiers. -/
structure Entity.IsSafe (e : Entity) : Prop where
  table : IsIdentifier e.table
  primaryKey : IsIdentifier e.primaryKey
  softDelete : ∀ name, e.softDelete = some name → IsIdentifier name
  columns : ∀ c ∈ e.columns, IsIdentifier c.name
  relations : ∀ relation ∈ e.relations, IsIdentifier relation.name ∧
    IsIdentifier relation.localKey ∧ IsIdentifier relation.foreignKey

/-- A name that is not refused is an identifier. -/
lemma isIdentifier_of_checkName {role : NameRole} {name : String}
    (h : checkName role name = .ok ()) : IsIdentifier name := by
  unfold checkName at h
  split at h
  · next hsafe => exact isIdentifier_of_isSafeName hsafe
  · cases h

/-- A check of all elements succeeds when it does for each of them. -/
lemma forM_eq_ok_iff {ε α : Type} {check : α → Except ε Unit} {l : List α} :
    l.forM check = .ok () ↔ ∀ a ∈ l, check a = .ok () := by
  induction l with
  | nil => exact iff_of_true rfl nofun
  | cons a rest ih =>
    rw [List.forall_mem_cons, ← ih]
    constructor
    · intro h
      obtain ⟨_, hfirst, hrest⟩ := bind_eq_ok.mp h
      exact ⟨hfirst, hrest⟩
    · rintro ⟨hfirst, hrest⟩
      exact bind_eq_ok.mpr ⟨(), hfirst, hrest⟩

/-- The checks on an entity, one by one: names are spelled safely, and the primary key is declared.
Nothing else is asked of the column that marks deleted rows than its spelling. -/
lemma Entity.check_spec {e : Entity} (h : e.check = .ok ()) :
    checkName .table e.table = .ok () ∧ checkName .primaryKey e.primaryKey = .ok () ∧
      (∀ name, e.softDelete = some name → checkName .softDelete name = .ok ()) ∧
      (∀ c ∈ e.columns, checkName .column c.name = .ok ()) ∧
      (∀ relation ∈ e.relations, relation.check = .ok ()) ∧
      (e.column? e.primaryKey).isSome = true := by
  obtain ⟨_, _, h⟩ := bind_eq_ok.mp h
  obtain ⟨_, htable, h⟩ := bind_eq_ok.mp h
  obtain ⟨_, hkey, h⟩ := bind_eq_ok.mp h
  obtain ⟨hsoft, h⟩ : (∀ name, e.softDelete = some name → checkName .softDelete name = .ok ()) ∧ (do
      e.columns.forM fun c => checkName .column c.name
      e.relations.forM Relation.check
      if (e.column? e.primaryKey).isSome then pure ()
      else throw (.noPrimaryKey e.name e.primaryKey) : Except SchemaFault Unit) = .ok () := by
    dsimp only at h
    cases hsoft : e.softDelete with
    | none =>
      rw [hsoft] at h
      exact ⟨nofun, h⟩
    | some column =>
      rw [hsoft] at h
      obtain ⟨_, hcolumn, h⟩ := bind_eq_ok.mp h
      exact ⟨fun name hname => Option.some.inj hname ▸ hcolumn, h⟩
  obtain ⟨_, hcolumns, h⟩ := bind_eq_ok.mp h
  obtain ⟨_, hrelations, h⟩ := bind_eq_ok.mp h
  have hdeclared : (e.column? e.primaryKey).isSome = true := by
    by_contra hmissing
    rw [if_neg hmissing] at h
    cases h
  exact ⟨htable, hkey, hsoft, forM_eq_ok_iff.mp hcolumns, forM_eq_ok_iff.mp hrelations,
    hdeclared⟩

/-- An entity that passes the checks is safe. -/
lemma Entity.isSafe_of_check {e : Entity} (h : e.check = .ok ()) : e.IsSafe := by
  obtain ⟨htable, hkey, hsoft, hcolumns, hrelations, -⟩ := check_spec h
  refine ⟨isIdentifier_of_checkName htable, isIdentifier_of_checkName hkey,
    fun name hname => isIdentifier_of_checkName (hsoft name hname),
    fun c hc => isIdentifier_of_checkName (hcolumns c hc), fun relation hrelation => ?_⟩
  have hcheck := hrelations relation hrelation
  obtain ⟨_, hname, hcheck⟩ := bind_eq_ok.mp hcheck
  obtain ⟨_, hlocal, hforeign⟩ := bind_eq_ok.mp hcheck
  exact ⟨isIdentifier_of_checkName hname, isIdentifier_of_checkName hlocal,
    isIdentifier_of_checkName hforeign⟩

/-- The registries that come about by registering entities, custom filters and export columns, in
any order and whether or not the relations were checked afterwards. -/
inductive Registry.Built : Registry → Prop
  | empty : Built .empty
  | register {r r' : Registry} {e : Entity} : Built r → r.register e = .ok r' → Built r'
  | registerHook {r : Registry} (name : String) (hook : Hook) :
    Built r → Built (r.registerHook name hook)
  | registerExports {r : Registry} (name : String) (columns : List ExportColumn) :
    Built r → Built (r.registerExports name columns)

/-- **All registered entities have passed the checks**, however the registry has come about.

**Proof sketch.** Induction over the registrations. Each of them checks the one entity that it adds
and leaves the others as they are. -/
theorem Registry.Built.check_eq_ok {r : Registry} (h : r.Built) :
    ∀ e, r.Has e → e.check = .ok () := by
  induction h with
  | empty => exact fun _ ⟨_, he⟩ => nomatch he
  | @register r r' added _ hr ih =>
    obtain ⟨_, hcheck, hr⟩ := bind_eq_ok.mp hr
    rintro e ⟨name, he⟩
    rw [← pure_eq_ok.mp hr, entity?, Keyed.find?_insert] at he
    split at he
    · rw [← Option.some.inj he]
      exact hcheck
    · exact ih e ⟨name, he⟩
  | registerHook _ _ _ ih => exact ih
  | registerExports _ _ _ ih => exact ih

/-- All registered entities are safe. -/
theorem Registry.Built.isSafe {r : Registry} (h : r.Built) : ∀ e, r.Has e → e.IsSafe :=
  fun e he => Entity.isSafe_of_check (h.check_eq_ok e he)

/-- Registering entities one after the other makes such a registry. -/
lemma Registry.Built.registerAll {r r' : Registry} {entities : List Entity} (h : r.Built)
    (hall : r.registerAll entities = .ok r') : r'.Built := by
  induction entities generalizing r with
  | nil => exact pure_eq_ok.mp hall ▸ h
  | cons e rest ih =>
    obtain ⟨next, hnext, hall⟩ := bind_eq_ok.mp hall
    exact ih (h.register hnext) hall

/-- So does a list of entities whose relations are checked as well. -/
lemma Registry.built_of_ofEntities {r : Registry} {entities : List Entity}
    (h : ofEntities entities = .ok r) : r.Built := by
  obtain ⟨built, hall, h⟩ := bind_eq_ok.mp h
  obtain ⟨_, -, h⟩ := bind_eq_ok.mp h
  exact pure_eq_ok.mp h ▸ Built.empty.registerAll hall

/-! ## Names in statements -/

namespace Registry

/-- The names under which tables are joined: that of the base table, followed by names of declared
relations. -/
inductive IsLabel (r : Registry) (base : String) : String → Prop
  | base : r.IsLabel base base
  | step {label : String} {e : Entity} {relation : Relation} : r.IsLabel base label → r.Has e →
    relation ∈ e.relations → r.IsLabel base (label ++ "__" ++ relation.name)

/-- The names that may stand in a statement on the table `base`. -/
inductive Declares (r : Registry) (base : String) : String → Prop
  | table {e : Entity} : r.Has e → r.Declares base e.table
  | primaryKey {e : Entity} : r.Has e → r.Declares base e.primaryKey
  | softDelete {e : Entity} {name : String} : r.Has e → e.softDelete = some name →
    r.Declares base name
  | column {e : Entity} {c : Column} : r.Has e → c ∈ e.columns → r.Declares base c.name
  | localKey {e : Entity} {relation : Relation} : r.Has e → relation ∈ e.relations →
    r.Declares base relation.localKey
  | foreignKey {e : Entity} {relation : Relation} : r.Has e → relation ∈ e.relations →
    r.Declares base relation.foreignKey
  | label {label : String} : r.IsLabel base label → r.Declares base label
  /-- The name that a grouped total is counted through. -/
  | total : r.Declares base Scope.countLabel
  /-- The output column of a listing. -/
  | value : r.Declares base valueName
  | castType {type : String} : type ∈ castTypes → r.Declares base type

variable {r : Registry} {base : String}

/-- **Whatever may stand in a statement** is an identifier. -/
theorem Declares.isIdentifier (hsafe : ∀ e, r.Has e → e.IsSafe) (hbase : IsIdentifier base)
    {name : String} (h : r.Declares base name) : IsIdentifier name := by
  cases h with
  | table he => exact (hsafe _ he).table
  | primaryKey he => exact (hsafe _ he).primaryKey
  | softDelete he hname => exact (hsafe _ he).softDelete name hname
  | column he hc => exact (hsafe _ he).columns _ hc
  | localKey he hrelation => exact ((hsafe _ he).relations _ hrelation).2.1
  | foreignKey he hrelation => exact ((hsafe _ he).relations _ hrelation).2.2
  | label hlabel =>
    induction hlabel with
    | base => exact hbase
    | step _ he hrelation ih => exact ih.join ((hsafe _ he).relations _ hrelation).1
  | total => exact isIdentifier_of_isSafeName rfl
  | value => exact isIdentifier_of_isSafeName rfl
  | castType htype =>
    have hall : ∀ type ∈ castTypes, isSafeName type = true := by decide
    exact isIdentifier_of_isSafeName (hall name htype)

end Registry

/-! ## Column ids -/

/-- A hop along a declared relation between registered entities. -/
def Hop.IsDeclared (r : Registry) (hop : Hop) : Prop :=
  ∃ source relation target, r.Has source ∧ relation ∈ source.relations ∧ r.Has target ∧
    hop = relation.hop target

/-- A path along declared relations to a declared column. -/
structure ColumnPath.IsDeclared (r : Registry) (p : ColumnPath) : Prop where
  hops : ∀ hop ∈ p.hops, hop.IsDeclared r
  leaf : ∃ e c, r.Has e ∧ c ∈ e.columns ∧ p.leaf = c.name

namespace Registry

variable {r : Registry}

/-- A route from a registered entity follows declared relations to registered ones. -/
lemma Route.isDeclared {e reached : Entity} {hops : List Hop} (h : r.Route e hops reached)
    (he : r.Has e) : r.Has reached ∧ ∀ hop ∈ hops, hop.IsDeclared r := by
  induction h with
  | here => exact ⟨he, List.forall_mem_nil _⟩
  | @step e target _ relation _ hrelation htarget _ ih =>
    have hhas : r.Has target := ⟨_, htarget⟩
    obtain ⟨hreached, hdeclared⟩ := ih hhas
    exact ⟨hreached, List.forall_mem_cons.mpr
      ⟨⟨e, relation, target, he, List.mem_of_find?_eq_some hrelation, hhas, rfl⟩, hdeclared⟩⟩

/-- **What a column id stands for** is declared. -/
theorem isDeclared_of_resolve {e : Entity} {id : String} {p : ColumnPath} (he : r.Has e)
    (h : r.resolve e id = .ok p) : p.IsDeclared r := by
  obtain ⟨reached, c, hroute, hc, hleaf⟩ := route_of_resolve h
  obtain ⟨hreached, hdeclared⟩ := hroute.isDeclared he
  exact ⟨hdeclared, reached, c, hreached, hc, hleaf⟩

end Registry

/-! ## The names of a path -/

section

variable {r : Registry} {base : String}

/-- The table of a hop is joined under the name before, followed by that of a relation. -/
lemma Hop.IsDeclared.isLabel {hop : Hop} (h : hop.IsDeclared r) {label : String}
    (hlabel : r.IsLabel base label) : r.IsLabel base (hop.label label) := by
  obtain ⟨source, relation, target, hsource, hrelation, -, rfl⟩ := h
  exact hlabel.step hsource hrelation

/-- The table of a hop is that of a registered entity. -/
lemma Hop.IsDeclared.declares_table {hop : Hop} (h : hop.IsDeclared r) :
    r.Declares base hop.table := by
  obtain ⟨_, _, target, -, -, htarget, rfl⟩ := h
  exact .table htarget

/-- What joins the table of a hop to its parent has declared names. -/
lemma Hop.IsDeclared.namedBy_correlation {hop : Hop} (h : hop.IsDeclared r) {parent : String}
    (hparent : r.IsLabel base parent) : (hop.correlation parent).NamedBy (r.Declares base) := by
  have hlabel := h.isLabel hparent
  obtain ⟨source, relation, target, hsource, hrelation, htarget, rfl⟩ := h
  rw [Hop.correlation, Condition.namedBy_addExpr?, Condition.namedBy_addExpr]
  refine ⟨⟨Condition.namedBy_empty _ _, ?_⟩, fun e he => ?_⟩
  · simp only [Expr.namedBy_compare, Expr.namedBy_column]
    exact ⟨⟨.label hlabel, .foreignKey hsource hrelation⟩, .label hparent,
      .localKey hsource hrelation⟩
  · obtain ⟨name, hname, rfl⟩ := Option.map_eq_some_iff.mp he
    simp only [Expr.namedBy_isNull, Expr.namedBy_column]
    exact ⟨.label hlabel, .softDelete htarget hname⟩

/-- Existence tests along declared hops have declared names, besides those of what stands inside. -/
lemma namedBy_existsAlong {hops : List Hop} (hhops : ∀ hop ∈ hops, hop.IsDeclared r)
    {parent : String} (hparent : r.IsLabel base parent) {inner : Option Condition}
    (hinner : ∀ c, inner = some c → c.NamedBy (r.Declares base)) :
    ∀ c, existsAlong parent inner hops = some c → c.NamedBy (r.Declares base) := by
  induction hops generalizing parent with
  | nil => exact hinner
  | cons hop rest ih =>
    rw [List.forall_mem_cons] at hhops
    have hlabel := hhops.1.isLabel hparent
    intro c hc
    rw [existsAlong, Option.some.injEq] at hc
    rw [← hc, Condition.namedBy_ofExpr, Hop.existsExpr, Expr.namedBy_existsIn]
    refine ⟨hhops.1.declares_table, .label hlabel, ?_⟩
    exact Condition.namedBy_add?.mpr ⟨hhops.1.namedBy_correlation hparent, ih hhops.2 hlabel⟩

/-- Joins along declared hops have declared names. -/
lemma namedBy_joinsAlong {hops : List Hop} (hhops : ∀ hop ∈ hops, hop.IsDeclared r)
    {parent : String} (hparent : r.IsLabel base parent) :
    ∀ join ∈ joinsAlong parent hops, join.NamedBy (r.Declares base) := by
  induction hops generalizing parent with
  | nil => exact fun _ hjoin => nomatch hjoin
  | cons hop rest ih =>
    rw [List.forall_mem_cons] at hhops
    have hlabel := hhops.1.isLabel hparent
    exact List.forall_mem_cons.mpr ⟨⟨hhops.1.declares_table, .label hlabel,
      hhops.1.namedBy_correlation hparent⟩, ih hhops.2 hlabel⟩

namespace ColumnPath

variable {p : ColumnPath}

/-- A key inside a document is a value and no name. -/
lemma namedBy_memberAt {kind : String → Prop} {e : Expr} (h : e.NamedBy kind)
    (keys : List String) : (memberAt e keys).NamedBy kind := by
  induction keys generalizing e with
  | nil => exact h
  | cons key rest ih =>
    cases rest with
    | nil => exact (Expr.namedBy_member e key true).mpr h
    | cons next rest => exact ih ((Expr.namedBy_member e key false).mpr h)

namespace IsDeclared

/-- The table at the end of a path is joined under a name of relations. -/
lemma isLabel_leafLabel (h : p.IsDeclared r) : r.IsLabel base (p.leafLabel base) := by
  have hfold : ∀ (hops : List Hop) (label : String), (∀ hop ∈ hops, hop.IsDeclared r) →
      r.IsLabel base label → r.IsLabel base (hops.foldl (fun label h => h.label label) label) := by
    intro hops
    induction hops with
    | nil => exact fun _ _ hlabel => hlabel
    | cons hop rest ih =>
      intro label hhops hlabel
      rw [List.forall_mem_cons] at hhops
      exact ih _ hhops.2 (hhops.1.isLabel hlabel)
  exact hfold p.hops base h.hops .base

/-- The value of a path has declared names. -/
lemma namedBy_expr (h : p.IsDeclared r) :
    (p.expr (p.leafLabel base)).NamedBy (r.Declares base) := by
  obtain ⟨e, c, he, hc, hleaf⟩ := h.leaf
  refine namedBy_memberAt ((Expr.namedBy_column _ _).mpr ⟨.label h.isLabel_leafLabel, ?_⟩) p.keys
  exact hleaf ▸ .column he hc

/-- A condition through relations has declared names, if the condition at their end has. -/
lemma namedBy_related (h : p.IsDeclared r) {c : Condition} (hc : c.NamedBy (r.Declares base)) :
    (p.related base c).NamedBy (r.Declares base) := by
  unfold related
  cases hchain : existsAlong base (some c) p.hops with
  | none => exact hc
  | some d =>
    exact namedBy_existsAlong h.hops .base (fun _ hd => Option.some.inj hd ▸ hc) d hchain

/-- The test for missing rows has declared names. -/
lemma namedBy_missing? (h : p.IsDeclared r) {e : Expr} (he : p.missing? base = some e) :
    e.NamedBy (r.Declares base) := by
  have hchain : ∀ c, existsAlong base none p.hops = some c → c.NamedBy (r.Declares base) :=
    namedBy_existsAlong h.hops .base nofun
  unfold missing? at he
  split at he
  · cases he
  · next hop rest hhops =>
    rw [← Option.some.inj he, Expr.namedBy_not, ← Condition.namedBy_ofExpr]
    exact hchain _ (by rw [hhops, existsAlong])

/-- A sort key has declared names. -/
lemma namedBy_sortKey (h : p.IsDeclared r) (d : Direction) :
    (p.sortKey base d).NamedBy (r.Declares base) := by
  have hleaf : (p.expr (p.leafLabel base)).NamedBy (r.Declares base) := h.namedBy_expr
  have hhops := h.hops
  unfold sortKey
  cases hp : p.hops with
  | nil => exact hleaf
  | cons hop rest =>
    rw [hp, List.forall_mem_cons] at hhops
    have hlabel : r.IsLabel base (hop.label base) := hhops.1.isLabel .base
    refine (Expr.namedBy_lookup _ _ _ _ _ _).mpr ⟨hhops.1.declares_table, .label hlabel, hleaf,
      namedBy_joinsAlong hhops.2 hlabel, ?_⟩
    exact Condition.namedBy_add.mpr
      ⟨Condition.namedBy_empty _ _, hhops.1.namedBy_correlation .base⟩

end IsDeclared

end ColumnPath

end

end DataGrid
