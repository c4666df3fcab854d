import DataGrid.Proofs.Filter.Blanking
import DataGrid.Proofs.Query.Identifiers

/-!
# Texts of requests

Text of a client reaches the store as a value only. All names in the statements of a request are
declared in the registry, and what is left of a statement without its values does not depend on the
texts of the request: two requests that ask for the same columns with the same operators have the
same statements up to literals.

## Main definitions

* `DataGrid.Request.blanked` — a request without the texts of its operands and identities.
* `DataGrid.Scope.blanked` — a scope without the values in its condition.

## Main results

* `DataGrid.Registry.Stages.blanked_scope_eq` — the scopes of two requests that differ in texts only
  differ in values only.
* `DataGrid.Registry.texts_are_literals` — names are declared, and texts become values.
-/

namespace DataGrid

open Sql

/-! ## Scopes without values -/

namespace Scope

/-- A scope without the values in its condition. -/
def blanked (s : Scope) : Scope := { s with condition := s.condition.blanked }

/-- A scope can be blanked before or after conditions restrict it. -/
lemma blanked_restrictAll (s : Scope) (conditions : List Condition) :
    (s.restrictAll conditions).blanked =
      s.blanked.restrictAll (conditions.map Condition.blanked) := by
  have hfold : ∀ (conditions : List Condition) (c : Condition),
      (conditions.foldl Condition.add c).blanked =
        (conditions.map Condition.blanked).foldl Condition.add c.blanked := by
    intro conditions
    induction conditions with
    | nil => exact fun _ => rfl
    | cons d rest ih =>
      intro c
      rw [List.foldl_cons, ih, Condition.blanked_add, List.map_cons, List.foldl_cons]
  rw [blanked, restrictAll, hfold]
  rfl

/-- The filter can be blanked in the scope or in the statement. -/
lemma filter?_blanked (s : Scope) : s.blanked.filter? = s.filter?.map Condition.blanked := by
  have hguard : s.guard?.map Expr.blanked = s.guard? := by
    unfold guard?
    split <;> rfl
  have hrestriction : s.blanked.restriction = s.restriction.blanked := by
    rw [restriction, restriction, Condition.blanked_addExpr?, hguard]
    rfl
  unfold filter?
  rw [hrestriction, Condition.isEmpty_blanked]
  split <;> rfl

/-- A statement that looks at the condition of a scope in its filter only depends, up to values, on
the scope up to values. -/
lemma blanked_select_eq {s t : Scope} (select : Scope → Select)
    (hfilter : ∀ u, (select u).filter = u.filter?)
    (hrest : ∀ u : Scope, { (select u).blanked with filter := none } =
      { (select u.blanked).blanked with filter := none })
    (h : s.blanked = t.blanked) : (select s).blanked = (select t).blanked := by
  have hsplit : ∀ u : Scope, (select u).blanked =
      { { (select u.blanked).blanked with filter := none } with filter := u.blanked.filter? } := by
    intro u
    rw [← hrest, filter?_blanked, ← hfilter]
    rfl
  rw [hsplit s, hsplit t, h]

/-- The total up to values. -/
lemma blanked_countStatement_eq {s t : Scope} (h : s.blanked = t.blanked) :
    s.countStatement.blanked = t.countStatement.blanked := by
  have hrows : ∀ outputs : List Output, ({ s.rows with outputs := outputs } : Select).blanked =
      ({ t.rows with outputs := outputs } : Select).blanked :=
    fun outputs => blanked_select_eq (fun u => { u.rows with outputs := outputs })
      (fun _ => rfl) (fun _ => rfl) h
  have hgrouped : s.isGrouped = t.isGrouped := eq_of_blanked isGrouped h fun _ => rfl
  have hcolumns : s.groupColumns = t.groupColumns := eq_of_blanked groupColumns h fun _ => rfl
  unfold countStatement
  rw [hgrouped, hcolumns]
  split <;> rw [Statement.blanked, Statement.blanked, hrows]

end Scope

/-- A listing up to values. -/
lemma Listing.blanked_statement_eq {l m : Listing} (hpath : l.path = m.path)
    (h : l.scope.blanked = m.scope.blanked) : l.statement.blanked = m.statement.blanked := by
  obtain ⟨p, s⟩ := l
  obtain rfl : p = m.path := hpath
  exact congrArg Statement.select (Scope.blanked_select_eq
    (fun u => (Listing.statement ⟨m.path, u⟩).body) (fun _ => rfl) (fun _ => rfl) h)

/-! ## Requests without texts -/

/-- A request without the texts of its operands and of the identities that are toggled. Column ids,
operators, and the number of values in each list stay. -/
def Request.blanked (request : Request) : Request :=
  { request with
    filters := request.filters.map fun entry => (entry.1, entry.2.blanked)
    toggled := request.toggled.map Json.blanked }

/-- What two lists are related to agrees if the lists agree and related elements of agreeing ones
do. -/
lemma map_eq_map_of_forall₂ {α β γ δ : Type} {R : α → β → Prop} {f : α → γ} {g : β → δ}
    (hR : ∀ a a' b b', f a = f a' → R a b → R a' b' → g b = g b') {l l' : List α} {m m' : List β}
    (h : List.Forall₂ R l m) (h' : List.Forall₂ R l' m') (hmap : l.map f = l'.map f) :
    m.map g = m'.map g := by
  induction h generalizing l' m' with
  | nil =>
    rw [List.map_nil, eq_comm, List.map_eq_nil_iff] at hmap
    subst hmap
    cases h'
    rfl
  | cons hab _ ih =>
    cases h' with
    | nil => cases hmap
    | cons hab' htail =>
      rw [List.map_cons, List.map_cons, List.cons.injEq] at hmap
      rw [List.map_cons, List.map_cons, hR _ _ _ _ hmap.1 hab hab', ih htail hmap.2]

namespace Request

variable {request request' : Request}

/-- The condition of a selection up to values. -/
lemma blanked_selectionConditions_eq {e : Entity} {selections selections' : List Condition}
    (h : request'.blanked = request.blanked)
    (hs : request.selectionConditions e = .ok selections)
    (hs' : request'.selectionConditions e = .ok selections') :
    selections'.map Condition.blanked = selections.map Condition.blanked := by
  have hmodel : request'.rowModel = request.rowModel := eq_of_blanked rowModel h fun _ => rfl
  have hall : request'.selectAll = request.selectAll := eq_of_blanked selectAll h fun _ => rfl
  have htoggled : request'.toggled.map Json.blanked = request.toggled.map Json.blanked :=
    congrArg toggled h
  unfold selectionConditions Selection.ofRequest? at hs hs'
  rw [hmodel, hall] at hs'
  cases hrow : request.rowModel with
  | none =>
    rw [hrow] at hs hs'
    rw [← Except.ok.inj hs, ← Except.ok.inj hs']
  | some model =>
    rw [hrow] at hs hs'
    obtain ⟨ids, hids, hs⟩ := bind_eq_ok.mp hs
    obtain ⟨ids', hids', hs'⟩ := bind_eq_ok.mp hs'
    have hlength : ids'.length = ids.length := by
      rw [length_of_mapM_eq_ok hids, length_of_mapM_eq_ok hids']
      simpa using congrArg List.length htoggled
    rw [← pure_eq_ok.mp hs, ← pure_eq_ok.mp hs']
    simp [Expr.blanked, hlength]

/-- The filters that restrict a request, up to texts. -/
lemma blanked_filters_eq (h : request'.blanked = request.blanked) :
    (request'.filters.filter fun entry => request'.column ≠ some entry.1).map
        (fun entry => (entry.1, entry.2.blanked)) =
      (request.filters.filter fun entry => request.column ≠ some entry.1).map
        fun entry => (entry.1, entry.2.blanked) := by
  have hpull : ∀ r : Request, (r.filters.filter fun entry => r.column ≠ some entry.1).map
      (fun entry => (entry.1, entry.2.blanked)) =
        r.blanked.filters.filter fun entry => r.blanked.column ≠ some entry.1 := by
    intro r
    rw [blanked, List.filter_map]
    rfl
  rw [hpull, hpull, h]

end Request

/-! ## Two requests -/

section

variable {r : Registry} {subject : Subject} {request request' : Request} {q q' : Query}
variable {start start' : Scope} {conditions conditions' : List Condition}
variable {selected selected' : List ScopeChange}

/-- The conditions of the filters of two requests, up to values. -/
lemma Registry.Stages.blanked_conditions_eq
    (h : r.Stages subject request q start conditions selected)
    (h' : r.Stages subject request' q' start' conditions' selected')
    (hblank : request'.blanked = request.blanked) :
    conditions'.map Condition.blanked = conditions.map Condition.blanked := by
  obtain ⟨htable, -⟩ := h.start_spec
  obtain ⟨htable', -⟩ := h'.start_spec
  have hfilters := h.filters
  have hfilters' := h'.filters
  rw [htable] at hfilters
  rw [htable'] at hfilters'
  refine map_eq_map_of_forall₂ ?_ hfilters' hfilters (Request.blanked_filters_eq hblank)
  rintro ⟨id, n⟩ ⟨id', m⟩ c d hsame ⟨p, hp, hc⟩ ⟨p', hp', hd⟩
  rw [Prod.mk.injEq] at hsame
  dsimp only at hsame hp hp' hc hd
  rw [hsame.1, hp', Except.ok.injEq] at hp
  rw [← hp] at hc
  exact FilterNode.blanked_eq_of_entry hsame.2 hc hd

/-- **The scopes of two requests** that differ in texts only differ in values only.

**Proof sketch.** Both are the same ordered scope (`Stages.exists_restrictAll`) with the conditions
of the parent, which are the same, those of the filters (`Stages.blanked_conditions_eq`) and those of
the selection (`Request.blanked_selectionConditions_eq`). -/
theorem Registry.Stages.blanked_scope_eq
    (h : r.Stages subject request q start conditions selected)
    (h' : r.Stages subject request' q' start' conditions' selected')
    (hhook : r.hook? subject.entity.name = none) (hblank : request'.blanked = request.blanked) :
    q'.scope.blanked = q.scope.blanked := by
  obtain ⟨parents, selections, hparents, hselections, hscope⟩ := h.exists_restrictAll hhook
  obtain ⟨parents', selections', hparents', hselections', hscope'⟩ := h'.exists_restrictAll hhook
  have hunrestricted : r.unrestricted subject.entity request' =
      r.unrestricted subject.entity request :=
    eq_of_blanked (r.unrestricted subject.entity) hblank fun _ => rfl
  have hsame : parents' = parents := Except.ok.inj (hparents'.symm.trans hparents)
  rw [hscope, hscope', Scope.blanked_restrictAll, Scope.blanked_restrictAll, hunrestricted, hsame]
  simp only [List.map_append]
  rw [h.blanked_conditions_eq h' hblank,
    Request.blanked_selectionConditions_eq hblank hselections hselections']

/-- The listings of two requests up to values, from their scopes. -/
lemma Query.blanked_listing_eq {allowed : List String}
    (hcolumn : q'.request.column = q.request.column) (hsubject : q'.subject = q.subject)
    (hscope : q'.scope.blanked = q.scope.blanked) :
    (q'.listing r allowed).map (fun l => l.statement.blanked) =
      (q.listing r allowed).map fun l => l.statement.blanked := by
  unfold Query.listing
  rw [hcolumn, hsubject]
  split
  · rfl
  · next column _ =>
    split
    · cases r.resolve q.subject.entity column with
      | error f => rfl
      | ok p => exact congrArg Except.ok (Listing.blanked_statement_eq rfl hscope)
    · rfl

/-- **Names are declared, and texts become values.** All names in the statements of a compiled
request are declared in the registry and are plain identifiers. A request that differs in texts only
and compiles as well has the same page, the same total and the same listings up to values.

**Proof sketch.** Whatever a column id stands for is declared (`Registry.isDeclared_of_resolve`),
and all that goes into a statement besides has been checked when it was registered
(`Built.isSafe`). For the second part, statements up to values depend on the scope up to values
only, and that is the same for both requests (`Stages.blanked_scope_eq`). -/
theorem Registry.texts_are_literals (hbuilt : r.Built) (hsubject : subject.IsOf r)
    (hhook : r.hook? subject.entity.name = none) (h : r.compile subject request = .ok q) :
    (∀ statement, q.IsStatement r statement → ∀ name ∈ statement.identifiers,
      r.Declares subject.entity.table name ∧ IsIdentifier name) ∧
    ∀ request' q', r.compile subject request' = .ok q' → request'.blanked = request.blanked →
      q'.page.blanked = q.page.blanked ∧ q'.total.blanked = q.total.blanked ∧
      ∀ allowed, (q'.listing r allowed).map (fun l => l.statement.blanked) =
        (q.listing r allowed).map fun l => l.statement.blanked := by
  obtain ⟨start, conditions, selected, hstages⟩ := Registry.compile_spec h
  refine ⟨fun statement hs name hname => ?_, fun request' q' h' hblank => ?_⟩
  · have hdeclared := hs.namedBy hstages hsubject hhook name hname
    have hbase := (hbuilt.isSafe _ hsubject.has).table
    exact ⟨hdeclared, hdeclared.isIdentifier hbuilt.isSafe hbase⟩
  · obtain ⟨start', conditions', selected', hstages'⟩ := Registry.compile_spec h'
    have hscope := hstages.blanked_scope_eq hstages' hhook hblank
    have hcolumn : q'.request.column = q.request.column := by
      rw [hstages.request_eq, hstages'.request_eq]
      exact eq_of_blanked Request.column hblank fun _ => rfl
    have hsame : q'.subject = q.subject := by rw [hstages.subject_eq, hstages'.subject_eq]
    exact ⟨congrArg Statement.select (Scope.blanked_select_eq Scope.pageStatement
      (fun _ => rfl) (fun _ => rfl) hscope),
      Scope.blanked_countStatement_eq hscope,
      fun _ => Query.blanked_listing_eq hcolumn hsame hscope⟩

end

/-- The keepers but one, by a vaccine that their flamingos have had, if any, and a part of their own
name, with the cities of their zoos. -/
def Zoo.vaccinating (vaccine part left : String) : Request where
  filters := [
    ("flamingos.vaccinations.vaccine",
      .leaf { filterType := "set", values := [.string vaccine, .null] }),
    ("name", .group "OR" [
      .leaf { filterType := "text", operator := some "contains", filter := some (.string part) },
      .leaf { filterType := "text", operator := some "blank" }])]
  rowModel := some .serverSide
  selectAll := true
  toggled := [.string left]
  column := some "zoo.city"

/-- Text that looks like a part of a statement changes nothing but values. -/
theorem Registry.texts_are_literals_vaccines :
    ∃ r q q', Zoo.registry = .ok r ∧ r.Built ∧ r.hook? Zoo.keepers.name = none ∧
      r.compile { entity := Zoo.keepers } (Zoo.vaccinating "H5" "Ann" "7") = .ok q ∧
      r.compile { entity := Zoo.keepers } (Zoo.vaccinating "H5) OR (1 = 1" "%_" "id") = .ok q' ∧
      (∀ statement, q.IsStatement r statement → ∀ name ∈ statement.identifiers,
        r.Declares "keepers" name ∧ IsIdentifier name) ∧
      q'.page.blanked = q.page.blanked ∧ q'.total.blanked = q.total.blanked ∧
      ∀ allowed, (q'.listing r allowed).map (fun l => l.statement.blanked) =
        (q.listing r allowed).map fun l => l.statement.blanked := by
  have hbuilt : ∀ r, Zoo.registry = .ok r → r.Built := fun r hr => Registry.built_of_ofEntities hr
  refine ⟨_, _, _, rfl, hbuilt _ rfl, rfl, rfl, rfl, ?_⟩
  have hmain := Registry.texts_are_literals (hbuilt _ rfl) (.inl ⟨"keepers", rfl⟩) rfl
    (show Registry.compile _ { entity := Zoo.keepers } (Zoo.vaccinating "H5" "Ann" "7") = .ok _
      from rfl)
  exact ⟨hmain.1, hmain.2 (Zoo.vaccinating "H5) OR (1 = 1" "%_" "id") _ rfl rfl⟩

end DataGrid
