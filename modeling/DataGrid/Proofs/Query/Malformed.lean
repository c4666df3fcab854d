import DataGrid.Proofs.Filter.Leaves
import DataGrid.Proofs.Query.Operations
import DataGrid.Proofs.Request.Nodes
import DataGrid.Schema.Zoo

/-!
# Malformed groups

A group is malformed when one of its conditions cannot be read. It is not given up then, but read as
a leaf filter, and its conditions are lost. So a request with a malformed group fails only where the
leaf does, or the leaf that a group around it is read as. No leaf filter compiles without a kind, nor
without an operator of its own unless the kind is that of set filters: where neither the malformed
group nor a group around it has these members, the request does not compile. Where one of them has,
the request may: a malformed group of the kind of set filters is compiled as the set filter that it
is not.

## Main definitions

* `DataGrid.FilterNode.IsGroup`, `DataGrid.FilterNode.IsMalformed` — groups, and those with
  unreadable conditions.
* `DataGrid.FilterNode.Within` — a filter node at any depth of another.
* `DataGrid.FilterNode.HasLeafFields` — the members without which no leaf filter compiles.
* `DataGrid.Request.HasEntry` — the filter node that a request has for a column.

## Main results

* `DataGrid.FilterNode.ofJson?_of_isMalformed` — a malformed group is read as a leaf.
* `DataGrid.FilterNode.compile_ne_ok_of_within` — one malformed group spoils the tree around it.
* `DataGrid.Registry.malformed_group_rejected` — and the request, unless there is a leaf to be taken
  for the group.
-/

namespace DataGrid

open Json (fields? required optional)
open Sql

namespace FilterNode

/-! ## Groups -/

/-- A value names an operator and offers conditions, in one of the two forms that records have. -/
inductive IsGroup : Json → List Json → Prop
  | object {members : List (String × Json)} {operator : String} {items : List Json}
      (hoperator : ("operator", .string operator) ∈ members)
      (hconditions : ("conditions", .array items) ∈ members) : IsGroup (.object members) items
  | array (operator : String) (items : List Json) :
      IsGroup (.array [.string operator, .array items]) items

/-- A group has a condition that cannot be read. -/
def IsMalformed (n : Json) : Prop := ∃ items, IsGroup n items ∧ ∃ item ∈ items, ofJson? item = none

/-- A filter node is a value itself, or stands among the conditions of a group, at any depth. -/
inductive Within (n : Json) : Json → Prop
  | self : Within n n
  | condition {g item : Json} {items : List Json} (hgroup : IsGroup g items) (hitem : item ∈ items)
      (h : Within n item) : Within n g

/-- An object names a kind of leaf filters and, unless it is that of set filters, an operator in the
place where leaf filters have theirs. -/
def HasLeafFields (j : Json) : Prop :=
  ∃ members tag kind, j = .object members ∧ ("filterType", .string tag) ∈ members ∧
    FilterKind.ofTag? tag = some kind ∧
    (kind = .set ∨ ∃ operator, ("type", .string operator) ∈ members)

variable {j n : Json} {items : List Json}

/-- If the operator of a group can be read, then there is no doubt about its conditions. -/
lemma IsGroup.items?_eq (h : IsGroup j items) {operator : String}
    (hoperator : groupOperator? j = some operator) : items? j = some items := by
  cases h with
  | @object members _ _ _ hconditions =>
    obtain ⟨fields, hfields, -⟩ := Option.bind_eq_some_iff.mp hoperator
    have hdistinct : Json.distinctFields groupFieldNames members = true := by
      by_contra hrepeated
      rw [fields?, if_neg hrepeated] at hfields
      cases hfields
    have hfound : Keyed.find? "conditions" members = some (.array items) :=
      Json.find?_eq_of_mem hdistinct (by decide) hconditions
    exact itemsOf?_of_find? hfound
  | array tag _ => rfl

/-- The conditions of a group are smaller than the group. -/
lemma IsGroup.sizeOf_lt (h : IsGroup j items) {item : Json} (hitem : item ∈ items) :
    sizeOf item < sizeOf j := by
  cases h with
  | object _ hconditions => exact sizeOf_lt_of_mem_array hconditions hitem
  | array => exact sizeOf_lt_of_mem_second hitem

/-- Of two filter nodes in each other, neither is the smaller one. -/
lemma Within.antisymm {g : Json} (h : Within n g) (h' : Within g n) : g = n := by
  have hle : ∀ {n j : Json}, Within n j → sizeOf n ≤ sizeOf j := by
    intro n j hwithin
    induction hwithin with
    | self => exact le_refl _
    | condition hgroup hitem _ ih => exact ih.trans (hgroup.sizeOf_lt hitem).le
  cases h with
  | self => rfl
  | condition hgroup hitem hinner =>
    have hlt := hgroup.sizeOf_lt hitem
    have hinner := hle hinner
    have houter := hle h'
    omega

/-- **A malformed group is read as a leaf**, if it can be read at all.

**Proof sketch.** If its operator cannot be read, it is not read as a group anyway. Otherwise the
conditions on offer are those with the unreadable one among them. -/
theorem ofJson?_of_isMalformed (h : IsMalformed n) :
    ofJson? n = (LeafFilter.ofJson? n).map .leaf := by
  obtain ⟨items, hgroup, item, hitem, hunreadable⟩ := h
  rw [ofJson?_eq]
  split
  · next operator conditions hoperator hconditions =>
    rw [hgroup.items?_eq hoperator, Option.bind_some] at hconditions
    obtain ⟨node, -, hnode⟩ := (exists_of_ofItems? hconditions).2 item hitem
    rw [hunreadable] at hnode
    cases hnode
  · rfl

end FilterNode

/-! ## Leaves -/

namespace LeafFilter

variable {f : LeafFilter} {p : ColumnPath} {label : String} {c : Condition}

/-- A leaf filter compiles only if it has a kind and, unless this is the kind of set filters, an
operator. -/
lemma exists_kind_of_compile (h : f.compile p label = .ok c) :
    ∃ kind, FilterKind.ofTag? f.filterType = some kind ∧
      (kind = .set ∨ ∃ operator, f.operator = some operator) := by
  obtain ⟨kind, hkind, hcompile⟩ := bind_eq_ok.mp h
  refine ⟨kind, readTag_eq_ok.mp hkind, ?_⟩
  -- the compilation of each other kind begins with the operator
  cases kind with
  | set => exact .inl rfl
  | text =>
    obtain ⟨tag, hoperator, -⟩ := bind_eq_ok.mp hcompile
    exact .inr ⟨tag, operator_of_operatorTag hoperator⟩
  | number =>
    obtain ⟨tag, hoperator, -⟩ := bind_eq_ok.mp hcompile
    exact .inr ⟨tag, operator_of_operatorTag hoperator⟩
  | date =>
    obtain ⟨tag, hoperator, -⟩ := bind_eq_ok.mp hcompile
    exact .inr ⟨tag, operator_of_operatorTag hoperator⟩

end LeafFilter

namespace FilterNode

variable {j n : Json} {items : List Json} {f : LeafFilter} {p : ColumnPath} {label : String}
  {c : Condition}

/-- A group that is read as a leaf, and has not the members of one, does not compile. -/
lemma IsGroup.leaf_compile_ne_ok (h : IsGroup j items) (hleaf : ¬ HasLeafFields j)
    (hread : LeafFilter.ofJson? j = some f) : f.compile p label ≠ .ok c := by
  intro hcompile
  obtain ⟨kind, hkind, hoperator⟩ := LeafFilter.exists_kind_of_compile hcompile
  obtain ⟨fields, hfields, htag, htype, -⟩ := LeafFilter.exists_fields_of_ofJson? hread
  obtain ⟨found, hfound, htag⟩ := Option.bind_eq_some_iff.mp htag
  cases h with
  | @object members _ _ _ _ =>
    have hmem : ∀ m ∈ fields, m ∈ members := by
      intro m hm
      rw [fields?] at hfields
      split_ifs at hfields
      rw [Option.some.injEq] at hfields
      exact List.mem_of_mem_filter (hfields ▸ hm)
    have hstring : ∀ {value : Json} {s : String}, value.string? = some s → value = .string s := by
      intro value s hvalue
      cases value <;> cases hvalue
      rfl
    rw [hstring htag] at hfound
    refine hleaf ⟨members, f.filterType, kind, rfl, hmem _ (Keyed.mem_of_find? hfound), hkind, ?_⟩
    refine hoperator.imp_right ?_
    rintro ⟨operator, hsome⟩
    obtain ⟨value, hvalue, -, hstr⟩ := Json.exists_of_optional_eq_some htype hsome
    rw [hstring hstr] at hvalue
    exact ⟨operator, hmem _ (Keyed.mem_of_find? hvalue)⟩
  | array operator items =>
    -- the conditions stand in the place of the operator of a leaf
    cases hread

/-! ## Trees -/

/-- Conditions are compiled into a group only if each of them compiles. -/
lemma exists_of_compileInto {group : Condition} {nodes : List FilterNode}
    (h : compileInto p label group nodes = .ok c) :
    ∀ node ∈ nodes, ∃ c', node.compile p label = .ok c' := by
  induction nodes generalizing group with
  | nil => exact List.forall_mem_nil _
  | cons node rest ih =>
    rw [compileInto] at h
    split at h
    · cases h
    · next c' hc' => exact List.forall_mem_cons.mpr ⟨⟨c', hc'⟩, ih h⟩

/-- **One malformed group spoils the tree**: a filter node with a malformed group in it does not
compile, unless the malformed group or a group around it has the members of a leaf.

**Proof sketch.** Induction on the depth of the malformed group. It is read as a leaf itself
(`ofJson?_of_isMalformed`), which does not compile (`IsGroup.leaf_compile_ne_ok`). A group around it
is read as a leaf that does not compile either, or as a group with a condition that does not. -/
theorem compile_ne_ok_of_within (hn : IsMalformed n) (hwithin : Within n j)
    (hleaf : ∀ g, Within n g → Within g j → ¬ HasLeafFields g) {node : FilterNode}
    (hread : ofJson? j = some node) : node.compile p label ≠ .ok c := by
  induction hwithin generalizing node c with
  | self =>
    rw [ofJson?_of_isMalformed hn] at hread
    obtain ⟨f, hf, rfl⟩ := Option.map_eq_some_iff.mp hread
    obtain ⟨items, hgroup, -⟩ := hn
    rw [compile]
    exact hgroup.leaf_compile_ne_ok (hleaf n .self .self) hf
  | @condition g item items hgroup hitem hinner ih =>
    have hself : ¬ HasLeafFields g := hleaf g (.condition hgroup hitem hinner) .self
    rcases cases_of_ofJson? hread with
      ⟨operator, items', conditions, hoperator, hitems, hconditions, rfl⟩ | ⟨f, hf, rfl⟩
    · intro hcompile
      rw [hgroup.items?_eq hoperator, Option.some.injEq] at hitems
      subst hitems
      obtain ⟨node', hnode', hread'⟩ := (exists_of_ofItems? hconditions).2 item hitem
      rw [compile] at hcompile
      split at hcompile
      · cases hcompile
      · obtain ⟨c', hc'⟩ := exists_of_compileInto hcompile node' hnode'
        refine ih ?_ hread' hc'
        intro g' hinside houtside
        exact hleaf g' hinside (.condition hgroup hitem houtside)
    · rw [compile]
      exact hgroup.leaf_compile_ne_ok hself hf

end FilterNode

/-! ## Requests -/

/-- A request has a filter node for a column: the last one that it has under its name. -/
def Request.HasEntry (j : Json) (column : String) (entry : Json) : Prop :=
  ∃ fields members, fields? fieldNames j = some fields ∧
    Keyed.find? "filterModel" fields = some (.object members) ∧
    (column, entry) ∈ Keyed.ofList members

/-- The filter node of a column is among the filters that are read. -/
lemma Request.HasEntry.exists_node {j entry : Json} {column : String} {request : Request}
    (h : HasEntry j column entry) (hrequest : ofJson? j = some request) :
    ∃ node, (column, node) ∈ request.filters ∧ FilterNode.ofJson? entry = some node := by
  obtain ⟨fields, members, hfields, hmodel, hentry⟩ := h
  have hfilters : filtersOfJson? (.object members) = some request.filters := by
    obtain ⟨fields', hfields', hread, -⟩ := exists_fields_of_ofJson? hrequest
    rw [hfields, Option.some.injEq] at hfields'
    subst hfields'
    rwa [Json.orNull_eq hmodel nofun] at hread
  obtain ⟨nodes, hnodes, hsorted⟩ := Option.map_eq_some_iff.mp hfilters
  have hpairs : List.Forall₂ (fun m m' => m.1 = m'.1 ∧ FilterNode.ofJson? m.2 = some m'.2)
      members nodes := by
    refine (forall₂_of_mapM hnodes).imp ?_
    intro m m' hm
    obtain ⟨node, hnode, rfl⟩ := Option.map_eq_some_iff.mp hm
    exact ⟨rfl, hnode⟩
  have hinStep := Keyed.forall₂_ofList
    (R := fun entry node => FilterNode.ofJson? entry = some node) hpairs
  obtain ⟨⟨key, node⟩, hnode, rfl, hread⟩ := exists_of_mem_forall₂ hinStep.flip hentry
  rw [hsorted] at hnode
  exact ⟨node, hnode, hread⟩

namespace Registry

/-- **A malformed group is not given up when it is read, but the request is, when it is compiled**:
wherever the group stands in the filter tree of a column, the request does not compile, unless the
group or a group around it has the members of a leaf. The filter on the listed column is not looked
at, malformed or not. What the group is read as is a leaf.

**Proof sketch.** The node of the column is among the filters of the request
(`Request.HasEntry.exists_node`), each of which must compile (`compile_spec`). This one does not
(`FilterNode.compile_ne_ok_of_within`). -/
theorem malformed_group_rejected (r : Registry) (subject : Subject) {j n entry : Json}
    {column : String} {request : Request} (hrequest : Request.ofJson? j = some request)
    (hentry : Request.HasEntry j column entry) (hwithin : FilterNode.Within n entry)
    (hn : FilterNode.IsMalformed n) :
    FilterNode.ofJson? n = (LeafFilter.ofJson? n).map .leaf ∧
      (request.column = some column →
        (r.compile subject request).map Query.scope =
          (r.compile subject { request with
            filters := request.filters.filter fun f => f.1 ≠ column }).map Query.scope) ∧
      (request.column ≠ some column →
        (∀ g, FilterNode.Within n g → FilterNode.Within g entry → ¬ FilterNode.HasLeafFields g) →
          ∃ fault, r.compile subject request = .error fault) := by
  refine ⟨FilterNode.ofJson?_of_isMalformed hn, ?_, ?_⟩
  · intro hlisted
    have hfilters : ((request.filters.filter fun f => f.1 ≠ column).filter fun f => f.1 ≠ column) =
        request.filters.filter fun f => f.1 ≠ column := by
      rw [List.filter_filter]
      simp only [Bool.and_self]
    rw [compile_eq, compile_eq, r.arrange_eq_of_filter_eq subject hlisted hfilters]
    cases r.arrange subject request <;> rfl
  · intro hlisted hleaf
    apply exists_eq_error
    intro q hcompile
    obtain ⟨start, conditions, selected, hstages⟩ := compile_spec hcompile
    obtain ⟨node, hnode, hread⟩ := hentry.exists_node hrequest
    have hkept : (column, node) ∈
        request.filters.filter fun entry => request.column ≠ some entry.1 :=
      List.mem_filter.mpr ⟨hnode, decide_eq_true hlisted⟩
    obtain ⟨c, -, p, -, hc⟩ := exists_of_mem_forall₂ hstages.filters.flip hkept
    obtain ⟨predicate, hpredicate, -⟩ := bind_eq_ok.mp hc
    exact FilterNode.compile_ne_ok_of_within hn hwithin hleaf hread hpredicate

end Registry

/-! ## The flamingos by name -/

/-- A filter without a kind, which cannot be read. -/
def Zoo.kindless : Json := .object [("values", .array [.null])]

/-- A malformed group of the given kind: a flamingo by its name, or those without one. -/
def Zoo.andyOrNameless (kind : String) : Json := .object [
  ("filterType", .string kind),
  ("operator", .string "OR"),
  ("conditions", .array [
    .object [("filterType", .string "set"), ("values", .array [.string "Andy"])],
    Zoo.kindless])]

/-- A request with a filter on names. -/
def Zoo.named (entry : Json) : Json := .object [("filterModel", .object [("name", entry)])]

/-- The second condition cannot be read. -/
lemma Zoo.isMalformed_andyOrNameless (kind : String) :
    FilterNode.IsMalformed (Zoo.andyOrNameless kind) := by
  refine ⟨_, .object (List.mem_cons_of_mem _ List.mem_cons_self)
    (List.mem_cons_of_mem _ (List.mem_cons_of_mem _ List.mem_cons_self)), ?_⟩
  exact ⟨Zoo.kindless, List.mem_cons_of_mem _ List.mem_cons_self, rfl⟩

/-- The filter is the one that the request has for the names. -/
lemma Zoo.hasEntry_named (entry : Json) : Request.HasEntry (Zoo.named entry) "name" entry :=
  ⟨_, _, rfl, rfl, List.mem_cons_self⟩

namespace Registry

/-- A malformed group with the kind of text filters, in another group. -/
theorem malformed_group_rejected_text :
    ∃ r request fault, Zoo.registry = .ok r ∧
      Request.ofJson? (Zoo.named (.array [.string "AND", .array [Zoo.andyOrNameless "text"]])) =
        some request ∧
      r.compile { entity := Zoo.flamingos } request = .error fault := by
  obtain ⟨r, hr⟩ : ∃ r, Zoo.registry = .ok r := ⟨_, rfl⟩
  obtain ⟨request, hrequest, hcolumn⟩ : ∃ request, Request.ofJson?
      (Zoo.named (.array [.string "AND", .array [Zoo.andyOrNameless "text"]])) = some request ∧
        request.column = none := ⟨_, rfl, rfl⟩
  have hwithin : FilterNode.Within (Zoo.andyOrNameless "text")
      (.array [.string "AND", .array [Zoo.andyOrNameless "text"]]) :=
    .condition (.array "AND" _) List.mem_cons_self .self
  have hleaf : ∀ g, FilterNode.Within (Zoo.andyOrNameless "text") g →
      FilterNode.Within g (.array [.string "AND", .array [Zoo.andyOrNameless "text"]]) →
        ¬ FilterNode.HasLeafFields g := by
    rintro g hn hg ⟨members, tag, kind, rfl, htag, hkind, hoperator⟩
    cases hg with
    | condition hgroup hitem hg =>
      cases hgroup with
      | array =>
        rw [List.mem_singleton] at hitem
        subst hitem
        have hsame := hn.antisymm hg
        rw [Zoo.andyOrNameless, Json.object.injEq] at hsame
        subst hsame
        simp at htag hoperator
        subst htag hoperator
        cases hkind
  obtain ⟨-, -, hrejected⟩ := malformed_group_rejected r { entity := Zoo.flamingos } hrequest
    (Zoo.hasEntry_named _) hwithin (Zoo.isMalformed_andyOrNameless "text")
  obtain ⟨fault, hfault⟩ := hrejected (hcolumn ▸ nofun) hleaf
  exact ⟨r, request, fault, hr, hrequest, hfault⟩

/-- **A malformed group may be compiled**: with the kind of set filters it is the set filter without
values, which no flamingo meets. -/
theorem malformed_group_compiles :
    ∃ r request q, Zoo.registry = .ok r ∧
      FilterNode.IsMalformed (Zoo.andyOrNameless "set") ∧
      Request.HasEntry (Zoo.named (Zoo.andyOrNameless "set")) "name" (Zoo.andyOrNameless "set") ∧
      Request.ofJson? (Zoo.named (Zoo.andyOrNameless "set")) = some request ∧
      request.column = none ∧ r.compile { entity := Zoo.flamingos } request = .ok q ∧
      q.scope.condition = Condition.all.addExpr (.isIn false (.column "flamingos" "name") []) :=
  ⟨_, _, _, rfl, Zoo.isMalformed_andyOrNameless "set", Zoo.hasEntry_named _, rfl, rfl, rfl, rfl⟩

end Registry

end DataGrid
