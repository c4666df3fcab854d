import DataGrid.Proofs.Json.Fields

/-!
# How filter nodes are read

A filter node is a group or a leaf. A value is read as a group if it names an operator, offers
conditions, and all of these can be read as filter nodes themselves. In every other case it is
read as a leaf, whatever stood in the way.

## Main definitions

* `DataGrid.FilterNode.items?` — the conditions that a value offers.

## Main results

* `DataGrid.FilterNode.ofJson?_eq` — reading a filter node, in one equation.
* `DataGrid.FilterNode.sizeOf_lt_of_items?` — the conditions of a value are smaller than it.
-/

namespace DataGrid

open Json (fields? required optional orNull listOf?)

namespace FilterNode

/-! ## Conditions on offer -/

/-- The elements of the first array under the key of conditions. -/
def itemsOf? : List (String × Json) → Option (List Json)
  | [] => none
  | (key, .array items) :: rest => if key = "conditions" then some items else itemsOf? rest
  | _ :: rest => itemsOf? rest

/-- The conditions that a value offers, readable or not. -/
def items? : Json → Option (List Json)
  | .object members => itemsOf? members
  | .array [_, .array items] => some items
  | _ => none

/-- The conditions of an object are those on offer, if all of them are readable. -/
lemma conditionsOf?_eq (members : List (String × Json)) :
    conditionsOf? members = (itemsOf? members).bind ofItems? := by
  induction members with
  | nil => rw [conditionsOf?, itemsOf?, Option.bind_none]
  | cons m rest ih =>
    obtain ⟨key, j⟩ := m
    cases j with
    | array items =>
      rw [conditionsOf?, itemsOf?]
      by_cases hkey : key = "conditions"
      · rw [if_pos hkey, if_pos hkey, Option.bind_some]
      · rw [if_neg hkey, if_neg hkey, ih]
    | _ => rw [conditionsOf?, itemsOf?, ih] <;> simp

/-- Conditions on offer stand under their key. -/
lemma mem_of_itemsOf? {members : List (String × Json)} {items : List Json}
    (h : itemsOf? members = some items) : ("conditions", .array items) ∈ members := by
  induction members with
  | nil => simp [itemsOf?] at h
  | cons m rest ih =>
    unfold itemsOf? at h
    split at h
    · cases h
    · next key found rest' hm =>
      obtain ⟨rfl, rfl⟩ := List.cons.inj hm
      split_ifs at h with hkey
      · rw [Option.some.injEq] at h
        simp [hkey, h]
      · exact List.mem_cons_of_mem _ (ih h)
    · next m' rest' _ hm =>
      obtain ⟨rfl, rfl⟩ := List.cons.inj hm
      exact List.mem_cons_of_mem _ (ih h)

/-- An array that is found under the key of conditions is on offer. -/
lemma itemsOf?_of_find? {members : List (String × Json)} {items : List Json}
    (h : Keyed.find? "conditions" members = some (.array items)) :
    itemsOf? members = some items := by
  induction members with
  | nil => cases h
  | cons m rest ih =>
    obtain ⟨key, j⟩ := m
    by_cases hkey : key = "conditions"
    · subst hkey
      rw [Keyed.find?_cons_self, Option.some.injEq] at h
      rw [h, itemsOf?, if_pos rfl]
    · rw [Keyed.find?, if_neg hkey] at h
      unfold itemsOf?
      split
      · next hnil => cases hnil
      · next hcons =>
        obtain ⟨hm, rfl⟩ := List.cons.inj hcons
        rw [if_neg ((Prod.mk.inj hm).1 ▸ hkey), ih h]
      · next hcons =>
        obtain ⟨-, rfl⟩ := List.cons.inj hcons
        exact ih h

/-- What stands in an array that is a member of an object is smaller than the object. -/
lemma sizeOf_lt_of_mem_array {key : String} {members : List (String × Json)} {item : Json}
    {items : List Json} (hmember : (key, .array items) ∈ members) (hitem : item ∈ items) :
    sizeOf item < sizeOf (Json.object members) := by
  have hinner := List.sizeOf_lt_of_mem hitem
  have houter := List.sizeOf_lt_of_mem hmember
  simp only [Prod.mk.sizeOf_spec, Json.array.sizeOf_spec] at houter
  simp only [Json.object.sizeOf_spec]
  omega

/-- What stands in the second of two members of an array is smaller than the array. -/
lemma sizeOf_lt_of_mem_second {first item : Json} {items : List Json} (hitem : item ∈ items) :
    sizeOf item < sizeOf (Json.array [first, .array items]) := by
  have hinner := List.sizeOf_lt_of_mem hitem
  simp only [Json.array.sizeOf_spec, List.cons.sizeOf_spec]
  omega

/-- The conditions that a value offers are smaller than the value. -/
lemma sizeOf_lt_of_items? {j item : Json} {items : List Json} (h : items? j = some items)
    (hitem : item ∈ items) : sizeOf item < sizeOf j := by
  unfold items? at h
  split at h
  · exact sizeOf_lt_of_mem_array (mem_of_itemsOf? h) hitem
  · rw [Option.some.injEq] at h
    subst h
    exact sizeOf_lt_of_mem_second hitem
  · cases h

/-! ## Reading -/

/-- Readable conditions are read one by one. -/
lemma exists_of_ofItems? {items : List Json} {nodes : List FilterNode}
    (h : ofItems? items = some nodes) :
    (∀ node ∈ nodes, ∃ item ∈ items, ofJson? item = some node) ∧
      ∀ item ∈ items, ∃ node ∈ nodes, ofJson? item = some node := by
  induction items generalizing nodes with
  | nil =>
    cases h
    exact ⟨List.forall_mem_nil _, List.forall_mem_nil _⟩
  | cons j rest ih =>
    rw [ofItems?] at h
    split at h
    · next node nodes' hnode hrest =>
      cases h
      obtain ⟨hback, hforth⟩ := ih hrest
      constructor
      · refine List.forall_mem_cons.mpr ⟨⟨j, List.mem_cons_self, hnode⟩, ?_⟩
        intro node' hnode'
        obtain ⟨item, hitem, hread⟩ := hback node' hnode'
        exact ⟨item, List.mem_cons_of_mem _ hitem, hread⟩
      · refine List.forall_mem_cons.mpr ⟨⟨node, List.mem_cons_self, hnode⟩, ?_⟩
        intro item hitem
        obtain ⟨node', hnode', hread⟩ := hforth item hitem
        exact ⟨node', List.mem_cons_of_mem _ hnode', hread⟩
    · cases h

/-- **Reading a filter node**: a group, if there are an operator and readable conditions, and a leaf
in all other cases. -/
theorem ofJson?_eq (j : Json) :
    ofJson? j =
      match groupOperator? j, (items? j).bind ofItems? with
      | some operator, some conditions => some (.group operator conditions)
      | _, _ => (LeafFilter.ofJson? j).map .leaf := by
  unfold ofJson?
  split
  · next members =>
    rewrite [conditionsOf?_eq, items?]
    rfl
  · next operator conditions =>
    rewrite [items?, Option.bind_some]
    rfl
  · next other hobject harray =>
    have hnone : items? j = none := by
      unfold items?
      split
      · next members => exact absurd rfl (hobject members)
      · next operator conditions => exact absurd rfl (harray operator conditions)
      · rfl
    rw [hnone, Option.bind_none]
    cases groupOperator? j <;> rfl

/-- What is read is a group with an operator and readable conditions, or it is a leaf. -/
lemma cases_of_ofJson? {j : Json} {node : FilterNode} (h : ofJson? j = some node) :
    (∃ operator items conditions, groupOperator? j = some operator ∧ items? j = some items ∧
      ofItems? items = some conditions ∧ node = .group operator conditions) ∨
    ∃ f, LeafFilter.ofJson? j = some f ∧ node = .leaf f := by
  rw [ofJson?_eq] at h
  split at h
  · next operator conditions hoperator hconditions =>
    obtain ⟨items, hitems, hread⟩ := Option.bind_eq_some_iff.mp hconditions
    exact .inl ⟨operator, items, conditions, hoperator, hitems, hread, (Option.some.inj h).symm⟩
  · obtain ⟨f, hf, hnode⟩ := Option.map_eq_some_iff.mp h
    exact .inr ⟨f, hf, hnode.symm⟩

end FilterNode

/-- The fields that a leaf filter is read from. -/
lemma LeafFilter.exists_fields_of_ofJson? {j : Json} {f : LeafFilter} (h : ofJson? j = some f) :
    ∃ fields, fields? fieldNames j = some fields ∧
      required Json.string? "filterType" fields = some f.filterType ∧
      optional Json.string? "type" fields = some f.operator ∧
      optional plainValue? "filter" fields = some f.filter ∧
      optional plainValue? "filterTo" fields = some f.filterTo ∧
      orNull [] (listOf? plainValue?) "values" fields = some f.values := by
  simp only [ofJson?, Option.bind_eq_bind, Option.bind_eq_some_iff, Option.pure_def,
    Option.some.injEq] at h
  obtain ⟨fields, hfields, kind, hkind, operator, hoperator, filter, hfilter, filterTo, hfilterTo,
    dateFrom, -, dateTo, -, values, hvalues, all, -, hf⟩ := h
  subst hf
  exact ⟨fields, hfields, hkind, hoperator, hfilter, hfilterTo, hvalues⟩

/-- The fields that a request is read from. -/
lemma Request.exists_fields_of_ofJson? {j : Json} {r : Request} (h : ofJson? j = some r) :
    ∃ fields, fields? fieldNames j = some fields ∧
      orNull [] filtersOfJson? "filterModel" fields = some r.filters ∧
      orNull [] (listOf? plainValue?) "toggledNodes" fields = some r.toggled ∧
      orNull [] customFiltersOfJson? "customFilters" fields = some r.customFilters := by
  simp only [ofJson?, Option.bind_eq_bind, Option.bind_eq_some_iff, Option.pure_def,
    Option.some.injEq] at h
  obtain ⟨fields, hfields, filters, hfilters, sorts, -, startRow, -, endRow, -, rowModel, -,
    selectAll, -, toggled, htoggled, customFilters, hcustom, column, -, exportFormat, -,
    exportColumns, -, hr⟩ := h
  subst hr
  exact ⟨fields, hfields, hfilters, htoggled, hcustom⟩

end DataGrid
