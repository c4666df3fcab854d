import DataGrid.Json.Basic
import DataGrid.Proofs.Keyed

/-!
# Canonical JSON values

A value in canonical form is left as it is when it is put into canonical form again. For whoever
looks at the members of objects by their keys, the canonical form of a value without repeated keys is
the value itself: nothing but the order of members is different. This is stated for every way of
reordering members, of which leaving them in place is one and the canonical form is another.

## Main definitions

* `DataGrid.Json.IsReordering` — values are rewritten up to the order of members.

## Main results

* `DataGrid.Json.canonical_canonical` — canonical values stay as they are.
* `DataGrid.Json.isReordering_id`, `DataGrid.Json.isReordering_canonical` — two reorderings.
-/

namespace DataGrid.Json

/-! ## Canonical form -/

/-- The elements of an array are put into canonical form one by one. -/
lemma canonicalItems_eq_map (items : List Json) : canonicalItems items = items.map canonical := by
  induction items with
  | nil => rfl
  | cons j rest ih => rw [canonicalItems, ih, List.map_cons]

/-- So are the values of members. -/
lemma canonicalMembers_eq_map (members : List (String × Json)) :
    canonicalMembers members = members.map fun m => (m.1, m.2.canonical) := by
  induction members with
  | nil => rfl
  | cons m rest ih =>
    obtain ⟨key, j⟩ := m
    rw [canonicalMembers, ih, List.map_cons]

mutual

/-- **Canonical values stay as they are.**

**Proof sketch.** Induction over the value. The keys of a canonical object ascend, so putting the
members in one by one changes nothing (`Keyed.ofList_eq_self`). -/
theorem canonical_canonical : ∀ j : Json, j.canonical.canonical = j.canonical
  | .null => rfl
  | .bool _ => rfl
  | .number _ => rfl
  | .string _ => rfl
  | .array items => by
    rw [canonical, canonical, canonicalItems_canonicalItems items]
  | .object members => by
    have hvalues : (Keyed.ofList (canonicalMembers members)).map (fun m => (m.1, m.2.canonical)) =
        Keyed.ofList (canonicalMembers members) := by
      rw [Keyed.map_ofList, ← canonicalMembers_eq_map, canonicalMembers_canonicalMembers members]
    have hkeys := Keyed.ascending_ofList (canonicalMembers members)
    rw [canonical, canonical, canonicalMembers_eq_map, hvalues, Keyed.ofList_eq_self hkeys]

/-- Canonical elements stay as they are. -/
theorem canonicalItems_canonicalItems : ∀ items : List Json,
    canonicalItems (canonicalItems items) = canonicalItems items
  | [] => rfl
  | j :: rest => by
    rw [canonicalItems, canonicalItems, canonical_canonical j, canonicalItems_canonicalItems rest]

/-- Canonical members stay as they are. -/
theorem canonicalMembers_canonicalMembers : ∀ members : List (String × Json),
    canonicalMembers (canonicalMembers members) = canonicalMembers members
  | [] => rfl
  | (key, j) :: rest => by
    rw [canonicalMembers, canonicalMembers, canonical_canonical j,
      canonicalMembers_canonicalMembers rest]

end

/-- Only null has null as its canonical form. -/
lemma canonical_eq_null {j : Json} : j.canonical = .null ↔ j = .null := by
  cases j <;> simp [canonical]

/-! ## Reorderings -/

/-- A way of rewriting values in which nothing changes but the order of members: of an object without
repeated keys, the same members are found under their keys, rewritten in their turn. -/
structure IsReordering (rewrite : Json → Json) : Prop where
  bool : ∀ b, rewrite (.bool b) = .bool b
  number : ∀ n, rewrite (.number n) = .number n
  string : ∀ s, rewrite (.string s) = .string s
  array : ∀ items, rewrite (.array items) = .array (items.map rewrite)
  object : ∀ members, (Keyed.keys members).Nodup → ∃ members',
    rewrite (.object members) = .object members' ∧ (Keyed.keys members').Nodup ∧
      ∀ key, Keyed.find? key members' = (Keyed.find? key members).map rewrite
  /-- Canonical values can be recovered. -/
  canonical : ∀ j : Json, j.canonical = j → (rewrite j).canonical = j

/-- Values may be left as they are. -/
theorem isReordering_id : IsReordering id where
  bool _ := rfl
  number _ := rfl
  string _ := rfl
  array items := by simp
  object members hkeys := ⟨members, rfl, hkeys, fun key => by simp⟩
  canonical _ h := h

/-- Values may be put into canonical form. -/
theorem isReordering_canonical : IsReordering Json.canonical where
  bool _ := rfl
  number _ := rfl
  string _ := rfl
  array items := by rw [Json.canonical, canonicalItems_eq_map]
  object members hkeys := by
    have hsame : Keyed.keys (canonicalMembers members) = Keyed.keys members := by
      rw [canonicalMembers_eq_map, Keyed.keys, List.map_map]
      rfl
    refine ⟨Keyed.ofList (canonicalMembers members), by rw [Json.canonical],
      (Keyed.ascending_ofList _).nodup_keys, ?_⟩
    intro key
    rw [Keyed.find?_ofList (hsame ▸ hkeys), canonicalMembers_eq_map, Keyed.find?_map]
  canonical _ h := by rw [h, h]

/-- A reordering makes no value null that was none. -/
lemma IsReordering.ne_null {rewrite : Json → Json} (h : IsReordering rewrite) {j : Json}
    (hj : j.canonical = j) (hnull : j ≠ .null) : rewrite j ≠ .null := by
  intro hrewrite
  have hsame := h.canonical j hj
  rw [hrewrite] at hsame
  exact hnull hsame.symm

end DataGrid.Json
