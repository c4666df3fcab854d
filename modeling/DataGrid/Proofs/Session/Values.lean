import DataGrid.Proofs.Json.Order
import DataGrid.Schema.Zoo
import DataGrid.Session.Calls
import Mathlib.Data.List.Forall2

/-!
# The values of a listing

A listing of whole documents is a sorted set: its values ascend strictly, and among them stands, for
every value that the rows offer, exactly one that compares equal to it. Only neighbours are compared
when the values are thinned out. That is enough since they are sorted, and the sort can be relied on
since the comparison is a total preorder. A set has no order of its own, and so the order of the
rows does not matter, except for the choice among values that compare equal.

## Main definitions

* `DataGrid.Json.HasValue`, `DataGrid.Json.Offers` — the value of a row, and the values that a row
  offers to a listing of documents.
* `DataGrid.Json.Ascending` — values in strict order.

## Main results

* `DataGrid.Listing.ascending_thinned` — thinning out what is sorted leaves values in strict order.
* `DataGrid.Json.forall₂_of_ascending` — values in strict order are determined up to values that
  compare equal.
* `DataGrid.Session.values_sorted_set` — the values of a session.
-/

namespace DataGrid

/-! ## The values of rows -/

/-- The value of a row: its member `value`, or null where there is none. -/
inductive Json.HasValue (row : Json) : Json → Prop
  | member {j : Json} (h : row.get? "value" = some j) : HasValue row j
  | missing (h : row.get? "value" = none) : HasValue row .null

/-- The row offers a value: an element of its value if that is an array, and otherwise the value
itself. -/
inductive Json.Offers (row : Json) : Json → Prop
  | element {items : List Json} {j : Json} (h : row.HasValue (.array items)) (hj : j ∈ items) :
    Offers row j
  | single {j : Json} (h : row.HasValue j) (hj : j.array? = none) : Offers row j

namespace Listing

/-- Every row has one value. -/
lemma hasValue_iff {row j : Json} : row.HasValue j ↔ valueOf row = j := by
  unfold valueOf valueName
  constructor
  · rintro (h | h) <;> rw [h] <;> rfl
  · rintro rfl
    cases h : row.get? "value" with
    | none => exact .missing h
    | some j => exact .member h

/-- What a row offers is taken apart from its value. -/
lemma offers_iff {row j : Json} : row.Offers j ↔ j ∈ elements (valueOf row) := by
  constructor
  · rintro (⟨h, hj⟩ | ⟨h, hj⟩)
    · rwa [hasValue_iff.mp h]
    · rw [hasValue_iff.mp h]
      cases j with
      | array items => cases hj
      | _ => exact List.mem_singleton_self _
  · intro h
    cases hvalue : valueOf row with
    | array items =>
      rw [hvalue] at h
      exact .element (hasValue_iff.mpr hvalue) h
    | _ =>
      rw [hvalue] at h
      obtain rfl := List.mem_singleton.mp h
      exact .single (hasValue_iff.mpr hvalue) rfl

/-- The values that the rows offer, in the order of the rows. -/
def collected (rows : List Json) : List Json := (rows.map valueOf).flatMap elements

/-- They are the values that one of the rows offers. -/
lemma mem_collected {rows : List Json} {j : Json} :
    j ∈ collected rows ↔ ∃ row ∈ rows, row.Offers j := by
  simp only [collected, List.mem_flatMap, List.mem_map, offers_iff, exists_exists_and_eq_and]

end Listing

/-! ## Strict order -/

namespace Json

/-- Values in strict order. -/
def Ascending (js : List Json) : Prop := js.Pairwise fun j k => j.compare k = .lt

/-- Things whose values are in strict order are the same if their values compare equal. -/
lemma Ascending.eq_of_compare {α : Type} {f : α → Json} {l : List α} (h : Ascending (l.map f))
    {a b : α} (ha : a ∈ l) (hb : b ∈ l) (hab : (f a).compare (f b) = .eq) : a = b := by
  induction l with
  | nil => cases ha
  | cons first rest ih =>
    obtain ⟨hfirst, hrest⟩ := List.pairwise_cons.mp h
    rw [List.mem_cons] at ha hb
    rcases ha with rfl | ha
    · rcases hb with rfl | hb
      · rfl
      · cases hab.symm.trans (hfirst (f b) (List.mem_map_of_mem hb))
    · rcases hb with rfl | hb
      · cases (Std.OrientedCmp.eq_symm hab).symm.trans (hfirst (f a) (List.mem_map_of_mem ha))
      · exact ih hrest ha hb

/-- **Values in strict order** are determined by what compares equal to one of them.

**Proof sketch.** Induction over both lists. Each of the first two values compares equal to a value
of the other list, which is not less than the first one there; so the first two compare equal. They
do not compare equal to any of the others, which therefore cover each other. -/
theorem forall₂_of_ascending {js ks : List Json} (hjs : Ascending js) (hks : Ascending ks)
    (hleft : ∀ j ∈ js, ∃ k ∈ ks, j.compare k = .eq)
    (hright : ∀ k ∈ ks, ∃ j ∈ js, k.compare j = .eq) :
    List.Forall₂ (fun j k => j.compare k = .eq) js ks := by
  induction js generalizing ks with
  | nil =>
    cases ks with
    | nil => exact .nil
    | cons k ks =>
      obtain ⟨j, hj, -⟩ := hright k List.mem_cons_self
      cases hj
  | cons j js ih =>
    cases ks with
    | nil =>
      obtain ⟨k, hk, -⟩ := hleft j List.mem_cons_self
      cases hk
    | cons k ks =>
      obtain ⟨hj, hjs⟩ := List.pairwise_cons.mp hjs
      obtain ⟨hk, hks⟩ := List.pairwise_cons.mp hks
      have hfirst : j.compare k = .eq := by
        obtain ⟨k', hk', hjk'⟩ := hleft j List.mem_cons_self
        obtain ⟨j', hj', hkj'⟩ := hright k List.mem_cons_self
        rcases List.mem_cons.mp hk' with rfl | hk'
        · exact hjk'
        rcases List.mem_cons.mp hj' with rfl | hj'
        · exact Std.OrientedCmp.eq_symm hkj'
        -- Now `j < j'`, which compares equal to `k`, and `k < k'`, which compares equal to `j`.
        have hlater : j'.compare k' = .lt := by rw [← Std.TransCmp.congr_left hkj', hk k' hk']
        cases hjk'.symm.trans (Std.TransCmp.lt_trans (hj j' hj') hlater)
      refine .cons hfirst (ih hjs hks (fun j' hj' => ?_) fun k' hk' => ?_)
      · obtain ⟨k', hk', hjk'⟩ := hleft j' (List.mem_cons_of_mem j hj')
        rcases List.mem_cons.mp hk' with rfl | hk'
        · have hbefore : k'.compare j' = .lt := by
            rw [← Std.TransCmp.congr_left hfirst, hj j' hj']
          cases hbefore.symm.trans (Std.OrientedCmp.eq_symm hjk')
        · exact ⟨k', hk', hjk'⟩
      · obtain ⟨j', hj', hkj'⟩ := hright k' (List.mem_cons_of_mem k hk')
        rcases List.mem_cons.mp hj' with rfl | hj'
        · have hbefore : j'.compare k' = .lt := by
            rw [Std.TransCmp.congr_left hfirst, hk k' hk']
          cases hbefore.symm.trans (Std.OrientedCmp.eq_symm hkj')
        · exact ⟨j', hj', hkj'⟩

end Json

namespace Listing

/-! ## Sorting -/

/-- A value may stand before another one that is not less. -/
lemma inOrder_iff {a b : Json} : inOrder a b = true ↔ (a.compare b).isLE := by
  rw [inOrder]
  cases a.compare b <;> simp

/-- What is sorted is in order. -/
lemma pairwise_mergeSort_inOrder (js : List Json) :
    (js.mergeSort inOrder).Pairwise fun a b => (a.compare b).isLE := by
  have htrans : ∀ a b c, inOrder a b → inOrder b c → inOrder a c := by
    intro a b c hab hbc
    rw [inOrder_iff] at hab hbc ⊢
    exact Std.TransCmp.isLE_trans hab hbc
  have htotal : ∀ a b, inOrder a b || inOrder b a := by
    intro a b
    rw [Bool.or_eq_true, inOrder_iff, inOrder_iff, Json.compare_eq_swap b a]
    cases a.compare b <;> simp
  exact (List.pairwise_mergeSort htrans htotal js).imp inOrder_iff.mp

/-! ## Thinning -/

/-- Nothing is left that was not there. -/
lemma thinnedAfter_sublist (last : Json) (js : List Json) :
    (thinned.thinnedAfter last js).Sublist js := by
  induction js generalizing last with
  | nil => exact .slnil
  | cons j rest ih =>
    rw [thinned.thinnedAfter]
    split
    · exact (ih last).cons j
    · exact (ih j).cons_cons j

/-- Nothing is left out but what compares equal to something that is left. -/
lemma exists_mem_thinnedAfter {last : Json} {js : List Json} {j : Json} (hj : j ∈ last :: js) :
    ∃ k ∈ last :: thinned.thinnedAfter last js, j.compare k = .eq := by
  induction js generalizing last with
  | nil =>
    obtain rfl := List.mem_singleton.mp hj
    exact ⟨j, List.mem_cons_self, Std.ReflCmp.compare_self⟩
  | cons i rest ih =>
    rw [thinned.thinnedAfter]
    split
    · next hsame =>
      rcases List.mem_cons.mp hj with rfl | hj
      · exact ih List.mem_cons_self
      · rcases List.mem_cons.mp hj with rfl | hj
        · exact ⟨last, List.mem_cons_self, beq_iff_eq.mp hsame⟩
        · exact ih (List.mem_cons_of_mem last hj)
    · rcases List.mem_cons.mp hj with rfl | hj
      · exact ⟨j, List.mem_cons_self, Std.ReflCmp.compare_self⟩
      · obtain ⟨k, hk, hjk⟩ := ih hj
        exact ⟨k, List.mem_cons_of_mem last hk, hjk⟩

/-- What is left of values in order is in strict order. -/
lemma ascending_thinnedAfter {last : Json} {js : List Json}
    (h : (last :: js).Pairwise fun a b => (a.compare b).isLE) :
    Json.Ascending (last :: thinned.thinnedAfter last js) := by
  induction js generalizing last with
  | nil => exact List.pairwise_singleton _ last
  | cons j rest ih =>
    obtain ⟨hlast, hrest⟩ := List.pairwise_cons.mp h
    rw [thinned.thinnedAfter]
    split
    · exact ih (h.sublist ((List.sublist_cons_self j rest).cons_cons last))
    · next hdifferent =>
      have hfirst : last.compare j = .lt := by
        have hle := hlast j List.mem_cons_self
        rw [beq_iff_eq, Json.compare_eq_swap] at hdifferent
        cases hcompare : last.compare j with
        | lt => rfl
        | eq => exact absurd (by rw [hcompare]; rfl) hdifferent
        | gt => rw [hcompare] at hle; cases hle
      refine List.pairwise_cons.mpr ⟨fun k hk => ?_, ih hrest⟩
      rcases List.mem_cons.mp hk with rfl | hk
      · exact hfirst
      · have hle := (List.pairwise_cons.mp hrest).1 k ((thinnedAfter_sublist j rest).subset hk)
        exact Std.TransCmp.lt_of_lt_of_isLE hfirst hle

/-- **Thinning out what is sorted** leaves values in strict order. -/
theorem ascending_thinned {js : List Json} (h : js.Pairwise fun a b => (a.compare b).isLE) :
    Json.Ascending (thinned js) := by
  cases js with
  | nil => exact .nil
  | cons j rest => exact ascending_thinnedAfter h

/-- Nothing is left that was not there. -/
lemma thinned_sublist (js : List Json) : (thinned js).Sublist js := by
  cases js with
  | nil => exact .slnil
  | cons j rest => exact (thinnedAfter_sublist j rest).cons_cons j

/-- Nothing is left out but what compares equal to something that is left. -/
lemma exists_mem_thinned {js : List Json} {j : Json} (hj : j ∈ js) :
    ∃ k ∈ thinned js, j.compare k = .eq := by
  cases js with
  | nil => cases hj
  | cons first rest => exact exists_mem_thinnedAfter hj

/-! ## The listing of documents -/

/-- The values of a listing of whole documents. -/
lemma values_of_isDocument {l : Listing} (h : l.path.isDocument = true) (rows : List Json) :
    l.values rows = thinned ((collected rows).mergeSort inOrder) := by
  rw [values, if_pos h, collected]

/-- They are in strict order. -/
lemma ascending_values {l : Listing} (h : l.path.isDocument = true) (rows : List Json) :
    Json.Ascending (l.values rows) := by
  rw [values_of_isDocument h]
  exact ascending_thinned (pairwise_mergeSort_inOrder _)

/-- One of the rows offers each of them. -/
lemma exists_offers_of_mem_values {l : Listing} (h : l.path.isDocument = true) {rows : List Json}
    {j : Json} (hj : j ∈ l.values rows) : ∃ row ∈ rows, row.Offers j := by
  rw [values_of_isDocument h] at hj
  exact mem_collected.mp (List.mem_mergeSort.mp ((thinned_sublist _).subset hj))

/-- What a row offers compares equal to one of them. -/
lemma exists_mem_values_of_offers {l : Listing} (h : l.path.isDocument = true) {rows : List Json}
    {row j : Json} (hrow : row ∈ rows) (hj : row.Offers j) :
    ∃ k ∈ l.values rows, j.compare k = .eq := by
  rw [values_of_isDocument h]
  exact exists_mem_thinned (List.mem_mergeSort.mpr (mem_collected.mpr ⟨row, hrow, hj⟩))

/-- Rows in another order give the same values, up to values that compare equal. -/
lemma forall₂_values_of_perm {l : Listing} (h : l.path.isDocument = true) {rows rows' : List Json}
    (hperm : rows.Perm rows') :
    List.Forall₂ (fun j k => j.compare k = .eq) (l.values rows) (l.values rows') := by
  refine Json.forall₂_of_ascending (ascending_values h rows) (ascending_values h rows')
    (fun j hj => ?_) fun k hk => ?_
  · obtain ⟨row, hrow, hoffers⟩ := exists_offers_of_mem_values h hj
    exact exists_mem_values_of_offers h (hperm.subset hrow) hoffers
  · obtain ⟨row, hrow, hoffers⟩ := exists_offers_of_mem_values h hk
    exact exists_mem_values_of_offers h (hperm.symm.subset hrow) hoffers

/-- Any other listing has one value for each row. -/
lemma forall₂_hasValue {l : Listing} (h : l.path.isDocument = false) (rows : List Json) :
    List.Forall₂ Json.HasValue rows (l.values rows) := by
  rw [values, h, if_neg Bool.false_ne_true, List.forall₂_map_right_iff, List.forall₂_same]
  exact fun row _ => hasValue_iff.mpr rfl

end Listing

/-! ## The values of a session -/

namespace Session

/-- The values are those of the prepared rows, unless the store fails. -/
lemma values_eq_ok {s : Session} {allowed : List String} {l : Listing}
    (hlisting : s.query.listing s.registry allowed = .ok l) {store : Store}
    (hanswers : store.failsNext = false) :
    (s.values allowed store).1 = .ok (l.values store.rows) := by
  rw [values, hlisting]
  simp only [Store.fetchRows, Store.fetch, hanswers]
  rfl

/-- **The values of a listing.** Those of a whole document column are a sorted set. They ascend
strictly, each of them is offered by a row, and each value that a row offers compares equal to
exactly one of them. With the rows in another order there are as many values, which compare equal
one by one.

For any other column there is one value for each row, in the order of the rows.

**Proof sketch.** The values are sorted and thinned out. Sorting and thinning both leave the same
values up to comparison, and thinning out what is sorted leaves strict order
(`Listing.ascending_thinned`). Values in strict order are determined by what they compare equal to
(`Json.forall₂_of_ascending`), and rows in another order offer the same values. -/
theorem values_sorted_set {s : Session} {allowed : List String} {l : Listing}
    (hlisting : s.query.listing s.registry allowed = .ok l) {store : Store}
    (hanswers : store.failsNext = false) :
    ∃ values, (s.values allowed store).1 = .ok values ∧
      (l.path.isDocument = true →
        Json.Ascending values ∧
        (∀ j ∈ values, ∃ row ∈ store.rows, row.Offers j) ∧
        (∀ row ∈ store.rows, ∀ j, row.Offers j → ∃! k, k ∈ values ∧ j.compare k = .eq) ∧
        ∀ rows : List Json, rows.Perm store.rows → ∃ others,
          (s.values allowed { store with rows }).1 = .ok others ∧
            List.Forall₂ (fun j k => j.compare k = .eq) values others) ∧
      (l.path.isDocument = false → List.Forall₂ Json.HasValue store.rows values) := by
  refine ⟨l.values store.rows, values_eq_ok hlisting hanswers, fun hdocument => ?_,
    fun hscalar => l.forall₂_hasValue hscalar store.rows⟩
  have hascending := Listing.ascending_values hdocument store.rows
  refine ⟨hascending, fun j => Listing.exists_offers_of_mem_values hdocument,
    fun row hrow j hj => ?_, fun rows hperm => ?_⟩
  · obtain ⟨k, hk, hjk⟩ := Listing.exists_mem_values_of_offers hdocument hrow hj
    refine ⟨k, ⟨hk, hjk⟩, fun k' hk' => ?_⟩
    have hsame : k'.compare k = .eq := by rw [← Std.TransCmp.congr_left hk'.2, hjk]
    rw [← List.map_id (l.values store.rows)] at hascending
    exact hascending.eq_of_compare hk'.1 hk hsame
  · exact ⟨l.values rows, @values_eq_ok s allowed l hlisting { store with rows } hanswers,
      Listing.forall₂_values_of_perm hdocument hperm.symm⟩

end Session

/-- Rows with an array of favourite foods, a single one, and none. -/
def Zoo.foodRows : List Json :=
  [.object [("value", .array [.string "shrimp", .string "algae"])],
    .object [("value", .string "algae")], .object [("id", .null)]]

/-- The foods of the flamingos, each of them once. -/
theorem Session.values_sorted_set_flamingos :
    ∃ r q l values, Zoo.registry = .ok r ∧
      r.compile { entity := Zoo.flamingos } { column := some "preferred_food_types" } = .ok q ∧
      q.listing r [allColumns] = .ok l ∧ l.path.isDocument = true ∧
      (Session.values ⟨r, q, none, false⟩ [allColumns] { rows := Zoo.foodRows }).1 = .ok values ∧
      Json.Ascending values ∧ ∃! k, k ∈ values ∧ (Json.string "algae").compare k = .eq := by
  have hset : ∀ r q l, Zoo.registry = .ok r →
      r.compile { entity := Zoo.flamingos } { column := some "preferred_food_types" } = .ok q →
      q.listing r [allColumns] = .ok l → l.path.isDocument = true → ∃ values,
      (Session.values ⟨r, q, none, false⟩ [allColumns] { rows := Zoo.foodRows }).1 = .ok values ∧
      Json.Ascending values ∧ ∃! k, k ∈ values ∧ (Json.string "algae").compare k = .eq := by
    intro r q l _ _ hlisting hdocument
    obtain ⟨values, hvalues, hset, -⟩ := @Session.values_sorted_set ⟨r, q, none, false⟩ [allColumns]
      l hlisting { rows := Zoo.foodRows } rfl
    obtain ⟨hascending, -, honce, -⟩ := hset hdocument
    refine ⟨values, hvalues, hascending, honce (.object [("value", .string "algae")]) ?_ _ ?_⟩
    · exact List.mem_cons_of_mem _ List.mem_cons_self
    · exact .single (.member rfl) rfl
  obtain ⟨values, hvalues⟩ := hset _ _ _ rfl rfl rfl rfl
  exact ⟨_, _, _, values, rfl, rfl, rfl, rfl, hvalues⟩

end DataGrid
