import DataGrid.Proofs.Json.Preorder
import DataGrid.Proofs.Session.Values

/-!
# Which values a listing merges

When the sorted values of a listing are thinned out, each value that goes is merged into the one
that is left before it. So the values fall into groups, of which the first ones are the listing. Two
values are in one group exactly when they are alike: their numbers outside objects become the same
doubles, and their objects are the very same.

That is not quite the sameness of values. Integers beyond 53 bits may be merged with their
neighbours, which are then missing from the listing; and an object may be listed twice if a number
in it is spelled both as an integer and as a double. Where nothing of this kind occurs, the two
notions agree.

## Main definitions

* `DataGrid.Listing.Group` — a value that is left, with those that are merged into it.
* `DataGrid.Listing.groups`, `DataGrid.Listing.groupsOf` — the groups of sorted values, and of what
  the rows offer.
* `DataGrid.Listing.Merged` — two values are in one group.

## Main results

* `DataGrid.Listing.map_left_groups`, `DataGrid.Listing.flatMap_members_groups` — the groups are
  those of the thinning.
* `DataGrid.Listing.merged_iff` — merged values are alike.
* `DataGrid.Session.values_merge_alike` — what a listing merges.
-/

namespace DataGrid

namespace Listing

/-! ## Groups -/

/-- A value that is left, with those that are merged into it. -/
structure Group where
  left : Json
  merged : List Json

/-- All values of a group. -/
def Group.members (g : Group) : List Json := g.left :: g.merged

/-- The values that are merged into `last`, and the groups behind them. -/
def groupsAfter (last : Json) : List Json → List Json × List Group
  | [] => ([], [])
  | j :: rest =>
    if Json.compare j last == .eq then
      (j :: (groupsAfter last rest).1, (groupsAfter last rest).2)
    else ([], ⟨j, (groupsAfter j rest).1⟩ :: (groupsAfter j rest).2)

/-- The groups of values, by the comparison of each one with the last one that is left. -/
def groups : List Json → List Group
  | [] => []
  | j :: rest => ⟨j, (groupsAfter j rest).1⟩ :: (groupsAfter j rest).2

/-- The groups of what the rows offer. -/
def groupsOf (rows : List Json) : List Group := groups ((collected rows).mergeSort inOrder)

/-- Two values of the rows are merged into one. -/
def Merged (rows : List Json) (a b : Json) : Prop :=
  ∃ g ∈ groupsOf rows, a ∈ g.members ∧ b ∈ g.members

/-- What is left of the groups behind a value are the values that thinning leaves behind it. -/
lemma map_left_groupsAfter (last : Json) (js : List Json) :
    (groupsAfter last js).2.map Group.left = thinned.thinnedAfter last js := by
  induction js generalizing last with
  | nil => rfl
  | cons j rest ih =>
    rw [groupsAfter, thinned.thinnedAfter]
    split
    · exact ih last
    · rw [List.map_cons, ih j]

/-- **What is left of the groups** is what thinning out leaves. -/
lemma map_left_groups (js : List Json) : (groups js).map Group.left = thinned js := by
  cases js with
  | nil => rfl
  | cons j rest => rw [groups, thinned, List.map_cons, map_left_groupsAfter]

/-- The group of a value and the groups behind it hold all that follows the value. -/
lemma flatMap_members_groupsAfter (last : Json) (js : List Json) :
    (groupsAfter last js).1 ++ (groupsAfter last js).2.flatMap Group.members = js := by
  induction js generalizing last with
  | nil => rfl
  | cons j rest ih =>
    rw [groupsAfter]
    split
    · rw [List.cons_append, ih last]
    · rw [List.nil_append, List.flatMap_cons, Group.members, List.cons_append, ih j]

/-- **The groups hold all values**, in their order. -/
lemma flatMap_members_groups (js : List Json) : (groups js).flatMap Group.members = js := by
  cases js with
  | nil => rfl
  | cons j rest =>
    rw [groups, List.flatMap_cons, Group.members, List.cons_append, flatMap_members_groupsAfter]

/-- Whatever is merged into a value compares equal to it. -/
lemma compare_groupsAfter (last : Json) (js : List Json) :
    (∀ j ∈ (groupsAfter last js).1, j.compare last = .eq) ∧
      ∀ g ∈ (groupsAfter last js).2, ∀ j ∈ g.merged, j.compare g.left = .eq := by
  induction js generalizing last with
  | nil => exact ⟨nofun, nofun⟩
  | cons j rest ih =>
    rw [groupsAfter]
    split
    · next hsame => exact ⟨List.forall_mem_cons.mpr ⟨beq_iff_eq.mp hsame, (ih last).1⟩, (ih last).2⟩
    · exact ⟨nofun, List.forall_mem_cons.mpr (ih j)⟩

/-- The values of a group compare equal to the one that is left. -/
lemma compare_left {js : List Json} {g : Group} (hg : g ∈ groups js) {j : Json}
    (hj : j ∈ g.members) : j.compare g.left = .eq := by
  have hmerged : ∀ k ∈ g.merged, k.compare g.left = .eq := by
    cases js with
    | nil => cases hg
    | cons first rest =>
      rcases List.mem_cons.mp hg with rfl | hg
      · exact (compare_groupsAfter first rest).1
      · exact (compare_groupsAfter first rest).2 g hg
  rcases List.mem_cons.mp hj with rfl | hj
  · exact Std.ReflCmp.compare_self
  · exact hmerged j hj

/-! ## Merged values -/

/-- The values of the groups are those that the rows offer. -/
lemma perm_groupsOf (rows : List Json) :
    ((groupsOf rows).flatMap Group.members).Perm (collected rows) := by
  rw [groupsOf, flatMap_members_groups]
  exact List.mergeSort_perm _ _

/-- Every value that the rows offer is in a group. -/
lemma exists_group_iff {rows : List Json} {j : Json} :
    (∃ g ∈ groupsOf rows, j ∈ g.members) ↔ j ∈ collected rows := by
  rw [← (perm_groupsOf rows).mem_iff, List.mem_flatMap]

/-- What is left of the groups is in strict order. -/
lemma ascending_groupsOf (rows : List Json) :
    Json.Ascending ((groupsOf rows).map Group.left) := by
  rw [groupsOf, map_left_groups]
  exact ascending_thinned (pairwise_mergeSort_inOrder _)

/-- **Merged values are alike**, and alike values are merged.

**Proof sketch.** The values of a group compare equal to the one that is left of it, so they compare
equal to each other. Two values that compare equal are in groups of which what is left compares
equal, and since it is in strict order, these are one group. -/
theorem merged_iff {rows : List Json} {a b : Json} :
    Merged rows a b ↔ a ∈ collected rows ∧ b ∈ collected rows ∧ a.Alike b := by
  rw [← Json.compare_eq_iff]
  constructor
  · rintro ⟨g, hg, ha, hb⟩
    refine ⟨exists_group_iff.mp ⟨g, hg, ha⟩, exists_group_iff.mp ⟨g, hg, hb⟩, ?_⟩
    rw [Std.TransCmp.congr_left (compare_left hg ha)]
    exact Std.OrientedCmp.eq_symm (compare_left hg hb)
  · rintro ⟨ha, hb, hab⟩
    obtain ⟨g, hg, ha⟩ := exists_group_iff.mpr ha
    obtain ⟨g', hg', hb⟩ := exists_group_iff.mpr hb
    have hleft : g.left.compare g'.left = .eq := by
      rw [← Std.TransCmp.congr_left (compare_left hg ha), Std.TransCmp.congr_left hab]
      exact compare_left hg' hb
    obtain rfl := (ascending_groupsOf rows).eq_of_compare hg hg' hleft
    exact ⟨g, hg, ha, hb⟩

/-- The values of a listing of documents are what is left of the groups. -/
lemma values_eq_map_left {l : Listing} (h : l.path.isDocument = true) (rows : List Json) :
    l.values rows = (groupsOf rows).map Group.left := by
  rw [values_of_isDocument h, groupsOf, map_left_groups]

end Listing

/-! ## The values of a session -/

/-- **What a listing merges.** The values of a listing of documents are what is left of groups that
hold everything the rows offer. Two values are in one group exactly when they are alike, and no two
of the listing are alike.

Merged values are the same if no integer of theirs outside objects is rounded; values that are the
same are merged if their numbers inside objects are spelled plainly.

**Proof sketch.** The groups are those of the thinning (`Listing.values_eq_map_left`), and alike
values are those that compare equal (`Listing.merged_iff`). The two notions of equality agree where
their numbers do (`Json.sameValue_of_alike`, `Json.alike_of_sameValue`). -/
theorem Session.values_merge_alike {s : Session} {allowed : List String} {l : Listing}
    (hlisting : s.query.listing s.registry allowed = .ok l) (hdocument : l.path.isDocument = true)
    {store : Store} (hanswers : store.failsNext = false) :
    (s.values allowed store).1 = .ok ((Listing.groupsOf store.rows).map Listing.Group.left) ∧
    ((Listing.groupsOf store.rows).flatMap Listing.Group.members).Perm
      (Listing.collected store.rows) ∧
    (∀ a b, Listing.Merged store.rows a b ↔
      a ∈ Listing.collected store.rows ∧ b ∈ Listing.collected store.rows ∧ a.Alike b) ∧
    ((Listing.groupsOf store.rows).map Listing.Group.left).Pairwise (fun a b => ¬a.Alike b) ∧
    (∀ a b, Listing.Merged store.rows a b → (∀ n ∈ a.outerNumbers, n.IsExact) →
      (∀ n ∈ b.outerNumbers, n.IsExact) → a.SameValue b) ∧
    (∀ a ∈ Listing.collected store.rows, ∀ b ∈ Listing.collected store.rows, a.SameValue b →
      (∀ n ∈ a.innerNumbers, n.IsPlain) → (∀ n ∈ b.innerNumbers, n.IsPlain) →
      Listing.Merged store.rows a b) := by
  refine ⟨?_, Listing.perm_groupsOf _, fun a b => Listing.merged_iff, ?_,
    fun a b hmerged ha hb => ?_, fun a ha b hb hsame hplain hplain' => ?_⟩
  · rw [← Listing.values_eq_map_left hdocument, values_eq_ok hlisting hanswers]
  · refine (Listing.ascending_groupsOf store.rows).imp fun hlt halike => ?_
    cases hlt.symm.trans (Json.compare_eq_iff.mpr halike)
  · exact Json.sameValue_of_alike (Listing.merged_iff.mp hmerged).2.2 ha hb
  · exact Listing.merged_iff.mpr ⟨ha, hb, Json.alike_of_sameValue hsame hplain hplain'⟩

/-- The number two, as an integer. -/
def Zoo.two : Json.Number := .int 2 (by decide)

/-- The number two, as a double. -/
def Zoo.twoDouble : Json.Number := .float ⟨0x4000000000000000, by decide⟩

/-- Both have the same value. -/
lemma Zoo.exact_two : Zoo.two.exact = Zoo.twoDouble.exact := by decide +kernel

/-- Rows with both spellings, in an array and as they are. -/
def Zoo.spelledRows : List Json :=
  [.object [("value", .number Zoo.two)], .object [("value", .array [.number Zoo.twoDouble])]]

/-- Both spellings are merged. -/
theorem Session.values_merge_alike_flamingos :
    ∃ r q l, Zoo.registry = .ok r ∧
      r.compile { entity := Zoo.flamingos } { column := some "preferred_food_types" } = .ok q ∧
      q.listing r [allColumns] = .ok l ∧ l.path.isDocument = true ∧
      Listing.Merged Zoo.spelledRows (.number Zoo.two) (.number Zoo.twoDouble) := by
  have hmerged : ∀ r q l, Zoo.registry = .ok r →
      r.compile { entity := Zoo.flamingos } { column := some "preferred_food_types" } = .ok q →
      q.listing r [allColumns] = .ok l → l.path.isDocument = true →
      Listing.Merged Zoo.spelledRows (.number Zoo.two) (.number Zoo.twoDouble) := by
    intro r q l _ _ hlisting hdocument
    obtain ⟨-, -, -, -, -, hsame⟩ := @Session.values_merge_alike ⟨r, q, none, false⟩ [allColumns] l
      hlisting hdocument { rows := Zoo.spelledRows } rfl
    exact hsame _ List.mem_cons_self _ (List.mem_cons_of_mem _ List.mem_cons_self) Zoo.exact_two
      (List.forall_mem_nil _) (List.forall_mem_nil _)
  exact ⟨_, _, _, rfl, rfl, rfl, rfl, hmerged _ _ _ rfl rfl rfl rfl⟩

/-- Both become the same double. -/
lemma Zoo.compare_firstRounded :
    Json.compare (.number Zoo.firstRounded) (.number Zoo.lastExact) = .eq := by
  decide +kernel

/-- A row with both integers. -/
def Zoo.neighbourRows : List Json :=
  [.object [("value", .array [.number Zoo.lastExact, .number Zoo.firstRounded])]]

/-- A row with two objects that spell the number two in both ways. -/
def Zoo.spelledObjectRows : List Json :=
  [.object [("value", .array [.object [("a", .number Zoo.two)],
    .object [("a", .number Zoo.twoDouble)]])]]

/-- Of two neighbouring integers only one is listed. -/
lemma Zoo.values_neighbourRows {l : Listing} (h : l.path.isDocument = true) :
    l.values Zoo.neighbourRows = [.number Zoo.lastExact] := by
  have hsorted : (Listing.collected Zoo.neighbourRows).mergeSort Listing.inOrder =
      [.number Zoo.lastExact, .number Zoo.firstRounded] := by
    refine List.mergeSort_of_pairwise (List.pairwise_pair.mpr ?_)
    rw [Listing.inOrder_iff, Std.OrientedCmp.eq_symm Zoo.compare_firstRounded]
    rfl
  rw [Listing.values_of_isDocument h, hsorted, Listing.thinned, Listing.thinned.thinnedAfter,
    if_pos (beq_iff_eq.mpr Zoo.compare_firstRounded)]
  rfl

/-- **Different integers are merged, and objects of the same value are not.** -/
theorem Session.merged_though_different :
    ∃ r q, Zoo.registry = .ok r ∧
      r.compile { entity := Zoo.flamingos } { column := some "preferred_food_types" } = .ok q ∧
      (Session.values ⟨r, q, none, false⟩ [allColumns] { rows := Zoo.neighbourRows }).1 =
        .ok [.number Zoo.lastExact] ∧
      Listing.Merged Zoo.neighbourRows (.number Zoo.lastExact) (.number Zoo.firstRounded) ∧
      ¬(Json.number Zoo.lastExact).SameValue (.number Zoo.firstRounded) ∧
      ¬Listing.Merged Zoo.spelledObjectRows (.object [("a", .number Zoo.two)])
        (.object [("a", .number Zoo.twoDouble)]) ∧
      (Json.object [("a", .number Zoo.two)]).SameValue
        (.object [("a", .number Zoo.twoDouble)]) := by
  have hlisted : ∀ r q l, Zoo.registry = .ok r →
      r.compile { entity := Zoo.flamingos } { column := some "preferred_food_types" } = .ok q →
      q.listing r [allColumns] = .ok l → l.path.isDocument = true →
      (Session.values ⟨r, q, none, false⟩ [allColumns] { rows := Zoo.neighbourRows }).1 =
        .ok [.number Zoo.lastExact] := by
    intro r q l _ _ hlisting hdocument
    rw [@Session.values_eq_ok ⟨r, q, none, false⟩ [allColumns] l hlisting _ rfl,
      Zoo.values_neighbourRows hdocument]
  have hmerged : Listing.Merged Zoo.neighbourRows (.number Zoo.lastExact)
      (.number Zoo.firstRounded) := by
    have halike := Json.compare_eq_iff.mp (Std.OrientedCmp.eq_symm Zoo.compare_firstRounded)
    exact Listing.merged_iff.mpr
      ⟨List.mem_cons_self, List.mem_cons_of_mem _ List.mem_cons_self, halike⟩
  have hdifferent : ¬(Json.number Zoo.lastExact).SameValue (.number Zoo.firstRounded) := by
    intro hsame
    exact absurd (Int.eq_of_mul_eq_mul_right (by positivity) hsame) (by decide)
  have hseparate : ¬Listing.Merged Zoo.spelledObjectRows (.object [("a", .number Zoo.two)])
      (.object [("a", .number Zoo.twoDouble)]) := by
    intro hmerged
    obtain ⟨-, -, -, hnumbers, -⟩ := Listing.merged_iff.mp hmerged
    cases hnumbers
  exact ⟨_, _, rfl, rfl, hlisted _ _ _ rfl rfl rfl rfl, hmerged, hdifferent, hseparate, rfl,
    Zoo.exact_two, trivial⟩

end DataGrid
