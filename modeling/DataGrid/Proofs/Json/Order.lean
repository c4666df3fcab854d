import DataGrid.Json.Order
import Mathlib.Tactic.Lemma

/-!
# The order of JSON values is one

The comparison of values goes by their kinds, and within a kind by what they hold: integers,
strings, or element by element. It is a total preorder. It is no linear order, since values that
compare equal may be different, as the integer `1` and the double `1.0` are.

## Main results

* `DataGrid.Json.compare_of_rank_ne` — values of different kinds.
* `DataGrid.Json.compare_eq_swap`, `DataGrid.Json.compare_congr`, `DataGrid.Json.compare_lt_trans` —
  reversed arguments, values that compare equal, and values in strict order.
* `DataGrid.Json.instTransCmp` — the preorder.
-/

namespace DataGrid.Json

/-! ## Kinds -/

/-- Values of different kinds compare by their kinds. -/
lemma compare_of_rank_ne {a b : Json} (h : a.rank ≠ b.rank) :
    compare a b = Ord.compare a.rank b.rank := by
  cases a <;> cases b <;> first | rfl | exact absurd rfl h

/-- Values that compare equal are of one kind. -/
lemma rank_eq_of_compare {a b : Json} (h : compare a b = .eq) : a.rank = b.rank := by
  refine Decidable.byContradiction fun hrank => ?_
  rw [compare_of_rank_ne hrank, Std.LawfulEqOrd.compare_eq_iff_eq] at h
  exact hrank h

/-- The kinds of values in strict order ascend. -/
lemma rank_le_of_compare {a b : Json} (h : compare a b = .lt) : a.rank ≤ b.rank := by
  by_cases hrank : a.rank = b.rank
  · exact Nat.le_of_eq hrank
  · rw [compare_of_rank_ne hrank] at h
    exact Nat.isLE_compare.mp (by rw [h]; rfl)

/-! ## Reversed arguments -/

mutual

/-- **The comparison of reversed arguments** is the reverse one.

**Proof sketch.** Induction over the first value, with a second one of the same kind. -/
theorem compare_eq_swap (a b : Json) : compare a b = (compare b a).swap := by
  by_cases hrank : a.rank = b.rank
  · cases a with
    | null => cases b with
      | null => rfl
      | _ => cases hrank
    | bool x => cases b with
      | bool y => exact Std.OrientedOrd.eq_swap (a := x) (b := y)
      | _ => cases hrank
    | number m => cases b with
      | number n => exact Std.OrientedOrd.eq_swap (a := m.units) (b := n.units)
      | _ => cases hrank
    | string s => cases b with
      | string t => exact Std.OrientedOrd.eq_swap (a := s) (b := t)
      | _ => cases hrank
    | array xs => cases b with
      | array ys => exact compareItems_eq_swap xs ys
      | _ => cases hrank
    | object xs => cases b with
      | object ys =>
        exact Std.OrientedOrd.eq_swap (a := (Json.object xs).text) (b := (Json.object ys).text)
      | _ => cases hrank
  · rw [compare_of_rank_ne hrank, compare_of_rank_ne (Ne.symm hrank)]
    exact Std.OrientedOrd.eq_swap

/-- The comparison of reversed lists of elements. -/
theorem compareItems_eq_swap (xs ys : List Json) :
    compareItems xs ys = (compareItems ys xs).swap := by
  match xs, ys with
  | [], [] => rfl
  | [], _ :: _ => rfl
  | _ :: _, [] => rfl
  | x :: xs, y :: ys =>
    rw [compareItems, compareItems, compare_eq_swap x y, compareItems_eq_swap xs ys]
    cases compare y x <;> rfl

end

/-! ## Values that compare equal -/

/-- The elements compare equal where the first ones and the others do. -/
lemma compareItems_cons_eq {x y : Json} {xs ys : List Json} :
    compareItems (x :: xs) (y :: ys) = .eq ↔ compare x y = .eq ∧ compareItems xs ys = .eq := by
  rw [compareItems]
  cases compare x y <;> simp

mutual

/-- **Values that compare equal** compare alike with every value.

**Proof sketch.** Induction over the first value. The two are of one kind, and hold booleans,
doubles, strings or texts that are equal, or elements that compare equal. -/
theorem compare_congr {a b : Json} (h : compare a b = .eq) (c : Json) :
    compare a c = compare b c := by
  have hrank := rank_eq_of_compare h
  cases a with
  | null => cases b with
    | null => rfl
    | _ => cases hrank
  | bool x => cases b with
    | bool y =>
      obtain rfl : x = y := Std.LawfulEqOrd.eq_of_compare h
      rfl
    | _ => cases hrank
  | number m => cases b with
    | number n =>
      have hunits : m.units = n.units := Std.LawfulEqOrd.eq_of_compare h
      cases c with
      | number k => rw [compare, compare, hunits]
      | _ => rfl
    | _ => cases hrank
  | string s => cases b with
    | string t =>
      obtain rfl : s = t := Std.LawfulEqOrd.eq_of_compare h
      rfl
    | _ => cases hrank
  | array xs => cases b with
    | array ys =>
      cases c with
      | array zs => exact @compareItems_congr xs ys h zs
      | _ => rfl
    | _ => cases hrank
  | object xs => cases b with
    | object ys =>
      have htext : (Json.object xs).text = (Json.object ys).text :=
        Std.LawfulEqOrd.eq_of_compare h
      cases c with
      | object zs => rw [compare, compare, htext]
      | _ => rfl
    | _ => cases hrank

/-- Elements that compare equal compare alike with all elements. -/
theorem compareItems_congr {xs ys : List Json} (h : compareItems xs ys = .eq) (zs : List Json) :
    compareItems xs zs = compareItems ys zs := by
  match xs, ys with
  | [], [] => rfl
  | [], _ :: _ => cases h
  | _ :: _, [] => cases h
  | x :: xs, y :: ys =>
    obtain ⟨hfirst, hrest⟩ := compareItems_cons_eq.mp h
    cases zs with
    | nil => rfl
    | cons z zs =>
      rw [compareItems, compareItems, compare_congr hfirst z, compareItems_congr hrest zs]

end

/-- So it is for second arguments. -/
lemma compare_congr_right {b c : Json} (h : compare b c = .eq) (a : Json) :
    compare a b = compare a c := by
  rw [compare_eq_swap a b, compare_eq_swap a c, compare_congr h a]

/-! ## Strict order -/

/-- The first difference decides. -/
lemma compareItems_cons_lt {x y : Json} {xs ys : List Json} :
    compareItems (x :: xs) (y :: ys) = .lt ↔
      compare x y = .lt ∨ compare x y = .eq ∧ compareItems xs ys = .lt := by
  rw [compareItems]
  cases compare x y <;> simp

mutual

/-- **The strict order is transitive.**

**Proof sketch.** Induction over the first value. The kinds ascend. If they are not all the same,
then they decide; if they are, then what the values hold does. Of arrays the first difference
decides, be it between the first two or between the last two of them. -/
theorem compare_lt_trans {a b c : Json} (hab : compare a b = .lt) (hbc : compare b c = .lt) :
    compare a c = .lt := by
  have habRank := rank_le_of_compare hab
  have hbcRank := rank_le_of_compare hbc
  by_cases hrank : a.rank = c.rank
  · have hmiddle : b.rank = c.rank := by omega
    cases c with
    | null => cases b with
      | null => cases hbc
      | _ => cases hmiddle
    | bool z => cases b with
      | bool y => cases a with
        | bool x => exact @Std.TransCmp.lt_trans Bool Ord.compare _ _ _ _ hab hbc
        | _ => cases hrank
      | _ => cases hmiddle
    | number z => cases b with
      | number y => cases a with
        | number x => exact @Std.TransCmp.lt_trans Int Ord.compare _ _ _ _ hab hbc
        | _ => cases hrank
      | _ => cases hmiddle
    | string z => cases b with
      | string y => cases a with
        | string x => exact @Std.TransCmp.lt_trans String Ord.compare _ _ _ _ hab hbc
        | _ => cases hrank
      | _ => cases hmiddle
    | array zs => cases b with
      | array ys => cases a with
        | array xs => exact @compareItems_lt_trans xs ys zs hab hbc
        | _ => cases hrank
      | _ => cases hmiddle
    | object zs => cases b with
      | object ys => cases a with
        | object xs => exact @Std.TransCmp.lt_trans String Ord.compare _ _ _ _ hab hbc
        | _ => cases hrank
      | _ => cases hmiddle
  · rw [compare_of_rank_ne hrank]
    exact Nat.compare_eq_lt.mpr (by omega)

/-- So is the strict order of lists of elements. -/
theorem compareItems_lt_trans {xs ys zs : List Json} (hxy : compareItems xs ys = .lt)
    (hyz : compareItems ys zs = .lt) : compareItems xs zs = .lt := by
  match xs, ys, zs with
  | _, _ :: _, [] => cases hyz
  | _, [], [] => cases hyz
  | _ :: _, [], _ => cases hxy
  | [], _, _ :: _ => rfl
  | x :: xs, y :: ys, z :: zs =>
    rw [compareItems_cons_lt] at hxy hyz ⊢
    rcases hxy with hxy | ⟨hxy, hxys⟩
    · left
      rcases hyz with hyz | ⟨hyz, -⟩
      · exact compare_lt_trans hxy hyz
      · rw [← compare_congr_right hyz x, hxy]
    · rcases hyz with hyz | ⟨hyz, hyzs⟩
      · left
        rw [compare_congr hxy z, hyz]
      · right
        exact ⟨by rw [compare_congr hxy z, hyz], compareItems_lt_trans hxys hyzs⟩

end

/-! ## The preorder -/

/-- **The comparison is a total preorder.** -/
instance instTransCmp : Std.TransCmp compare where
  eq_swap := compare_eq_swap _ _
  isLE_trans := by
    intro a b c hab hbc
    cases habCases : compare a b with
    | gt => rw [habCases] at hab; cases hab
    | eq => rwa [compare_congr habCases]
    | lt =>
      cases hbcCases : compare b c with
      | gt => rw [hbcCases] at hbc; cases hbc
      | eq => rwa [← compare_congr_right hbcCases]
      | lt => rw [compare_lt_trans habCases hbcCases]; rfl

end DataGrid.Json
