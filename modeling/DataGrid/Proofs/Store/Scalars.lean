import DataGrid.Proofs.Store.Truth
import Mathlib.Data.List.ReduceOption
import Mathlib.Tactic.Lemma

/-!
# Single values of the store

What the store does with single values: constants, comparison, casts, members of documents and LIKE
patterns. All of it is a parameter, so that a statement about queries holds whatever types the
columns have. Null is not a value but the lack of one, and the operations on cells take care of it
in one place.

## Main definitions

* `DataGrid.Sql.Scalars` — the operations on values, with a total preorder on them.
* `DataGrid.Sql.Scalars.literal`, `compared`, `member?`, `matched` — the operations on cells that
  may be null.
* `DataGrid.Sql.Scalars.cellOrder` — the order of cells; null comes behind all values.
* `DataGrid.Sql.Scalars.extreme` — the least or the greatest value among cells.
* `DataGrid.Sql.Scalars.ofLiterals` — constants as the values of a store.

## Main results

* `DataGrid.Sql.Scalars.extreme_spec` — the extreme is one of the values and none is beyond it.

## Implementation notes

The order is a preorder and not an order: the store has values that it takes for equal and yet
tells apart when it prints or casts them.
-/

namespace DataGrid.Sql

/-- Whether a comparison holds of two values in the given order. -/
def Comparison.holds : Comparison → Ordering → Bool
  | .eq, o => o == .eq
  | .ne, o => o != .eq
  | .lt, o => o == .lt
  | .le, o => o != .gt
  | .gt, o => o == .gt
  | .ge, o => o != .lt

/-- How the store treats single values. -/
structure Scalars (V : Type) where
  ofBool : Bool → V
  ofInt : Int → V
  ofFloat : Binary64 → V
  ofText : String → V
  /-- The truth value that a value is, if it is one. -/
  truth? : V → Option Bool
  truth?_ofBool : ∀ b, truth? (ofBool b) = some b
  order : V → V → Ordering
  order_trans : Std.TransCmp order
  /-- A value cast to the type of the given name. -/
  cast : String → V → Option V
  /-- The member of a document, as text or as a document. -/
  member : Bool → String → V → Option V
  /-- Whether a value matches a LIKE pattern, case aside. -/
  like : String → V → Bool

namespace Scalars

variable {V : Type} (S : Scalars V)

/-- The order of values is a preorder. -/
instance : Std.TransCmp S.order := S.order_trans

/-! ## Operations on cells -/

/-- The cell of a constant. -/
def literal : Literal → Option V
  | .null => none
  | .bool b => some (S.ofBool b)
  | .int n => some (S.ofInt n)
  | .float x => some (S.ofFloat x)
  | .string s => some (S.ofText s)

/-- The truth value of a cell; null is unknown. -/
def truth (c : Option V) : Truth := c.bind S.truth?

/-- The cell of a truth value. -/
def ofTruth (t : Truth) : Option V := t.map S.ofBool

/-- A truth value is read back from its cell. -/
@[simp] theorem truth_ofTruth (t : Truth) : S.truth (S.ofTruth t) = t := by
  cases t with
  | none => rfl
  | some b => exact S.truth?_ofBool b

/-- The comparison of two cells, unknown when one of them is null. -/
def compared (op : Comparison) : Option V → Option V → Truth
  | some a, some b => some (op.holds (S.order a b))
  | _, _ => none

/-- Two cells are equal when both are there and the store takes their values for equal. -/
lemma compared_eq_true {a b : Option V} :
    S.compared .eq a b = some true ↔ ∃ v w, a = some v ∧ b = some w ∧ S.order v w = .eq := by
  cases a with
  | none => simp [compared]
  | some v =>
    cases b with
    | none => simp [compared]
    | some w => simp [compared, Comparison.holds]

/-- Two cells are different when both are there and the store tells their values apart. -/
lemma compared_eq_false {a b : Option V} :
    S.compared .eq a b = some false ↔ ∃ v w, a = some v ∧ b = some w ∧ S.order v w ≠ .eq := by
  cases a with
  | none => simp [compared]
  | some v =>
    cases b with
    | none => simp [compared]
    | some w => simp [compared, Comparison.holds]

/-- Whether a cell is one of several: the comparisons with all of them joined by OR. -/
def isMember (c : Option V) (cells : List (Option V)) : Truth :=
  Junction.any.fold (cells.map (S.compared .eq c))

/-- The match of a cell against a pattern, unknown for null. -/
def matched (pattern : String) (c : Option V) : Truth := c.map (S.like pattern)

/-! ## The order of cells -/

/-- The order of two cells: null comes behind all values, and null is like null. -/
def cellOrder : Option V → Option V → Ordering
  | some a, some b => S.order a b
  | some _, none => .lt
  | none, some _ => .gt
  | none, none => .eq

/-- The order of cells, with null behind all values, is a preorder. -/
instance : Std.TransCmp S.cellOrder where
  eq_swap {a b} := by
    cases a <;> cases b <;> try rfl
    exact S.order_trans.eq_swap
  isLE_trans {a b c} hab hbc := by
    cases c with
    | none => cases a <;> rfl
    | some c =>
      cases b with
      | none => simp [cellOrder] at hbc
      | some b =>
        cases a with
        | none => simp [cellOrder] at hab
        | some a => exact S.order_trans.isLE_trans hab hbc

/-- Whether two cells fall together in a group or a list of distinct values. -/
def same (a b : Option V) : Bool := S.cellOrder a b == .eq

/-- A cell falls together with itself, null included. -/
lemma same_refl (a : Option V) : S.same a a = true := by
  have hself : S.cellOrder a a = .eq := Std.ReflCmp.compare_self
  rw [same, hself]
  rfl

/-- Cells fall together in either order. -/
lemma same_symm {a b : Option V} (h : S.same a b = true) : S.same b a = true := by
  rw [same, beq_iff_eq] at h ⊢
  exact Std.OrientedCmp.eq_symm h

/-- Cells that fall together with one cell fall together. -/
lemma same_trans {a b c : Option V} (hab : S.same a b = true) (hbc : S.same b c = true) :
    S.same a c = true := by
  rw [same, beq_iff_eq] at hab hbc ⊢
  exact Std.TransCmp.eq_trans hab hbc

/-! ## Extremes -/

/-- The order in which the preferred value comes first. -/
def preference : Extreme → V → V → Ordering
  | .min => S.order
  | .max => fun a b => S.order b a

/-- The order of preference is a preorder. -/
instance (pick : Extreme) : Std.TransCmp (S.preference pick) := by
  cases pick with
  | min => exact S.order_trans
  | max => exact inferInstanceAs (Std.TransCmp fun a b => S.order b a)

/-- The better of two values; of equal ones the first. -/
def better (pick : Extreme) (a b : V) : V := if S.preference pick b a = .lt then b else a

/-- The extreme value among cells; nulls do not count, and there is none among nulls alone. -/
def extreme (pick : Extreme) (cells : List (Option V)) : Option V :=
  match cells.reduceOption with
  | [] => none
  | v :: rest => some (rest.foldl (S.better pick) v)

/-- The better of two values is one of them. -/
lemma better_eq_or (pick : Extreme) (a b : V) :
    S.better pick a b = a ∨ S.better pick a b = b := by
  unfold better
  split
  · exact .inr rfl
  · exact .inl rfl

/-- The better of two values comes before the first. -/
lemma better_le_left (pick : Extreme) (a b : V) :
    (S.preference pick (S.better pick a b) a).isLE := by
  unfold better
  split
  · next h => rw [h]; rfl
  · exact Std.ReflCmp.isLE_rfl

/-- The better of two values comes before the second. -/
lemma better_le_right (pick : Extreme) (a b : V) :
    (S.preference pick (S.better pick a b) b).isLE := by
  unfold better
  split
  · exact Std.ReflCmp.isLE_rfl
  · next h => exact Std.OrientedCmp.isLE_of_isGE (Ordering.isGE_iff_ne_lt.mpr h)

/-- The best of a value and further ones is one of them, and comes before all of them. -/
lemma foldl_better_spec (pick : Extreme) (v : V) (rest : List V) :
    rest.foldl (S.better pick) v ∈ v :: rest ∧
      ∀ w ∈ v :: rest, (S.preference pick (rest.foldl (S.better pick) v) w).isLE := by
  induction rest generalizing v with
  | nil => exact ⟨List.mem_singleton_self v, by simpa using Std.ReflCmp.isLE_rfl⟩
  | cons u rest ih =>
    obtain ⟨hmem, hle⟩ := ih (S.better pick v u)
    rw [List.foldl_cons]
    constructor
    · rcases List.mem_cons.mp hmem with h | h
      · rw [h]
        rcases S.better_eq_or pick v u with e | e <;> simp [e]
      · exact List.mem_cons_of_mem _ (List.mem_cons_of_mem _ h)
    · have hbest := hle _ List.mem_cons_self
      intro w hw
      rcases List.mem_cons.mp hw with rfl | hw
      · exact Std.TransCmp.isLE_trans hbest (S.better_le_left pick w u)
      · rcases List.mem_cons.mp hw with rfl | hw
        · exact Std.TransCmp.isLE_trans hbest (S.better_le_right pick v w)
        · exact hle w (List.mem_cons_of_mem _ hw)

/-- There is no extreme exactly when all cells are null. -/
lemma extreme_eq_none {pick : Extreme} {cells : List (Option V)} :
    S.extreme pick cells = none ↔ ∀ v, some v ∉ cells := by
  have hmem : ∀ v, some v ∈ cells ↔ v ∈ cells.reduceOption :=
    fun v => List.reduceOption_mem_iff.symm
  simp only [hmem]
  unfold extreme
  split
  · next h => simp [h]
  · next v rest h => exact iff_of_false nofun fun hall => hall v (h ▸ List.mem_cons_self)

/-- **The extreme** is one of the values among the cells, and no value comes before it.

**Proof sketch.** The values are folded from the left (`foldl_better_spec`); the better of two is
one of them and comes before both. -/
theorem extreme_spec {pick : Extreme} {cells : List (Option V)} {v : V}
    (h : S.extreme pick cells = some v) :
    some v ∈ cells ∧ ∀ w, some w ∈ cells → (S.preference pick v w).isLE := by
  have hmem : ∀ w, some w ∈ cells ↔ w ∈ cells.reduceOption :=
    fun w => List.reduceOption_mem_iff.symm
  simp only [hmem]
  unfold extreme at h
  split at h
  · cases h
  · next u rest hr =>
    rw [Option.some.injEq] at h
    rw [hr, ← h]
    exact S.foldl_better_spec pick u rest

/-- Cells in another order have an extreme that the store does not tell apart. -/
theorem extreme_perm (pick : Extreme) {cells cells' : List (Option V)}
    (h : cells.Perm cells') :
    S.cellOrder (S.extreme pick cells) (S.extreme pick cells') = .eq := by
  cases hv : S.extreme pick cells with
  | none =>
    have hnone : S.extreme pick cells' = none := by
      rw [extreme_eq_none] at hv ⊢
      intro v hmem
      exact hv v (h.mem_iff.mpr hmem)
    rw [hnone]
    rfl
  | some v =>
    cases hw : S.extreme pick cells' with
    | none =>
      rw [extreme_eq_none] at hw
      exact absurd (h.mem_iff.mp (S.extreme_spec hv).1) (hw v)
    | some w =>
      obtain ⟨hvm, hvl⟩ := S.extreme_spec hv
      obtain ⟨hwm, hwl⟩ := S.extreme_spec hw
      have hvw := hvl w (h.mem_iff.mpr hwm)
      have hwv := hwl v (h.mem_iff.mp hvm)
      cases pick with
      | min => exact Std.OrientedCmp.isLE_antisymm hvw hwv
      | max => exact Std.OrientedCmp.isLE_antisymm hwv hvw

end Scalars

/-! ## Constants as values -/

namespace Literal

/-- Truth values come before numbers, and numbers before text. -/
def rank : Literal → Nat
  | .null => 0
  | .bool _ => 1
  | .int _ => 2
  | .float _ => 2
  | .string _ => 3

/-- The size of a number in units of `2 ^ -1074`, or of a truth value. -/
def amount : Literal → Int
  | .bool b => if b then 1 else 0
  | .int n => n * (2 ^ 1074 : Nat)
  | .float x => x.units
  | _ => 0

/-- The text of a string. -/
def content : Literal → String
  | .string s => s
  | _ => ""

/-- Constants by kind, numbers by size and strings by code points. -/
def order : Literal → Literal → Ordering :=
  compareLex (compareOn rank) (compareLex (compareOn amount) (compareOn content))

end Literal

/-- Constants as the values of a store without documents, whose casts change nothing and whose
patterns have no wildcards. -/
def Scalars.ofLiterals : Scalars Literal where
  ofBool := .bool
  ofInt := .int
  ofFloat := .float
  ofText := .string
  truth? v := match v with
    | .bool b => some b
    | _ => none
  truth?_ofBool _ := rfl
  order := Literal.order
  order_trans := inferInstanceAs (Std.TransCmp (compareLex _ _))
  cast _ v := some v
  member _ _ _ := none
  like pattern v := v == .string pattern

end DataGrid.Sql
