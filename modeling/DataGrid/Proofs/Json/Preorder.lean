import DataGrid.Proofs.Json.Equality

/-!
# The preorder of JSON values

A list of values is sorted by the comparison, and then each run of values that compare equal is
thinned out to one of them. Both take the comparison for a total preorder, under which values that
compare equal are interchangeable.

Numbers are where this is not clear at a glance: they are of two sorts, and an integer is rounded
before it is compared with a double, or with another integer. Rounding keeps the order, so numbers
are never compared the wrong way around. It can only make different ones equal.

## Main definitions

* `DataGrid.rounded` — an integer of any sign, rounded to 53 significant bits.
* `DataGrid.Zoo.lastExact`, `DataGrid.Zoo.firstRounded` — neighbours that become the same double.

## Main results

* `DataGrid.Json.Number.units_eq_rounded` — every number is compared by its rounded value.
* `DataGrid.Json.Number.units_mono` — it is compared as its exact value would be, or as equal.
* `DataGrid.Json.compare_isPreorder` — the laws of the comparison.
-/

namespace DataGrid

/-! ## Integers -/

/-- The nearest multiple of the unit, with the sign of the integer. -/
def rounded (z : ℤ) : ℤ := if z < 0 then -(nearest53 z.natAbs 1 : ℤ) else nearest53 z.natAbs 1

/-- Rounding keeps the order of integers. -/
lemma rounded_mono {y z : ℤ} (h : y ≤ z) : rounded y ≤ rounded z := by
  unfold rounded
  split
  · split
    · have hmagnitudes := nearest53_mono (show z.natAbs ≤ y.natAbs by omega)
      omega
    · omega
  · rw [if_neg (by omega)]
    have hmagnitudes := nearest53_mono (show y.natAbs ≤ z.natAbs by omega)
    omega

/-- Rounding and scaling by a power of two can be exchanged. -/
lemma rounded_scaled (z : ℤ) (k : ℕ) : rounded (z * (2 ^ k : ℕ)) = rounded z * (2 ^ k : ℕ) := by
  have hpos : (0 : ℤ) < (2 ^ k : ℕ) := by exact_mod_cast Nat.two_pow_pos k
  have hsign : z * (2 ^ k : ℕ) < 0 ↔ z < 0 := by
    constructor
    · intro h
      exact neg_of_mul_neg_left h hpos.le
    · intro h
      exact Int.mul_neg_of_neg_of_pos h hpos
  rw [rounded, rounded, Int.natAbs_mul, Int.natAbs_natCast, nearest53_mul_two_pow]
  simp only [hsign]
  split
  · rw [Nat.cast_mul, Int.neg_mul]
  · rw [Nat.cast_mul]

/-- Doubles have no more than 53 bits to be rounded to. -/
lemma Binary64.rounded_units (x : Binary64) : rounded x.units = x.units := by
  have hdvd : 2 ^ (x.magnitude.log2 - 52) ∣ x.magnitude :=
    dvd_of_mul_eq_magnitude (x := x) (k := 0) (by rw [Nat.pow_zero, Nat.mul_one])
  have hmagnitude := x.natAbs_units
  rw [rounded, hmagnitude, nearest53_of_dvd hdvd]
  split <;> omega

/-- The greatest power of two up to which all integers are doubles. -/
def Zoo.lastExact : Json.Number := .int 9007199254740992 (by decide)

/-- The integer behind it, which is rounded to it. -/
def Zoo.firstRounded : Json.Number := .int 9007199254740993 (by decide)

namespace Json

/-! ## Numbers -/

/-- **Every number is compared by its rounded value**, be it an integer or a double. -/
theorem Number.units_eq_rounded (n : Number) : n.units = rounded n.exact := by
  cases n with
  | int n h => exact (rounded_scaled n 1074).symm
  | float x => exact x.rounded_units.symm

/-- **Numbers are compared as their exact values would be**, or as equal. -/
theorem Number.units_mono {m n : Number} (h : m.exact ≤ n.exact) : m.units ≤ n.units := by
  rw [units_eq_rounded, units_eq_rounded]
  exact rounded_mono h

/-- A number is not after one that is no smaller. -/
lemma isLE_compare_number {m n : Number} (h : m.exact ≤ n.exact) :
    (compare (.number m) (.number n)).isLE :=
  Std.isLE_compare.mpr (Number.units_mono h)

/-! ## The laws -/

/-- Values of different kinds are in the order of their kinds. -/
lemma compare_eq_lt_of_rank_lt {a b : Json} (h : a.rank < b.rank) : compare a b = .lt := by
  rw [compare_of_rank_ne (Nat.ne_of_lt h)]
  exact Nat.compare_eq_lt.mpr h

/-- **The comparison is a total preorder.** Every value compares equal to itself, reversed arguments
are compared in reverse, and "no greater" is transitive. Values that compare equal are
interchangeable on either side.

It is the preorder that goes by the kinds of values first, and among numbers by their exact values,
as far as rounding tells them apart.

**Proof sketch.** The laws hold of kinds, doubles, strings and texts, and pass from elements to
arrays: the first elements that differ decide, and elements before them may be exchanged for ones
that compare equal (`instTransCmp`). -/
theorem compare_isPreorder (a b c : Json) :
    compare a a = .eq ∧ compare a b = (compare b a).swap ∧
      ((compare a b).isLE → (compare b c).isLE → (compare a c).isLE) ∧
      (compare a b = .eq → compare a c = compare b c ∧ compare c a = compare c b) ∧
      (a.rank < b.rank → compare a b = .lt) ∧
      (∀ m n, a = .number m → b = .number n → m.exact ≤ n.exact → (compare a b).isLE) := by
  refine ⟨Std.ReflCmp.compare_self, compare_eq_swap a b, ?_, ?_, compare_eq_lt_of_rank_lt, ?_⟩
  · intro hab hbc
    exact Std.TransCmp.isLE_trans hab hbc
  · intro hab
    exact ⟨compare_congr hab c, compare_congr_right hab c⟩
  · rintro m n rfl rfl hle
    exact isLE_compare_number hle

/-- Neighbours of which one is rounded to the other are interchangeable, though not the same: arrays
that begin with them differ in length alone. -/
theorem compare_isPreorder_neighbours :
    compare (.array [.number Zoo.lastExact]) (.array [.number Zoo.firstRounded]) = .eq ∧
      compare (.array [.number Zoo.firstRounded]) (.array [.number Zoo.firstRounded, .null]) =
        .lt ∧
      compare (.array [.number Zoo.lastExact]) (.array [.number Zoo.firstRounded, .null]) = .lt ∧
      (compare (.array [.number Zoo.lastExact])
        (.array [.number Zoo.firstRounded, .null])).isLE ∧
      compare (.number Zoo.lastExact) (.array [.number Zoo.lastExact]) = .lt ∧
      Zoo.lastExact.exact < Zoo.firstRounded.exact ∧
      (compare (.number Zoo.lastExact) (.number Zoo.firstRounded)).isLE := by
  have hequal : compare (.array [.number Zoo.lastExact]) (.array [.number Zoo.firstRounded]) =
      .eq := by
    decide +kernel
  have hlonger : compare (.array [.number Zoo.firstRounded])
      (.array [.number Zoo.firstRounded, .null]) = .lt := by
    decide +kernel
  have hexact : Zoo.lastExact.exact < Zoo.firstRounded.exact := by decide +kernel
  obtain ⟨-, -, htrans, hcongr, -, -⟩ := compare_isPreorder (.array [.number Zoo.lastExact])
    (.array [.number Zoo.firstRounded]) (.array [.number Zoo.firstRounded, .null])
  obtain ⟨-, -, -, -, hkinds, -⟩ := compare_isPreorder (.number Zoo.lastExact)
    (.array [.number Zoo.lastExact]) .null
  obtain ⟨-, -, -, -, -, hnumbers⟩ := compare_isPreorder (.number Zoo.lastExact)
    (.number Zoo.firstRounded) .null
  refine ⟨hequal, hlonger, ?_, ?_, hkinds (by decide), hexact, ?_⟩
  · rw [(hcongr hequal).1, hlonger]
  · exact htrans (by rw [hequal]; rfl) (by rw [hlonger]; rfl)
  · exact hnumbers _ _ rfl rfl hexact.le

end Json

end DataGrid
