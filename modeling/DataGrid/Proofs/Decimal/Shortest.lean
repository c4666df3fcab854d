import Mathlib.Algebra.Order.Field.Power
import Mathlib.Algebra.Order.Field.Rat
import Mathlib.Tactic.Lemma
import Mathlib.Tactic.Linarith
import Mathlib.Tactic.Ring
import DataGrid.Decimal.Shortest

/-!
# Shortest decimals identify their doubles

The reals that round to a double form an interval around it, and the intervals of different
magnitudes have nothing in common: where two of them touch, at most one of the two significands is
even, and only this one's interval is closed. The shortest decimal of a double is found by a search
that may fail, with the exact value behind it. Whichever it is, it lies in the interval of the
double, and so it is the shortest decimal of no other magnitude.

## Main definitions

* `DataGrid.Decimal.value` — the rational number that a decimal is.
* `DataGrid.Binary64.Covers` — the interval of the reals that round to a double.

## Main results

* `DataGrid.Binary64.readsBack_iff` — the test in integer arithmetic is the one of the interval.
* `DataGrid.Binary64.magnitude_eq_of_covers` — the intervals of different magnitudes are disjoint.
* `DataGrid.Binary64.covers_shortest` — the shortest decimal reads back.
* `DataGrid.Binary64.eq_of_value_shortest` — it identifies the double, up to its sign.
-/

namespace DataGrid

/-- The rational number that a decimal is. -/
def Decimal.value (d : Decimal) : ℚ := d.digits * 10 ^ d.exponent

namespace Binary64

/-! ## Fields -/

/-- The fraction is what 52 bits hold. -/
lemma fractionField_eq (x : Binary64) : x.fractionField = x.bits.toNat % 2 ^ 52 := by
  rw [fractionField, UInt64.toNat_and]
  exact Nat.and_two_pow_sub_one_eq_mod x.bits.toNat 52

/-- The exponent field of a word is what eleven bits hold. -/
lemma toNat_exponentBits (word : UInt64) :
    ((word >>> 52) &&& 0x7FF).toNat = word.toNat / 2 ^ 52 % 2 ^ 11 := by
  rw [UInt64.toNat_and, UInt64.toNat_shiftRight, Nat.shiftRight_eq_div_pow]
  exact Nat.and_two_pow_sub_one_eq_mod (word.toNat / 2 ^ 52) 11

/-- The exponent field is the eleven bits above the significand. -/
lemma exponentField_eq (x : Binary64) : x.exponentField = x.bits.toNat / 2 ^ 52 % 2 ^ 11 :=
  toNat_exponentBits x.bits

/-- The sign is the highest bit. -/
lemma negative_iff (x : Binary64) : x.negative = true ↔ 2 ^ 63 ≤ x.bits.toNat := by
  have hbits := x.bits.toNat_lt
  rw [negative, beq_iff_eq, ← UInt64.toNat_inj, UInt64.toNat_shiftRight,
    Nat.shiftRight_eq_div_pow]
  have hshift : (63 : UInt64).toNat % 64 = 63 := rfl
  have hone : (1 : UInt64).toNat = 1 := rfl
  rw [hshift, hone]
  omega

/-- A double is what its three fields are. -/
lemma eq_of_fields {x y : Binary64} (hsign : x.negative = y.negative)
    (hexponent : x.exponentField = y.exponentField)
    (hfraction : x.fractionField = y.fractionField) : x = y := by
  have hx := x.bits.toNat_lt
  have hy := y.bits.toNat_lt
  have hsign : 2 ^ 63 ≤ x.bits.toNat ↔ 2 ^ 63 ≤ y.bits.toNat := by
    rw [← negative_iff, ← negative_iff, hsign]
  rw [exponentField_eq, exponentField_eq] at hexponent
  rw [fractionField_eq, fractionField_eq] at hfraction
  have hbits : x.bits = y.bits := by
    rw [← UInt64.toNat_inj]
    omega
  cases x
  cases y
  congr 1

/-! ## Magnitudes -/

/-- A significand has at most 53 bits. -/
lemma significand_lt (x : Binary64) : x.significand < 2 ^ 53 := by
  have hfraction := x.fractionField_eq
  unfold significand
  split <;> omega

/-- The significand of a double that is scaled has all 53 bits. -/
lemma le_significand {x : Binary64} (h : 0 < x.scale) : 2 ^ 52 ≤ x.significand := by
  unfold scale at h
  rw [significand, if_neg (by omega)]
  exact Nat.le_add_right _ _

/-- Of two doubles, the one that is scaled more has the greater magnitude. -/
lemma magnitude_lt_of_scale_lt {x y : Binary64} (h : x.scale < y.scale) :
    x.magnitude < y.magnitude := by
  have hsignificand := le_significand (Nat.zero_lt_of_lt h)
  calc x.significand * 2 ^ x.scale
      < 2 ^ 53 * 2 ^ x.scale :=
        Nat.mul_lt_mul_of_pos_right x.significand_lt (Nat.two_pow_pos _)
    _ = 2 ^ 52 * 2 ^ (x.scale + 1) := by rw [Nat.pow_succ 2 52, Nat.pow_succ 2 x.scale]; ring
    _ ≤ y.significand * 2 ^ y.scale :=
        Nat.mul_le_mul hsignificand (Nat.pow_le_pow_right (by decide) h)

/-- **A double is determined by its sign and its magnitude.** -/
theorem eq_of_magnitude {x y : Binary64} (hsign : x.negative = y.negative)
    (hmagnitude : x.magnitude = y.magnitude) : x = y := by
  have hscale : x.scale = y.scale := by
    rcases Nat.lt_trichotomy x.scale y.scale with h | h | h
    · exact absurd hmagnitude (magnitude_lt_of_scale_lt h).ne
    · exact h
    · exact absurd hmagnitude (magnitude_lt_of_scale_lt h).ne'
  have hsignificand : x.significand = y.significand := by
    rw [magnitude, magnitude, hscale] at hmagnitude
    exact Nat.eq_of_mul_eq_mul_right (Nat.two_pow_pos _) hmagnitude
  have hx := x.fractionField_eq
  have hy := y.fractionField_eq
  unfold scale at hscale
  unfold significand at hsignificand
  split at hsignificand <;> split at hsignificand <;>
    exact eq_of_fields hsign (by omega) (by omega)

/-! ## Intervals -/

/-- The lower end of the reals that round to the double, in units of `2 ^ -1076`. -/
def lowEnd (x : Binary64) : ℕ :=
  (if x.narrowBelow then 4 * x.significand - 1 else 4 * x.significand - 2) * 2 ^ x.scale

/-- The upper end of the reals that round to the double, in units of `2 ^ -1076`. -/
def highEnd (x : Binary64) : ℕ := (4 * x.significand + 2) * 2 ^ x.scale

/-- The number, in units of `2 ^ -1076`, rounds to the double. The ends of the interval belong to an
even significand. -/
def Covers (x : Binary64) (v : ℚ) : Prop :=
  (x.lowEnd < v ∨ x.significand % 2 = 0 ∧ x.lowEnd = v) ∧
    (v < x.highEnd ∨ x.significand % 2 = 0 ∧ v = x.highEnd)

/-- Between the ends of two intervals with one scale there is a significand, and where there is but
one step, one of the two significands is odd. -/
lemma highEnd_le_lowEnd_of_scale_eq {x y : Binary64} (hscale : x.scale = y.scale)
    (h : x.magnitude < y.magnitude) :
    x.highEnd ≤ y.lowEnd ∧
      (x.highEnd = y.lowEnd → ¬(x.significand % 2 = 0 ∧ y.significand % 2 = 0)) := by
  have hlt : x.significand < y.significand := by
    rw [magnitude, magnitude, hscale] at h
    exact Nat.lt_of_mul_lt_mul_right h
  rw [highEnd, lowEnd, hscale]
  refine ⟨Nat.mul_le_mul_right _ (by split <;> omega), fun hends => ?_⟩
  have hends := Nat.eq_of_mul_eq_mul_right (Nat.two_pow_pos _) hends
  split at hends <;> omega

/-- The interval of a power of two is narrow below: the significands there are those of the next
smaller scale, whose greatest one is odd. -/
lemma highEnd_le_lowEnd_of_scale_lt {x y : Binary64} (hscale : x.scale < y.scale) :
    x.highEnd ≤ y.lowEnd ∧
      (x.highEnd = y.lowEnd → ¬(x.significand % 2 = 0 ∧ y.significand % 2 = 0)) := by
  have hx := x.significand_lt
  have hy := le_significand (Nat.zero_lt_of_lt hscale)
  -- In units of the smaller scale, the lower end of `y` is at least `2 ^ 55 - 2`.
  have hlow : (2 ^ 55 - 2) * 2 ^ x.scale ≤ y.lowEnd := by
    have hfactor : 2 ^ 54 - 1 ≤
        if y.narrowBelow then 4 * y.significand - 1 else 4 * y.significand - 2 := by
      split
      · omega
      · next hwide =>
        have hmore : 2 ^ 52 < y.significand := by
          unfold scale at hscale
          rw [narrowBelow, Bool.and_eq_true, beq_iff_eq, decide_eq_true_eq] at hwide
          rw [significand, if_neg (by omega)]
          omega
        omega
    calc (2 ^ 55 - 2) * 2 ^ x.scale
        = (2 ^ 54 - 1) * 2 ^ (x.scale + 1) := by rw [Nat.pow_succ 2 x.scale]; ring
      _ ≤ y.lowEnd := Nat.mul_le_mul hfactor (Nat.pow_le_pow_right (by decide) hscale)
  have hhigh : x.highEnd ≤ (2 ^ 55 - 2) * 2 ^ x.scale :=
    Nat.mul_le_mul_right _ (by omega)
  refine ⟨hhigh.trans hlow, fun hends hsame => ?_⟩
  have hmost : x.highEnd = (2 ^ 55 - 2) * 2 ^ x.scale := by omega
  have hodd := Nat.eq_of_mul_eq_mul_right (Nat.two_pow_pos _) hmost
  omega

/-- **The intervals of different magnitudes are disjoint.** -/
theorem magnitude_eq_of_covers {x y : Binary64} {v : ℚ} (hx : x.Covers v) (hy : y.Covers v) :
    x.magnitude = y.magnitude := by
  have hdisjoint : ∀ {x y : Binary64}, x.Covers v → y.Covers v → ¬x.magnitude < y.magnitude := by
    intro x y hx hy h
    have hends : x.highEnd ≤ y.lowEnd ∧
        (x.highEnd = y.lowEnd → ¬(x.significand % 2 = 0 ∧ y.significand % 2 = 0)) := by
      rcases Nat.lt_trichotomy x.scale y.scale with hscale | hscale | hscale
      · exact highEnd_le_lowEnd_of_scale_lt hscale
      · exact highEnd_le_lowEnd_of_scale_eq hscale h
      · exact absurd (magnitude_lt_of_scale_lt hscale) (Nat.not_lt_of_gt h)
    have hle : (x.highEnd : ℚ) ≤ y.lowEnd := Nat.cast_le.mpr hends.1
    rcases hx.2 with hlt | ⟨hxEven, hxEnd⟩
    · rcases hy.1 with hgt | ⟨-, hyEnd⟩
      · exact absurd (hlt.trans_le hle) hgt.not_gt
      · exact absurd (hlt.trans_le hle) hyEnd.not_gt
    · rcases hy.1 with hgt | ⟨hyEven, hyEnd⟩
      · exact absurd (hxEnd.trans_le hle) hgt.not_ge
      · exact hends.2 (Nat.cast_injective (hxEnd.symm.trans hyEnd.symm)) ⟨hxEven, hyEven⟩
  exact Nat.le_antisymm (Nat.le_of_not_lt (hdisjoint hy hx)) (Nat.le_of_not_lt (hdisjoint hx hy))

/-- A double other than zero rounds to itself. -/
lemma covers_magnitude {x : Binary64} (h : x.significand ≠ 0) : x.Covers (4 * x.magnitude : ℕ) := by
  have hscale := Nat.two_pow_pos x.scale
  have hmagnitude : 4 * x.magnitude = 4 * x.significand * 2 ^ x.scale := by
    rw [magnitude, Nat.mul_assoc]
  refine ⟨.inl (Nat.cast_lt.mpr ?_), .inl (Nat.cast_lt.mpr ?_)⟩
  · rw [lowEnd, hmagnitude]
    exact Nat.mul_lt_mul_of_pos_right (by split <;> omega) hscale
  · rw [highEnd, hmagnitude]
    exact Nat.mul_lt_mul_of_pos_right (by omega) hscale

/-- What rounds to a double other than zero is positive. -/
lemma pos_of_covers {x : Binary64} (h : x.significand ≠ 0) {v : ℚ} (hv : x.Covers v) : 0 < v := by
  have hlow : (0 : ℚ) < x.lowEnd := by
    rw [Nat.cast_pos, lowEnd]
    exact Nat.mul_pos (by split <;> omega) (Nat.two_pow_pos _)
  rcases hv.1 with hgt | ⟨-, heq⟩
  · exact hlow.trans hgt
  · exact hlow.trans_eq heq

/-! ## The test -/

/-- A power with a negative exponent is a quotient. -/
lemma zpow_mul_pow_toNat_neg {b : ℚ} (hb : b ≠ 0) (i : ℤ) :
    b ^ i * b ^ (-i).toNat = b ^ i.toNat := by
  rw [← zpow_natCast, ← zpow_natCast, ← zpow_add₀ hb]
  congr 1
  omega

/-- **The comparison in integer arithmetic** is the one of rational numbers: both sides are
multiplied by the denominators of the two. -/
lemma compareScaled_iff (a : ℕ) (i : ℤ) (n : ℕ) (j : ℤ) :
    (compareScaled a i n j = .lt ↔ (a : ℚ) * 10 ^ i < n * 2 ^ j) ∧
      (compareScaled a i n j = .eq ↔ (a : ℚ) * 10 ^ i = n * 2 ^ j) ∧
      (compareScaled a i n j = .gt ↔ (n : ℚ) * 2 ^ j < a * 10 ^ i) := by
  have hten : (10 : ℚ) ≠ 0 := by norm_num
  have hfactor : (0 : ℚ) < 2 ^ (-j).toNat * 10 ^ (-i).toNat := by positivity
  have hleft : ((a * 10 ^ i.toNat * 2 ^ (-j).toNat : ℕ) : ℚ) =
      a * 10 ^ i * (2 ^ (-j).toNat * 10 ^ (-i).toNat) := by
    push_cast
    rw [← zpow_mul_pow_toNat_neg hten]
    ring
  have hright : ((n * 2 ^ j.toNat * 10 ^ (-i).toNat : ℕ) : ℚ) =
      n * 2 ^ j * (2 ^ (-j).toNat * 10 ^ (-i).toNat) := by
    push_cast
    rw [← zpow_mul_pow_toNat_neg two_ne_zero]
    ring
  rw [compareScaled, Nat.compare_eq_lt, Nat.compare_eq_eq, Nat.compare_eq_gt,
    ← Nat.cast_lt (α := ℚ), ← Nat.cast_inj (R := ℚ), ← Nat.cast_lt (α := ℚ), hleft, hright]
  exact ⟨mul_lt_mul_iff_left₀ hfactor, mul_left_inj' hfactor.ne', mul_lt_mul_iff_left₀ hfactor⟩

/-- An end of the interval as the test has it. -/
lemma quarters_mul_zpow (x : Binary64) (n : ℕ) :
    (n : ℚ) * 2 ^ (x.exponent - 2) * 2 ^ (1076 : ℤ) = (n * 2 ^ x.scale : ℕ) := by
  rw [mul_assoc, ← zpow_add₀ two_ne_zero]
  have hsum : x.exponent - 2 + 1076 = x.scale := by
    rw [exponent]
    omega
  rw [hsum, zpow_natCast]
  push_cast
  rfl

/-- **The test asks whether the decimal rounds to the double.** -/
theorem readsBack_iff {x : Binary64} {d : Decimal} :
    x.readsBack d = true ↔ x.Covers (d.value * 2 ^ (1076 : ℤ)) := by
  have hunit : (0 : ℚ) < 2 ^ (1076 : ℤ) := zpow_pos two_pos _
  rw [readsBack]
  simp only [Bool.and_eq_true, Bool.or_eq_true, beq_iff_eq]
  obtain ⟨-, hlowEq, hlowGt⟩ := compareScaled_iff d.digits d.exponent
    (if x.narrowBelow then 4 * x.significand - 1 else 4 * x.significand - 2) (x.exponent - 2)
  obtain ⟨hhighLt, hhighEq, -⟩ := compareScaled_iff d.digits d.exponent
    (4 * x.significand + 2) (x.exponent - 2)
  rw [hlowEq, hlowGt, hhighLt, hhighEq, Covers, lowEnd, highEnd, ← quarters_mul_zpow,
    ← quarters_mul_zpow, mul_lt_mul_iff_left₀ hunit, mul_lt_mul_iff_left₀ hunit,
    mul_left_inj' hunit.ne', mul_left_inj' hunit.ne', Decimal.value,
    eq_comm (a := (d.digits : ℚ) * _)]

/-! ## The search -/

/-- The nearer of two neighbours reads back if both of them do. -/
lemma readsBack_nearer {x : Binary64} {tie : Tie} {below : ℕ} {e : ℤ}
    (hbelow : x.readsBack ⟨below, e⟩ = true) (habove : x.readsBack ⟨below + 1, e⟩ = true) :
    x.readsBack ⟨x.nearer tie below e, e⟩ = true := by
  unfold nearer
  split
  · exact hbelow
  · exact habove
  · cases tie with
    | up => exact habove
    | toEven =>
      dsimp only
      split
      · exact hbelow
      · exact habove

/-- A candidate reads back. -/
lemma readsBack_of_candidate? {x : Binary64} {tie : Tie} {n : ℕ} {d : Decimal}
    (h : x.candidate? tie n = some d) : x.readsBack d = true := by
  unfold candidate? at h
  dsimp only at h
  split at h
  · next hbelow habove =>
    rw [← Option.some.inj h]
    exact readsBack_nearer hbelow habove
  · next hbelow _ =>
    rw [← Option.some.inj h]
    exact hbelow
  · next _ habove =>
    rw [← Option.some.inj h]
    exact habove
  · cases h

/-- The exact decimal has the value of the significand at its binary exponent. -/
lemma value_exactDecimal (x : Binary64) :
    x.exactDecimal.value = x.significand * 2 ^ x.exponent := by
  unfold exactDecimal
  split
  · next hnegative =>
    obtain ⟨n, hn⟩ : ∃ n : ℕ, x.exponent = -n := ⟨x.exponent.natAbs, by omega⟩
    have hpower : (5 : ℚ) ^ n * 10 ^ (-(n : ℤ)) = 2 ^ (-(n : ℤ)) := by
      rw [zpow_neg, zpow_neg, zpow_natCast, zpow_natCast, show (10 : ℚ) = 5 * 2 by norm_num,
        mul_pow, mul_inv, ← mul_assoc, mul_inv_cancel₀ (by positivity), one_mul]
    rw [Decimal.value, hn, Int.natAbs_neg, Int.natAbs_natCast]
    push_cast
    rw [mul_assoc, hpower]
  · next hpositive =>
    obtain ⟨n, hn⟩ : ∃ n : ℕ, x.exponent = n := ⟨x.exponent.toNat, by omega⟩
    rw [Decimal.value, hn, Int.toNat_natCast, zpow_natCast, zpow_zero, mul_one]
    push_cast
    rfl

/-- The exact decimal reads back. -/
lemma covers_exactDecimal {x : Binary64} (h : x.significand ≠ 0) :
    x.Covers (x.exactDecimal.value * 2 ^ (1076 : ℤ)) := by
  have hquarters : x.exactDecimal.value * 2 ^ (1076 : ℤ) = (4 * x.magnitude : ℕ) := by
    have hfour : (2 : ℚ) ^ x.exponent = 4 * 2 ^ (x.exponent - 2) := by
      rw [zpow_sub₀ two_ne_zero]
      norm_num
      ring
    rw [value_exactDecimal, hfour, mul_left_comm, mul_assoc, quarters_mul_zpow, magnitude]
    push_cast
    rfl
  rw [hquarters]
  exact covers_magnitude h

end Binary64

/-- Moving zeros from the digits into the exponent leaves the value. -/
lemma Decimal.value_stripped (d : Decimal) : d.stripped.value = d.value := by
  fun_induction Decimal.stripped d with
  | case1 d hzero => simp [value, hzero]
  | case2 d hzero hten ih =>
    have hdigits : (d.digits : ℚ) = (d.digits / 10 : ℕ) * 10 := by
      exact_mod_cast (Nat.div_mul_cancel (Nat.dvd_of_mod_eq_zero hten)).symm
    rw [ih, value, value, hdigits, zpow_add_one₀ (by norm_num)]
    ring
  | case3 => rfl

namespace Binary64

/-! ## The shortest decimal -/

/-- Zero has the decimal zero. -/
lemma value_shortest_of_zero {x : Binary64} (h : x.significand = 0) (tie : Tie) :
    (x.shortest tie).value = 0 := by
  rw [shortest, if_pos h]
  simp [Decimal.value]

/-- **The shortest decimal reads back**, whether the search finds one or the exact value is taken.
-/
theorem covers_shortest {x : Binary64} (h : x.significand ≠ 0) (tie : Tie) :
    x.Covers ((x.shortest tie).value * 2 ^ (1076 : ℤ)) := by
  rw [shortest, if_neg h, Decimal.value_stripped]
  cases hsearch : (List.range' 1 17).findSome? (x.candidate? tie) with
  | none => exact covers_exactDecimal h
  | some d =>
    obtain ⟨n, -, hcandidate⟩ := List.exists_of_findSome?_eq_some hsearch
    exact readsBack_iff.mp (readsBack_of_candidate? hcandidate)

/-- **The shortest decimal identifies the double**, up to its sign.

**Proof sketch.** The shortest decimal of a double other than zero lies in its interval
(`covers_shortest`) and is positive, and no two magnitudes have a number of their intervals in
common (`magnitude_eq_of_covers`). -/
theorem eq_of_value_shortest {x y : Binary64} {tie tie' : Tie} (hsign : x.negative = y.negative)
    (hvalue : (x.shortest tie).value = (y.shortest tie').value) : x = y := by
  have hpositive : ∀ {x : Binary64} {tie : Tie}, x.significand ≠ 0 →
      (x.shortest tie).value ≠ 0 := by
    intro x tie h hzero
    have hpos := pos_of_covers h (covers_shortest h tie)
    rw [hzero, zero_mul] at hpos
    exact lt_irrefl _ hpos
  refine eq_of_magnitude hsign ?_
  by_cases hx : x.significand = 0
  · by_cases hy : y.significand = 0
    · rw [magnitude, magnitude, hx, hy, Nat.zero_mul, Nat.zero_mul]
    · exact absurd (hvalue.symm.trans (value_shortest_of_zero hx tie)) (hpositive hy)
  · by_cases hy : y.significand = 0
    · exact absurd (hvalue.trans (value_shortest_of_zero hy tie')) (hpositive hx)
    · refine magnitude_eq_of_covers (covers_shortest hx tie) ?_
      rw [hvalue]
      exact covers_shortest hy tie'

end Binary64

end DataGrid
