import DataGrid.Proofs.Decimal.Shortest

/-!
# Doubles of natural numbers

A natural number of 53 bits or more is rounded to 53 significant bits, wherever the point stands in
front of them, and the rounded number is the magnitude of a double as long as this is not too large.

## Main results

* `DataGrid.nearest53_mul_two_pow` — scaling by a power of two and rounding can be exchanged.
* `DataGrid.nearest53_mono` — rounding keeps the order.
* `DataGrid.Binary64.exists_ofMagnitude?` — a scaled significand of 53 bits is a magnitude.
* `DataGrid.Binary64.exists_ofDecimal?_natural` — the double nearest to a natural number.
-/

namespace DataGrid

/-! ## Rounding -/

/-- A factor `2 ^ k` adds `k` binary digits. -/
lemma log2_mul_two_pow {n : ℕ} (hn : n ≠ 0) (k : ℕ) : (n * 2 ^ k).log2 = n.log2 + k := by
  rw [Nat.log2_eq_iff (Nat.mul_ne_zero hn (Nat.two_pow_pos k).ne')]
  constructor
  · rw [Nat.pow_add]
    exact Nat.mul_le_mul_right _ (Nat.log2_self_le hn)
  · rw [show n.log2 + k + 1 = n.log2 + 1 + k by omega, Nat.pow_add]
    exact Nat.mul_lt_mul_of_pos_right Nat.lt_log2_self (Nat.two_pow_pos k)

/-- A number of 53 bits or more has its first binary digit at place 52 or higher. -/
lemma le_log2 {n : ℕ} (hn : 2 ^ 52 ≤ n) : 52 ≤ n.log2 :=
  (Nat.le_log2 (by omega)).mpr hn

/-- Larger numbers have no fewer binary digits. -/
lemma log2_mono {m n : ℕ} (h : m ≤ n) : m.log2 ≤ n.log2 := by
  by_cases hm : m = 0
  · rw [hm]
    exact Nat.zero_le _
  · exact (Nat.le_log2 (by omega)).mpr ((Nat.log2_self_le hm).trans h)

/-- A natural number is rounded to a multiple of the unit, the value of the last of its first 53
binary digits. -/
lemma nearest53_one {n unit : ℕ} (hunit : unit = 2 ^ (n.log2 - 52)) :
    nearest53 n 1 = if 2 * (n % unit) < unit ∨ (2 * (n % unit) = unit ∧ n / unit % 2 = 0) then
      n / unit * unit else (n / unit + 1) * unit := by
  rw [nearest53, Nat.div_one, Nat.one_mul, ← hunit]

/-- A number of at most 53 significant bits is its own rounding. -/
lemma nearest53_of_dvd {n : ℕ} (h : 2 ^ (n.log2 - 52) ∣ n) : nearest53 n 1 = n := by
  have hrest : n % (1 * 2 ^ (n.log2 - 52)) = 0 := by
    rw [Nat.one_mul]
    exact Nat.mod_eq_zero_of_dvd h
  rw [nearest53, Nat.div_one, hrest, if_pos (.inl (by positivity)), Nat.one_mul,
    Nat.div_mul_cancel h]

/-- A factor `2 ^ k` does not change how a number of 53 bits or more is rounded. -/
lemma nearest53_mul_two_pow_of_le {n : ℕ} (hn : 2 ^ 52 ≤ n) (k : ℕ) :
    nearest53 (n * 2 ^ k) 1 = nearest53 n 1 * 2 ^ k := by
  have hlog := le_log2 hn
  have hk := Nat.two_pow_pos k
  obtain ⟨unit, hunit⟩ : ∃ unit, unit = 2 ^ (n.log2 - 52) := ⟨_, rfl⟩
  have hscaled : unit * 2 ^ k = 2 ^ ((n * 2 ^ k).log2 - 52) := by
    rw [log2_mul_two_pow (by omega), hunit, ← Nat.pow_add]
    congr 1
    omega
  -- The remainder grows like the unit and stays on the same side of the middle.
  have hlt : 2 * (n % unit * 2 ^ k) < unit * 2 ^ k ↔ 2 * (n % unit) < unit := by
    rw [← Nat.mul_assoc]
    exact Nat.mul_lt_mul_right hk
  have heq : 2 * (n % unit * 2 ^ k) = unit * 2 ^ k ↔ 2 * (n % unit) = unit := by
    rw [← Nat.mul_assoc]
    exact Nat.mul_left_inj hk.ne'
  rw [nearest53_one hscaled, nearest53_one hunit, Nat.mul_div_mul_right _ _ hk,
    Nat.mul_mod_mul_right]
  simp only [hlt, heq]
  split <;> rw [Nat.mul_assoc]

/-- **A factor `2 ^ k` does not change how a number is rounded.** Numbers of less than 53 bits are
not rounded at all. -/
theorem nearest53_mul_two_pow (n k : ℕ) : nearest53 (n * 2 ^ k) 1 = nearest53 n 1 * 2 ^ k := by
  by_cases hn : 2 ^ 52 ≤ n
  · exact nearest53_mul_two_pow_of_le hn k
  by_cases hzero : n = 0
  · simp [hzero, nearest53]
  · have hlog : n.log2 < 52 := (Nat.log2_lt hzero).mpr (by omega)
    have hunscaled : 2 ^ (n.log2 - 52) ∣ n := by
      rw [Nat.sub_eq_zero_of_le hlog.le, Nat.pow_zero]
      exact Nat.one_dvd n
    have hscaled : 2 ^ ((n * 2 ^ k).log2 - 52) ∣ n * 2 ^ k := by
      rw [log2_mul_two_pow hzero]
      exact Dvd.dvd.mul_left (Nat.pow_dvd_pow 2 (by omega)) n
    rw [nearest53_of_dvd hscaled, nearest53_of_dvd hunscaled]

/-- Rounding does not fall below a multiple of the unit. -/
lemma mul_le_nearest53 {n k : ℕ} (h : k * 2 ^ (n.log2 - 52) ≤ n) :
    k * 2 ^ (n.log2 - 52) ≤ nearest53 n 1 := by
  obtain ⟨unit, hunit⟩ : ∃ unit, unit = 2 ^ (n.log2 - 52) := ⟨_, rfl⟩
  have hpos : 0 < unit := hunit ▸ Nat.two_pow_pos _
  rw [← hunit] at h ⊢
  have hk : k ≤ n / unit := (Nat.le_div_iff_mul_le hpos).mpr h
  rw [nearest53_one hunit]
  split
  · exact Nat.mul_le_mul_right unit hk
  · exact Nat.mul_le_mul_right unit (by omega)

/-- Rounding does not rise above a multiple of the unit. -/
lemma nearest53_le_mul {n k : ℕ} (h : n ≤ k * 2 ^ (n.log2 - 52)) :
    nearest53 n 1 ≤ k * 2 ^ (n.log2 - 52) := by
  obtain ⟨unit, hunit⟩ : ∃ unit, unit = 2 ^ (n.log2 - 52) := ⟨_, rfl⟩
  have hpos : 0 < unit := hunit ▸ Nat.two_pow_pos _
  rw [← hunit] at h ⊢
  have hfloor : n / unit * unit ≤ n := Nat.div_mul_le_self n unit
  rw [nearest53_one hunit]
  split
  · omega
  · next hup =>
    refine Nat.mul_le_mul_right unit ?_
    -- The number is no multiple of the unit, as these are rounded down.
    have hlt : n < k * unit := by
      refine Nat.lt_of_le_of_ne h fun heq => hup (.inl ?_)
      rw [heq, Nat.mul_mod_left]
      omega
    exact (Nat.div_lt_iff_lt_mul hpos).mpr hlt

/-- Rounding to one unit keeps the order: either a multiple of the unit is between the numbers, or
they differ in their remainders only, and the smaller one is rounded down if the larger one is. -/
lemma nearest53_mono_of_unit {m n : ℕ} (h : m ≤ n) (hunits : m.log2 - 52 = n.log2 - 52) :
    nearest53 m 1 ≤ nearest53 n 1 := by
  obtain ⟨unit, hunit⟩ : ∃ unit, unit = 2 ^ (n.log2 - 52) := ⟨_, rfl⟩
  have hpos : 0 < unit := hunit ▸ Nat.two_pow_pos _
  by_cases hquotients : m / unit = n / unit
  · have hm := Nat.div_add_mod m unit
    have hn := Nat.div_add_mod n unit
    rw [nearest53_one (hunit.trans (by rw [hunits])), nearest53_one hunit]
    rw [hquotients] at hm ⊢
    have hremainders : m % unit ≤ n % unit := by omega
    split
    · split
      · exact Nat.le_refl _
      · exact Nat.mul_le_mul_right unit (Nat.le_succ _)
    · rw [if_neg (by omega)]
  · have hlt : m / unit < n / unit := Nat.lt_of_le_of_ne (Nat.div_le_div_right h) hquotients
    have hbelow : m ≤ n / unit * unit := ((Nat.div_lt_iff_lt_mul hpos).mp hlt).le
    have habove : n / unit * unit ≤ n := Nat.div_mul_le_self n unit
    rw [hunit] at hbelow habove
    refine Nat.le_trans ?_ (mul_le_nearest53 habove)
    rw [← hunits] at hbelow ⊢
    exact nearest53_le_mul hbelow

/-- **Rounding is monotone.**

**Proof sketch.** Numbers with different units have a power of two between them. It is a multiple of
both units, so neither number is rounded beyond it. -/
theorem nearest53_mono {m n : ℕ} (h : m ≤ n) : nearest53 m 1 ≤ nearest53 n 1 := by
  by_cases hunits : m.log2 - 52 = n.log2 - 52
  · exact nearest53_mono_of_unit h hunits
  · have hlog : m.log2 < n.log2 := by
      have hle := log2_mono h
      omega
    have hn : n ≠ 0 := by
      rintro rfl
      exact absurd hlog (Nat.not_lt_zero _)
    have hmultiple {k : ℕ} (hk : k ≤ n.log2) : 2 ^ n.log2 = 2 ^ (n.log2 - k) * 2 ^ k := by
      rw [← Nat.pow_add, Nat.sub_add_cancel hk]
    have hbelow : m ≤ 2 ^ n.log2 :=
      Nat.lt_log2_self.le.trans (Nat.pow_le_pow_right (by decide) hlog)
    have habove : 2 ^ n.log2 ≤ n := Nat.log2_self_le hn
    calc nearest53 m 1 ≤ 2 ^ n.log2 := by
          rw [hmultiple (k := m.log2 - 52) (by omega)] at hbelow ⊢
          exact nearest53_le_mul hbelow
      _ ≤ nearest53 n 1 := by
          rw [hmultiple (k := n.log2 - 52) (by omega)] at habove ⊢
          exact mul_le_nearest53 habove

/-- A rounded number is a significand of 53 bits, scaled as far as the number is long. -/
lemma exists_nearest53_eq {n : ℕ} (hn : 2 ^ 52 ≤ n) : ∃ significand scale,
    nearest53 n 1 = significand * 2 ^ scale ∧ 2 ^ 52 ≤ significand ∧ significand < 2 ^ 53 ∧
      scale ≤ n.log2 := by
  have hlog := le_log2 hn
  obtain ⟨scale, hscale⟩ : ∃ scale, n.log2 = 52 + scale := Nat.exists_eq_add_of_le hlog
  have hunit : 2 ^ scale = 2 ^ (n.log2 - 52) := by rw [hscale, Nat.add_sub_cancel_left]
  have hlow : 2 ^ 52 ≤ n / 2 ^ scale := by
    rw [Nat.le_div_iff_mul_le (Nat.two_pow_pos _), ← Nat.pow_add, ← hscale]
    exact Nat.log2_self_le (by omega)
  have hhigh : n / 2 ^ scale < 2 ^ 53 := by
    rw [Nat.div_lt_iff_lt_mul (Nat.two_pow_pos _), ← Nat.pow_add,
      show 53 + scale = n.log2 + 1 by omega]
    exact Nat.lt_log2_self
  rw [nearest53_one hunit]
  split
  · exact ⟨n / 2 ^ scale, scale, rfl, hlow, hhigh, by omega⟩
  · by_cases hcarry : n / 2 ^ scale + 1 = 2 ^ 53
    · refine ⟨2 ^ 52, scale + 1, ?_, Nat.le_refl _, by decide, by omega⟩
      rw [hcarry, ← Nat.pow_add, ← Nat.pow_add]
      congr 1
      omega
    · exact ⟨n / 2 ^ scale + 1, scale, rfl, by omega, by omega, by omega⟩

namespace Binary64

/-! ## Bits -/

/-- What is put into the word of a magnitude. -/
lemma ofMagnitude?_eq {negative : Bool} {m shift bits : ℕ} {word : UInt64}
    (hshift : shift = m.log2 - 52) (hbits : bits = shift * 2 ^ 52 + m / 2 ^ shift)
    (hword : word = UInt64.ofNat (if negative then 2 ^ 63 + bits else bits))
    (hsmall : bits < 2047 * 2 ^ 52) (hfinite : (word >>> 52) &&& 0x7FF ≠ 0x7FF) :
    ofMagnitude? negative m = some ⟨word, hfinite⟩ := by
  subst hshift hbits hword
  exact dif_pos ⟨hsmall, hfinite⟩

/-- **A significand of 53 bits, scaled by a power of two**, is the magnitude of a double. -/
theorem exists_ofMagnitude? {significand scale : ℕ} (hlow : 2 ^ 52 ≤ significand)
    (hhigh : significand < 2 ^ 53) (hscale : scale < 2046) (negative : Bool) :
    ∃ x, ofMagnitude? negative (significand * 2 ^ scale) = some x ∧ x.negative = negative ∧
      x.magnitude = significand * 2 ^ scale := by
  have hshift : scale = (significand * 2 ^ scale).log2 - 52 := by
    have hplaces : significand.log2 = 52 :=
      (Nat.log2_eq_iff (by omega)).mpr ⟨hlow, hhigh⟩
    rw [log2_mul_two_pow (by omega), hplaces, Nat.add_sub_cancel_left]
  obtain ⟨bits, hbits⟩ : ∃ bits, bits = scale * 2 ^ 52 + significand := ⟨_, rfl⟩
  obtain ⟨word, hword⟩ : ∃ word, word = UInt64.ofNat (if negative then 2 ^ 63 + bits else bits) :=
    ⟨_, rfl⟩
  have hvalue : word.toNat = if negative then 2 ^ 63 + bits else bits := by
    rw [hword, UInt64.toNat_ofNat_of_lt']
    have hsize : UInt64.size = 2 ^ 64 := rfl
    split <;> omega
  -- The leading bit of the significand carries into the exponent field.
  have hexponent : word.toNat / 2 ^ 52 % 2 ^ 11 = scale + 1 := by
    rw [hvalue]
    split <;> omega
  have hfraction : word.toNat % 2 ^ 52 = significand - 2 ^ 52 := by
    rw [hvalue]
    split <;> omega
  have hfinite : (word >>> 52) &&& 0x7FF ≠ 0x7FF := by
    intro hfull
    have hfull := congrArg UInt64.toNat hfull
    rw [toNat_exponentBits, hexponent] at hfull
    have hmax : (0x7FF : UInt64).toNat = 2047 := rfl
    omega
  refine ⟨⟨word, hfinite⟩, ?_, ?_, ?_⟩
  · have hdiv : bits = scale * 2 ^ 52 + significand * 2 ^ scale / 2 ^ scale := by
      rw [Nat.mul_div_cancel _ (Nat.two_pow_pos _), hbits]
    exact ofMagnitude?_eq hshift hdiv hword (by omega) hfinite
  · cases negative with
    | true =>
      rw [if_pos rfl] at hvalue
      have hsign : 2 ^ 63 ≤ word.toNat := by omega
      exact (negative_iff _).mpr hsign
    | false =>
      rw [if_neg Bool.false_ne_true] at hvalue
      refine Bool.eq_false_iff.mpr fun h => ?_
      have hsign : 2 ^ 63 ≤ word.toNat := (negative_iff _).mp h
      omega
  · rw [← exponentField_eq ⟨word, hfinite⟩] at hexponent
    rw [← fractionField_eq ⟨word, hfinite⟩] at hfraction
    rw [magnitude, Binary64.scale, Binary64.significand, hexponent, hfraction,
      if_neg (Nat.succ_ne_zero _), Nat.add_sub_cancel, Nat.add_sub_cancel' hlow]

/-- The rounded number is the magnitude of a double, in every unit that is not too small. -/
lemma exists_ofMagnitude?_nearest {n k : ℕ} (hlow : 2 ^ 52 ≤ n) (hhigh : n.log2 + k < 2046)
    (negative : Bool) : ∃ x, ofMagnitude? negative (nearest53 n 1 * 2 ^ k) = some x ∧
      x.negative = negative ∧ x.magnitude = nearest53 n 1 * 2 ^ k := by
  obtain ⟨significand, scale, hnearest, hsignificand, hshort, hscale⟩ := exists_nearest53_eq hlow
  rw [hnearest, Nat.mul_assoc, ← Nat.pow_add]
  exact exists_ofMagnitude? hsignificand hshort (by omega) negative

/-- A number of twenty digits at most is neither too small nor too large. -/
lemma ofDecimal?_natural {n : ℕ} (hpos : n ≠ 0) (hn : n < 10 ^ 20) (negative : Bool) :
    ofDecimal? negative n 0 = ofMagnitude? negative (nearest53 (n * 2 ^ 1074) 1) := by
  have hdigits : (Nat.toDigits 10 n).length ≤ 20 :=
    (Nat.length_toDigits_le_iff (by decide) (by decide)).mpr hn
  have hzero : ¬(n = 0 ∨ (0 : ℤ) + (Nat.toDigits 10 n).length < -400) := by omega
  have hlarge : ¬(0 : ℤ) + (Nat.toDigits 10 n).length > 400 := by omega
  have hunits : n * 10 ^ (0 : ℤ).toNat * 2 ^ 1074 = n * 2 ^ 1074 := by
    rw [Int.toNat_zero, Nat.pow_zero, Nat.mul_one]
  unfold ofDecimal?
  rw [if_neg hzero, if_neg hlarge, hunits, Int.neg_zero, Int.toNat_zero, Nat.pow_zero]

/-- **The double nearest to a natural number** of 53 to 64 bits: written as a decimal, the number
becomes a double, whose magnitude is the rounded number.

**Proof sketch.** Counted in units of `2 ^ -1074` the number has a factor `2 ^ 1074` more, which
does not change how it is rounded. -/
theorem exists_ofDecimal?_natural {n : ℕ} (hlow : 2 ^ 52 ≤ n) (hhigh : n < 2 ^ 64)
    (negative : Bool) : ∃ x, ofDecimal? negative n 0 = some x ∧ x.negative = negative ∧
      x.magnitude = nearest53 n 1 * 2 ^ 1074 := by
  have hlog : n.log2 < 64 := (Nat.log2_lt (by omega)).mpr hhigh
  rw [ofDecimal?_natural (by omega) (by omega), nearest53_mul_two_pow]
  exact exists_ofMagnitude?_nearest hlow (by omega) negative

end Binary64

end DataGrid
