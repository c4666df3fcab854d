import DataGrid.Decimal.Layout
import DataGrid.Proofs.Decimal.Numerals
import DataGrid.Proofs.Decimal.Shortest

/-!
# The texts of doubles

The text of a double is a decimal that has the value of its shortest decimal, wherever the layout
puts the point. Since a text is at most one decimal, and shortest decimals identify their doubles,
no two doubles have the same text. The same holds for integers, and where whole numbers keep a
fraction, a double does not have the text of an integer.

## Main results

* `DataGrid.IsDecimal.unique` — a text is at most one decimal.
* `DataGrid.Layout.isDecimal_render` — the text of a double is a decimal.
* `DataGrid.Layout.render_injective` — different doubles have different texts.
* `DataGrid.intText_injective` — so do different integers.
-/

namespace DataGrid

/-! ## Digits -/

/-- The value of digits, with the name that the library has for it. -/
lemma digitsValue_eq_ofDigitChars (cs : List Char) :
    digitsValue cs = Nat.ofDigitChars 10 cs 0 :=
  rfl

/-- Digits in two parts. -/
lemma digitsValue_append (cs ds : List Char) :
    digitsValue (cs ++ ds) = 10 ^ ds.length * digitsValue cs + digitsValue ds := by
  rw [digitsValue_eq_ofDigitChars, Nat.ofDigitChars_append, Nat.ofDigitChars_eq_ofDigitChars_zero]
  rfl

/-- Zeros are worth nothing. -/
lemma digitsValue_replicate_zero (n : ℕ) : digitsValue (List.replicate n '0') = 0 := by
  rw [digitsValue_eq_ofDigitChars, Nat.ofDigitChars_replicate_zero, Nat.mul_zero]

/-- Zeros in front of digits leave their value. -/
lemma digitsValue_zeros_append (n : ℕ) (cs : List Char) :
    digitsValue (List.replicate n '0' ++ cs) = digitsValue cs := by
  rw [digitsValue_append, digitsValue_replicate_zero, Nat.mul_zero, Nat.zero_add]

/-- Zeros behind digits multiply their value by powers of ten. -/
lemma digitsValue_append_zeros (n : ℕ) (cs : List Char) :
    digitsValue (cs ++ List.replicate n '0') = 10 ^ n * digitsValue cs := by
  rw [digitsValue_append, digitsValue_replicate_zero, List.length_replicate, Nat.add_zero]

/-- Zeros are digits. -/
lemma areDigits_zeros (n : ℕ) : AreDigits (List.replicate n '0') := by
  intro c hc
  rw [List.eq_of_mem_replicate hc]
  decide

/-- Digits behind digits are digits. -/
lemma AreDigits.append {cs ds : List Char} (hcs : AreDigits cs) (hds : AreDigits ds) :
    AreDigits (cs ++ ds) := by
  intro c hc
  exact (List.mem_append.mp hc).elim (hcs c) (hds c)

/-- The digits of a number are digits. -/
lemma areDigits_natDigits (n : ℕ) : AreDigits (natDigits n) :=
  fun _ hc => Nat.isDigit_of_mem_toDigits (by decide) (by decide) hc

/-- A number has digits. -/
lemma natDigits_ne_nil (n : ℕ) : natDigits n ≠ [] := Nat.toDigits_ne_nil

/-- The digits of a number have its value. -/
lemma digitsValue_natDigits (n : ℕ) : digitsValue (natDigits n) = n := Nat.ofDigitChars_ten_toDigits

/-! ## Unique parts -/

/-- The parts of a decimal without a sign can be told from its text. -/
lemma parts_unique {whole point fraction tail whole' point' fraction' tail' : List Char}
    {exponent exponent' : ℤ} (hwhole : AreDigits whole) (hpoint : IsFraction point fraction)
    (htail : IsExponent tail exponent) (hwhole' : AreDigits whole')
    (hpoint' : IsFraction point' fraction') (htail' : IsExponent tail' exponent')
    (h : whole ++ (point ++ tail) = whole' ++ (point' ++ tail')) :
    whole = whole' ∧ fraction = fraction' ∧ tail = tail' := by
  have hstop : ∀ {point fraction tail : List Char} {exponent : ℤ}, IsFraction point fraction →
      IsExponent tail exponent → ∀ c, (point ++ tail).head? = some c → c.isDigit = false := by
    rintro point fraction tail exponent (_ | _) htail c hc
    · exact htail.isDigit_head? hc
    · rw [List.cons_append, List.head?_cons, Option.some.injEq] at hc
      rw [← hc]
      decide
  obtain ⟨htake, hdrop⟩ := takeWhile_digits hwhole (hstop hpoint htail)
  obtain ⟨htake', hdrop'⟩ := takeWhile_digits hwhole' (hstop hpoint' htail')
  have hrest : point ++ tail = point' ++ tail' := by rw [← hdrop, h, hdrop']
  refine ⟨by rw [← htake, h, htake'], ?_⟩
  cases hpoint with
  | nothing =>
    cases hpoint' with
    | nothing => exact ⟨rfl, hrest⟩
    | written _ => exact absurd (by rw [← List.nil_append tail, hrest]; rfl) htail.head?_ne_point
  | written hfraction =>
    cases hpoint' with
    | nothing => exact absurd (by rw [← List.nil_append tail', ← hrest]; rfl) htail'.head?_ne_point
    | written hfraction' =>
      have hbehind : fraction ++ tail = fraction' ++ tail' := (List.cons.inj hrest).2
      obtain ⟨htake, hdrop⟩ := takeWhile_digits hfraction fun c => htail.isDigit_head?
      obtain ⟨htake', hdrop'⟩ := takeWhile_digits hfraction' fun c => htail'.isDigit_head?
      exact ⟨by rw [← htake, hbehind, htake'], by rw [← hdrop, hbehind, hdrop']⟩

/-- **A text is at most one decimal.** -/
theorem IsDecimal.unique {cs : List Char} {negative negative' : Bool} {n n' : ℕ} {e e' : ℤ}
    (h : IsDecimal cs negative n e) (h' : IsDecimal cs negative' n' e') :
    negative = negative' ∧ n = n' ∧ e = e' := by
  generalize hcs : cs = ds at h'
  obtain ⟨hsign, hwhole, hpoint, htail, hsome⟩ := h
  obtain ⟨hsign', hwhole', hpoint', htail', hsome'⟩ := h'
  next sign whole point fraction tail exponent sign' whole' point' fraction' tail' exponent' =>
  have htake := takeSign_decimal hsign hwhole hpoint hsome tail
  have htake' := takeSign_decimal hsign' hwhole' hpoint' hsome' tail'
  rw [hcs, htake'] at htake
  obtain ⟨hnegative, hbody⟩ := Prod.mk.inj htake
  obtain ⟨rfl, rfl, rfl⟩ := parts_unique hwhole' hpoint' htail' hwhole hpoint htail hbody
  have hexponent : exponent = exponent' := Option.some.inj <|
    (decimalExponent?_eq_some.mpr htail).symm.trans (decimalExponent?_eq_some.mpr htail')
  exact ⟨hnegative.symm, rfl, by rw [hexponent]⟩

/-! ## Texts of doubles -/

/-- A text with the parts of a decimal, and its value. -/
lemma exists_isDecimal {text sign whole point fraction tail : List Char} {exponent : ℤ}
    (htext : text = whole ++ (point ++ tail)) (hsign : IsSign sign) (hwhole : AreDigits whole)
    (hpoint : IsFraction point fraction) (htail : IsExponent tail exponent)
    (hsome : whole ++ fraction ≠ []) :
    ∃ d : Decimal, IsDecimal (sign ++ text) (decide (sign = ['-'])) d.digits d.exponent ∧
      d.value = digitsValue (whole ++ fraction) * 10 ^ (exponent - fraction.length) := by
  rw [htext]
  exact ⟨⟨_, _⟩, .mk hsign hwhole hpoint htail hsome, rfl⟩

namespace Layout

section

variable {sign digits : List Char} (hsign : IsSign sign) (hdigits : AreDigits digits)
  (hsome : digits ≠ [])

include hsign hdigits in
/-- Digits behind a point and zeros. -/
lemma isDecimal_fractionText (zeros : ℕ) :
    ∃ d : Decimal, IsDecimal (sign ++ '0' :: '.' :: (List.replicate zeros '0' ++ digits))
      (decide (sign = ['-'])) d.digits d.exponent ∧
      d.value = digitsValue digits * 10 ^ (-zeros - digits.length : ℤ) := by
  obtain ⟨d, hd, hvalue⟩ := exists_isDecimal
    (show '0' :: '.' :: (List.replicate zeros '0' ++ digits) =
      ['0'] ++ ('.' :: (List.replicate zeros '0' ++ digits) ++ []) by rw [List.append_nil]; rfl)
    hsign (areDigits_zeros 1) (.written ((areDigits_zeros zeros).append hdigits)) .nothing
    (List.cons_ne_nil _ _)
  have hdigitsValue : digitsValue (['0'] ++ (List.replicate zeros '0' ++ digits)) =
      digitsValue digits := by
    rw [show ['0'] = List.replicate 1 '0' from rfl, digitsValue_zeros_append,
      digitsValue_zeros_append]
  have hexponent : 0 - ((List.replicate zeros '0' ++ digits).length : ℤ) =
      -zeros - digits.length := by
    rw [List.length_append, List.length_replicate]
    omega
  exact ⟨d, hd, by rw [hvalue, hdigitsValue, hexponent]⟩

include hsign hdigits hsome in
/-- Digits with zeros behind them, and maybe a point and one more zero. -/
lemma isDecimal_wholeText (zeros : ℕ) (pointZero : Bool) :
    ∃ d : Decimal, IsDecimal (sign ++ (digits ++ List.replicate zeros '0' ++
        if pointZero then ['.', '0'] else [])) (decide (sign = ['-'])) d.digits d.exponent ∧
      d.value = digitsValue digits * 10 ^ (zeros : ℤ) := by
  have hwhole := hdigits.append (areDigits_zeros zeros)
  have hnonempty : ∀ cs, digits ++ List.replicate zeros '0' ++ cs ≠ [] := by
    intro cs
    rw [List.append_assoc]
    exact List.append_ne_nil_of_left_ne_nil hsome _
  have hdigitsValue := digitsValue_append_zeros zeros digits
  cases pointZero with
  | false =>
    obtain ⟨d, hd, hvalue⟩ := exists_isDecimal
      (show digits ++ List.replicate zeros '0' ++ [] =
        digits ++ List.replicate zeros '0' ++ ([] ++ []) from rfl)
      hsign hwhole .nothing .nothing (hnonempty [])
    refine ⟨d, hd, ?_⟩
    rw [hvalue, List.append_nil, hdigitsValue, zpow_natCast]
    push_cast
    rw [List.length_nil, Int.natCast_zero, sub_zero, zpow_zero]
    ring
  | true =>
    obtain ⟨d, hd, hvalue⟩ := exists_isDecimal
      (show digits ++ List.replicate zeros '0' ++ ['.', '0'] =
        digits ++ List.replicate zeros '0' ++ (['.', '0'] ++ []) from rfl)
      hsign hwhole (.written (areDigits_zeros 1)) .nothing (hnonempty _)
    have hpadded : digitsValue (digits ++ List.replicate zeros '0' ++ ['0']) =
        10 ^ 1 * (10 ^ zeros * digitsValue digits) := by
      rw [← hdigitsValue]
      exact digitsValue_append_zeros 1 _
    refine ⟨d, hd, ?_⟩
    rw [hvalue, hpadded, zpow_natCast, List.length_singleton, Int.natCast_one, zero_sub,
      zpow_neg_one]
    push_cast
    ring

include hsign hdigits hsome in
/-- Digits with a plain point are a decimal, with `whole` of the digits before the point. -/
lemma isDecimal_plainText (l : Layout) (whole : ℤ) :
    ∃ d : Decimal, IsDecimal (sign ++ l.plainText digits whole) (decide (sign = ['-']))
      d.digits d.exponent ∧ d.value = digitsValue digits * 10 ^ (whole - digits.length) := by
  rw [plainText]
  split
  · next hwhole =>
    obtain ⟨d, hd, hvalue⟩ := isDecimal_fractionText hsign hdigits whole.natAbs
    have hzeros : (-whole.natAbs : ℤ) = whole := by omega
    exact ⟨d, hd, by rw [hvalue, hzeros]⟩
  · next hwhole =>
    split
    · next hlength =>
      obtain ⟨d, hd, hvalue⟩ := isDecimal_wholeText hsign hdigits hsome
        (whole.toNat - digits.length) l.pointZero
      have hzeros : ((whole.toNat - digits.length : ℕ) : ℤ) = whole - digits.length := by omega
      exact ⟨d, hd, by rw [hvalue, hzeros]⟩
    · next hlength =>
      obtain ⟨d, hd, hvalue⟩ := exists_isDecimal
        (show digits.take whole.toNat ++ '.' :: digits.drop whole.toNat =
          digits.take whole.toNat ++ ('.' :: digits.drop whole.toNat ++ []) by rw [List.append_nil])
        hsign (fun c hc => hdigits c (List.mem_of_mem_take hc))
        (.written fun c hc => hdigits c (List.mem_of_mem_drop hc)) .nothing
        (by rwa [List.take_append_drop])
      have hexponent : 0 - ((digits.drop whole.toNat).length : ℤ) = whole - digits.length := by
        rw [List.length_drop]
        omega
      exact ⟨d, hd, by rw [hvalue, hexponent, List.take_append_drop]⟩

/-- An exponent with its sign is one. -/
lemma isExponent_scientific (exponent : ℤ) :
    IsExponent ('e' :: (if exponent < 0 then '-' else '+') :: natDigits exponent.natAbs)
      exponent := by
  have hdigits := areDigits_natDigits exponent.natAbs
  refine .written (.inl rfl) ?_
  split
  · next hnegative =>
    have hinteger := IsInteger.mk .minus hdigits (natDigits_ne_nil _)
    rwa [if_pos rfl, digitsValue_natDigits, show -(exponent.natAbs : ℤ) = exponent by omega]
      at hinteger
  · next hpositive =>
    have hinteger := IsInteger.mk .plus hdigits (natDigits_ne_nil _)
    rwa [if_neg (by decide), digitsValue_natDigits,
      show (exponent.natAbs : ℤ) = exponent by omega] at hinteger

include hsign hdigits hsome in
/-- Digits with an exponent are a decimal, with the point behind the first of them. -/
lemma isDecimal_scientificText (exponent : ℤ) :
    ∃ d : Decimal, IsDecimal (sign ++ scientificText digits exponent) (decide (sign = ['-']))
      d.digits d.exponent ∧
      d.value = digitsValue digits * 10 ^ (exponent + 1 - digits.length) := by
  have hpoint : IsFraction (if (digits.drop 1).isEmpty then [] else '.' :: digits.drop 1)
      (digits.drop 1) := by
    split
    · next hempty =>
      rw [List.isEmpty_iff.mp hempty]
      exact .nothing
    · exact .written fun c hc => hdigits c (List.mem_of_mem_drop hc)
  obtain ⟨d, hd, hvalue⟩ := exists_isDecimal
    (show scientificText digits exponent = digits.take 1 ++ (_ ++ _) from List.append_assoc _ _ _)
    hsign (fun c hc => hdigits c (List.mem_of_mem_take hc)) hpoint
    (isExponent_scientific exponent) (by rwa [List.take_append_drop])
  have hlength := List.length_pos_iff.mpr hsome
  have hexponent : exponent - ((digits.drop 1).length : ℤ) = exponent + 1 - digits.length := by
    rw [List.length_drop]
    omega
  exact ⟨d, hd, by rw [hvalue, hexponent, List.take_append_drop]⟩

end

/-- The text of a magnitude, with a sign or without one, is a decimal of the same value. -/
lemma isDecimal_magnitudeText (l : Layout) {sign : List Char} (hsign : IsSign sign) (d : Decimal) :
    ∃ d' : Decimal, IsDecimal (sign ++ l.magnitudeText d) (decide (sign = ['-']))
      d'.digits d'.exponent ∧ d'.value = d.value := by
  have hdigits := areDigits_natDigits d.digits
  have hsome := natDigits_ne_nil d.digits
  have hplain : ∃ d' : Decimal, IsDecimal (sign ++ l.plainText (natDigits d.digits)
      (d.exponent + (natDigits d.digits).length - 1 + 1)) (decide (sign = ['-']))
      d'.digits d'.exponent ∧ d'.value = d.value := by
    obtain ⟨d', hd', hvalue⟩ := l.isDecimal_plainText hsign hdigits hsome
      (d.exponent + (natDigits d.digits).length - 1 + 1)
    refine ⟨d', hd', ?_⟩
    rw [hvalue, digitsValue_natDigits, Decimal.value, sub_add_cancel, add_sub_cancel_right]
  unfold magnitudeText
  split
  · exact hplain
  · next low high _ =>
    dsimp only
    split
    · exact hplain
    · obtain ⟨d', hd', hvalue⟩ := isDecimal_scientificText hsign hdigits hsome
        (d.exponent + (natDigits d.digits).length - 1)
      refine ⟨d', hd', ?_⟩
      rw [hvalue, digitsValue_natDigits, Decimal.value, sub_add_cancel, add_sub_cancel_right]

/-- **The text of a double** is a decimal with its sign, of the value of its shortest decimal. -/
theorem isDecimal_render (l : Layout) (x : Binary64) :
    ∃ d : Decimal, IsDecimal (l.render x).toList x.negative d.digits d.exponent ∧
      d.value = (x.shortest l.tie).value := by
  rw [render, String.toList_ofList]
  cases x.negative with
  | false => exact l.isDecimal_magnitudeText .nothing (x.shortest l.tie)
  | true => exact l.isDecimal_magnitudeText .minus (x.shortest l.tie)

/-- **Different doubles have different texts**, whatever the layout is. -/
theorem render_injective (l : Layout) {x y : Binary64} (h : l.render x = l.render y) : x = y := by
  obtain ⟨d, hd, hvalue⟩ := l.isDecimal_render x
  obtain ⟨d', hd', hvalue'⟩ := l.isDecimal_render y
  rw [h] at hd
  obtain ⟨hsign, hdigits, hexponent⟩ := hd.unique hd'
  have hsame : (x.shortest l.tie).value = (y.shortest l.tie).value := by
    rw [← hvalue, ← hvalue', Decimal.value, Decimal.value, hdigits, hexponent]
  exact Binary64.eq_of_value_shortest hsign hsame

end Layout

/-! ## Texts of integers -/

/-- The text of an integer is one. -/
lemma isInteger_intText (n : ℤ) : IsInteger (intText n).toList n := by
  have hdigits := areDigits_natDigits n.natAbs
  have hsome := natDigits_ne_nil n.natAbs
  rw [intText, String.toList_ofList]
  split
  · next hnegative =>
    have hinteger := IsInteger.mk .minus hdigits hsome
    rwa [if_pos rfl, digitsValue_natDigits, show -(n.natAbs : ℤ) = n by omega] at hinteger
  · next hpositive =>
    have hinteger := IsInteger.mk .nothing hdigits hsome
    rwa [if_neg (by decide), digitsValue_natDigits, show (n.natAbs : ℤ) = n by omega] at hinteger

/-- **Different integers have different texts.** -/
theorem intText_injective {m n : ℤ} (h : intText m = intText n) : m = n := by
  have hread := integerOfChars?_eq_some.mpr (isInteger_intText m)
  rw [h, integerOfChars?_eq_some.mpr (isInteger_intText n)] at hread
  exact (Option.some.inj hread).symm

end DataGrid
