import DataGrid.Filter.Value
import Mathlib.Data.List.TakeWhile
import Mathlib.Tactic.Lemma

/-!
# The texts of numbers

Which texts are read as numbers: integers, decimals with a point and an exponent, and both of them
between blanks. The readers take their characters off the front as far as they fit; the texts are
described by their parts.

## Main definitions

* `DataGrid.IsInteger` — an integer of any size, with its value.
* `DataGrid.IsDecimal` — a decimal, with its sign, its digits and its exponent.
* `DataGrid.IsNumberText` — the texts that are numbers.

## Main results

* `DataGrid.integerOfChars?_eq_some`, `DataGrid.decimal?_eq_some` — the readers read exactly these.
* `DataGrid.exists_numberOfText?` — a text is read as a number when it is one.
-/

namespace DataGrid

/-! ## Parts of numbers -/

/-- A sign, or nothing. -/
inductive IsSign : List Char → Prop
  | nothing : IsSign []
  | plus : IsSign ['+']
  | minus : IsSign ['-']

/-- Digits and nothing else, maybe none. -/
def AreDigits (cs : List Char) : Prop := ∀ c ∈ cs, c.isDigit = true

/-- An integer of any size: a sign and at least one digit. -/
inductive IsInteger : List Char → Int → Prop
  | mk {sign digits : List Char} (hsign : IsSign sign) (hdigits : AreDigits digits)
    (hsome : digits ≠ []) :
    IsInteger (sign ++ digits)
      (if sign = ['-'] then -(digitsValue digits : Int) else digitsValue digits)

/-- A point and digits behind it, or nothing. -/
inductive IsFraction : List Char → List Char → Prop
  | nothing : IsFraction [] []
  | written {digits : List Char} (hdigits : AreDigits digits) : IsFraction ('.' :: digits) digits

/-- An `e` and an integer, or nothing. -/
inductive IsExponent : List Char → Int → Prop
  | nothing : IsExponent [] 0
  | written {c : Char} {cs : List Char} {n : Int} (hc : c = 'e' ∨ c = 'E') (hn : IsInteger cs n) :
    IsExponent (c :: cs) n

/-- A decimal: a sign, digits before and behind a point, at least one of them, and an exponent. It
is the number of all its digits, times ten to the power of what remains of the exponent. -/
inductive IsDecimal : List Char → Bool → Nat → Int → Prop
  | mk {sign whole point fraction tail : List Char} {exponent : Int} (hsign : IsSign sign)
    (hwhole : AreDigits whole) (hpoint : IsFraction point fraction)
    (htail : IsExponent tail exponent) (hsome : whole ++ fraction ≠ []) :
    IsDecimal (sign ++ (whole ++ (point ++ tail))) (decide (sign = ['-']))
      (digitsValue (whole ++ fraction)) (exponent - fraction.length)

/-- An integer fits 64 bits with a sign. -/
def IsWord (n : Int) : Prop := -9223372036854775808 ≤ n ∧ n ≤ 9223372036854775807

/-- A text is a number when, blanks at its ends left aside, it is an integer of 64 bits, or a decimal
that has a nearest double. -/
def IsNumberText (s : String) : Prop :=
  (∃ n, IsInteger (Text.trimChars s.toList) n ∧ IsWord n) ∨
    ∃ negative digits exponent, IsDecimal (Text.trimChars s.toList) negative digits exponent ∧
      Binary64.ofDecimal? negative digits exponent ≠ none

/-! ## Signs -/

/-- Whatever a text begins with, it has a sign or none. -/
lemma exists_takeSign (cs : List Char) : ∃ sign rest, IsSign sign ∧ cs = sign ++ rest ∧
    takeSign cs = (decide (sign = ['-']), rest) := by
  unfold takeSign
  split
  · exact ⟨['-'], _, .minus, rfl, rfl⟩
  · exact ⟨['+'], _, .plus, rfl, rfl⟩
  · exact ⟨[], cs, .nothing, rfl, rfl⟩

/-- A sign is taken off what is not signed itself. -/
lemma takeSign_append {sign rest : List Char} (hsign : IsSign sign)
    (hrest : ∀ c, rest.head? = some c → c ≠ '-' ∧ c ≠ '+') :
    takeSign (sign ++ rest) = (decide (sign = ['-']), rest) := by
  cases hsign with
  | plus => rfl
  | minus => rfl
  | nothing =>
    rw [List.nil_append]
    unfold takeSign
    split
    · exact absurd rfl (hrest '-' rfl).1
    · exact absurd rfl (hrest '+' rfl).2
    · rfl

/-- Digits are no signs. -/
lemma not_sign_of_isDigit {c : Char} (h : c.isDigit = true) : c ≠ '-' ∧ c ≠ '+' := by
  constructor <;> rintro rfl <;> exact absurd h (by decide)

/-! ## Integers -/

/-- A natural number is read from its digits, of which there is at least one, and from nothing else.
-/
lemma naturalOfChars?_eq_some {cs : List Char} {n : Nat} :
    naturalOfChars? cs = some n ↔ AreDigits cs ∧ cs ≠ [] ∧ digitsValue cs = n := by
  rw [naturalOfChars?]
  split
  · next h =>
    refine iff_of_false nofun ?_
    rintro ⟨hdigits, hsome, -⟩
    rcases Bool.or_eq_true _ _ |>.mp h with hempty | hother
    · exact hsome (List.isEmpty_iff.mp hempty)
    · obtain ⟨c, hc, hother⟩ := List.any_eq_true.mp hother
      rw [hdigits c hc] at hother
      cases hother
  · next h =>
    rw [Bool.not_eq_true, Bool.or_eq_false_iff] at h
    have hdigits : AreDigits cs := by
      intro c hc
      have hother := List.any_eq_false.mp h.2 c hc
      simpa using hother
    have hsome : cs ≠ [] := by
      rintro rfl
      exact absurd h.1 (by decide)
    simp [hdigits, hsome]

/-- **Integers** are read with their values. -/
theorem integerOfChars?_eq_some {cs : List Char} {n : Int} :
    integerOfChars? cs = some n ↔ IsInteger cs n := by
  constructor
  · intro h
    obtain ⟨sign, rest, hsign, rfl, htake⟩ := exists_takeSign cs
    unfold integerOfChars? at h
    rw [htake] at h
    obtain ⟨value, hvalue, h⟩ := Option.bind_eq_some_iff.mp h
    obtain ⟨hdigits, hsome, rfl⟩ := naturalOfChars?_eq_some.mp hvalue
    have hinteger := IsInteger.mk hsign hdigits hsome
    rw [← Option.some.inj h]
    simpa using hinteger
  · rintro ⟨hsign, hdigits, hsome⟩
    next sign digits =>
    have htake : takeSign (sign ++ digits) = (decide (sign = ['-']), digits) :=
      takeSign_append hsign fun c hc =>
        not_sign_of_isDigit (hdigits c (List.mem_of_mem_head? hc))
    have hvalue : naturalOfChars? digits = some (digitsValue digits) :=
      naturalOfChars?_eq_some.mpr ⟨hdigits, hsome, rfl⟩
    unfold integerOfChars?
    rw [htake]
    simp [hvalue]

/-- An integer fits 64 bits or is not read as one. -/
lemma signedWord?_eq_some {cs : List Char} {n : Int} :
    signedWord? cs = some n ↔ IsInteger cs n ∧ IsWord n := by
  rw [signedWord?, ← integerOfChars?_eq_some]
  cases hread : integerOfChars? cs with
  | none => simp
  | some value =>
    simp only [Option.bind_eq_bind, Option.bind_some, Option.ite_none_right_eq_some,
      Option.some.injEq]
    constructor
    · rintro ⟨hword, rfl⟩
      exact ⟨rfl, hword⟩
    · rintro ⟨rfl, hword⟩
      exact ⟨hword, rfl⟩

/-! ## Decimals -/

/-- An exponent is read from its spellings and from nothing else. -/
lemma decimalExponent?_eq_some {cs : List Char} {n : Int} :
    decimalExponent? cs = some n ↔ IsExponent cs n := by
  constructor
  · intro h
    unfold decimalExponent? at h
    split at h
    · obtain rfl := Option.some.inj h
      exact .nothing
    · split at h
      · next hc => exact .written hc (integerOfChars?_eq_some.mp h)
      · cases h
  · intro h
    cases h with
    | nothing => rfl
    | written hc hn => rw [decimalExponent?, if_pos hc, integerOfChars?_eq_some.mpr hn]

/-- Digits are taken off the front up to the first other character. -/
lemma takeWhile_digits {digits rest : List Char} (hdigits : AreDigits digits)
    (hrest : ∀ c, rest.head? = some c → c.isDigit = false) :
    (digits ++ rest).takeWhile Char.isDigit = digits ∧
      (digits ++ rest).dropWhile Char.isDigit = rest := by
  rw [List.takeWhile_append_of_pos hdigits, List.dropWhile_append_of_pos hdigits]
  cases rest with
  | nil => simp
  | cons c rest => simp [hrest c rfl]

/-- An exponent begins with its mark. -/
lemma IsExponent.head?_eq {cs : List Char} {n : Int} (h : IsExponent cs n) {c : Char}
    (hc : cs.head? = some c) : c = 'e' ∨ c = 'E' := by
  cases h with
  | nothing => cases hc
  | written he _ =>
    rw [List.head?_cons, Option.some.injEq] at hc
    rwa [← hc]

/-- An exponent begins with no digit. -/
lemma IsExponent.isDigit_head? {cs : List Char} {n : Int} (h : IsExponent cs n) {c : Char}
    (hc : cs.head? = some c) : c.isDigit = false := by
  rcases h.head?_eq hc with rfl | rfl <;> decide

/-- An exponent begins with no point. -/
lemma IsExponent.head?_ne_point {cs : List Char} {n : Int} (h : IsExponent cs n) :
    cs.head? ≠ some '.' := by
  intro hc
  rcases h.head?_eq hc with hc | hc <;> exact absurd hc (by decide)

/-- What is behind the sign of a decimal begins with none. -/
lemma not_sign_of_head? {whole point fraction tail : List Char} (hwhole : AreDigits whole)
    (hpoint : IsFraction point fraction) (hsome : whole ++ fraction ≠ []) {c : Char}
    (hc : (whole ++ (point ++ tail)).head? = some c) : c ≠ '-' ∧ c ≠ '+' := by
  cases hwholeCases : whole with
  | cons d rest =>
    rw [hwholeCases, List.cons_append, List.head?_cons, Option.some.injEq] at hc
    exact not_sign_of_isDigit (hwhole c (by rw [hwholeCases, hc]; exact List.mem_cons_self))
  | nil =>
    rw [hwholeCases, List.nil_append] at hc hsome
    cases hpoint with
    | nothing => exact absurd rfl hsome
    | written _ =>
      rw [List.cons_append, List.head?_cons, Option.some.injEq] at hc
      rw [← hc]
      decide

/-- The sign is taken off a decimal. -/
lemma takeSign_decimal {sign whole point fraction : List Char} (hsign : IsSign sign)
    (hwhole : AreDigits whole) (hpoint : IsFraction point fraction) (hsome : whole ++ fraction ≠ [])
    (tail : List Char) : takeSign (sign ++ (whole ++ (point ++ tail))) =
      (decide (sign = ['-']), whole ++ (point ++ tail)) :=
  takeSign_append hsign fun _ hc => not_sign_of_head? hwhole hpoint hsome hc

/-- What is read off a decimal, once its parts are known. -/
lemma decimal?_eq {cs whole point fraction tail : List Char} {negative : Bool}
    (htake : takeSign cs = (negative, whole ++ (point ++ tail))) (hwhole : AreDigits whole)
    (hpoint : IsFraction point fraction) (htail : ∀ c, tail.head? = some c → c.isDigit = false)
    (hdot : point = [] → tail.head? ≠ some '.') :
    decimal? cs = if whole.isEmpty && fraction.isEmpty then none
      else (decimalExponent? tail).bind fun exponent =>
        Binary64.ofDecimal? negative (digitsValue (whole ++ fraction))
          (exponent - fraction.length) := by
  unfold decimal?
  rw [htake]
  cases hpoint with
  | nothing =>
    obtain ⟨htakeWhile, hdropWhile⟩ := takeWhile_digits hwhole htail
    simp only [List.nil_append, htakeWhile, hdropWhile]
    split
    · next hsplit => exact absurd rfl (hdot rfl)
    · rfl
  | written hdigits =>
    obtain ⟨htakeWhile, hdropWhile⟩ :
        (whole ++ '.' :: (fraction ++ tail)).takeWhile Char.isDigit = whole ∧
          (whole ++ '.' :: (fraction ++ tail)).dropWhile Char.isDigit = '.' :: (fraction ++ tail) :=
      takeWhile_digits hwhole (by simp)
    obtain ⟨htakeWhile', hdropWhile'⟩ := takeWhile_digits hdigits htail
    simp only [List.cons_append, htakeWhile, hdropWhile, htakeWhile', hdropWhile']
    rfl

/-- Every text has such parts. -/
lemma exists_parts (cs : List Char) : ∃ whole point fraction tail, cs = whole ++ (point ++ tail) ∧
    AreDigits whole ∧ IsFraction point fraction ∧
    (∀ c, tail.head? = some c → c.isDigit = false) ∧ (point = [] → tail.head? ≠ some '.') := by
  have hspan : ∀ l : List Char, ∃ digits rest, l = digits ++ rest ∧ AreDigits digits ∧
      ∀ c, rest.head? = some c → c.isDigit = false := by
    intro l
    refine ⟨l.takeWhile Char.isDigit, l.dropWhile Char.isDigit,
      List.takeWhile_append_dropWhile.symm, fun c hc => List.mem_takeWhile_imp hc, fun c hc => ?_⟩
    have hstop := List.head?_dropWhile_not Char.isDigit l
    rw [hc] at hstop
    exact hstop
  obtain ⟨whole, after, rfl, hwhole, hafter⟩ := hspan cs
  by_cases hdot : after.head? = some '.'
  · obtain ⟨rest, rfl⟩ : ∃ rest, after = '.' :: rest := List.head?_eq_some_iff.mp hdot
    obtain ⟨fraction, tail, rfl, hfraction, htail⟩ := hspan rest
    exact ⟨whole, '.' :: fraction, fraction, tail, rfl, hwhole, .written hfraction, htail, nofun⟩
  · exact ⟨whole, [], [], after, rfl, hwhole, .nothing, hafter, fun _ => hdot⟩

/-- **Decimals** are read as their nearest doubles, if there are any. -/
theorem decimal?_eq_some {cs : List Char} {x : Binary64} :
    decimal? cs = some x ↔ ∃ negative digits exponent, IsDecimal cs negative digits exponent ∧
      Binary64.ofDecimal? negative digits exponent = some x := by
  constructor
  · intro h
    obtain ⟨sign, rest, hsign, rfl, htake⟩ := exists_takeSign cs
    obtain ⟨whole, point, fraction, tail, rfl, hwhole, hpoint, htail, hdot⟩ := exists_parts rest
    rw [decimal?_eq htake hwhole hpoint htail hdot] at h
    split at h
    · cases h
    · next hsome =>
      obtain ⟨exponent, hexponent, hx⟩ := Option.bind_eq_some_iff.mp h
      have hsome : whole ++ fraction ≠ [] := by
        rintro hnil
        simp [List.append_eq_nil_iff.mp hnil] at hsome
      exact ⟨_, _, _, .mk hsign hwhole hpoint (decimalExponent?_eq_some.mp hexponent) hsome, hx⟩
  · rintro ⟨_, _, _, ⟨hsign, hwhole, hpoint, htail, hsome⟩, hx⟩
    next sign whole point fraction tail exponent =>
    have hread : (whole.isEmpty && fraction.isEmpty) ≠ true := by
      intro hempty
      rw [Bool.and_eq_true, List.isEmpty_iff, List.isEmpty_iff] at hempty
      rw [hempty.1, hempty.2] at hsome
      exact hsome rfl
    have htake := takeSign_decimal hsign hwhole hpoint hsome tail
    rw [decimal?_eq htake hwhole hpoint (fun c => htail.isDigit_head?) fun _ => htail.head?_ne_point,
      if_neg hread, decimalExponent?_eq_some.mpr htail]
    exact hx

/-! ## Texts -/

/-- **A text is read as a number** exactly when it is one. -/
theorem exists_numberOfText? {s : String} : (∃ v, numberOfText? s = some v) ↔ IsNumberText s := by
  have hword : ∀ n, signedWord? (Text.trimChars s.toList) = some n ↔
      IsInteger (Text.trimChars s.toList) n ∧ IsWord n := fun n => signedWord?_eq_some
  have hdecimal : (∃ x, decimal? (Text.trimChars s.toList) = some x) ↔
      ∃ negative digits exponent, IsDecimal (Text.trimChars s.toList) negative digits exponent ∧
        Binary64.ofDecimal? negative digits exponent ≠ none := by
    simp only [decimal?_eq_some, Option.ne_none_iff_exists']
    constructor
    · rintro ⟨x, negative, digits, exponent, hdecimal, hx⟩
      exact ⟨negative, digits, exponent, hdecimal, x, hx⟩
    · rintro ⟨negative, digits, exponent, hdecimal, x, hx⟩
      exact ⟨x, negative, digits, exponent, hdecimal, hx⟩
  rw [IsNumberText, ← hdecimal]
  simp only [← hword]
  unfold numberOfText?
  dsimp only
  cases hsigned : signedWord? (Text.trimChars s.toList) with
  | some n => simp
  | none =>
    simp only [Option.map_eq_some_iff, reduceCtorEq, exists_false, false_or]
    constructor
    · rintro ⟨_, x, hx, -⟩
      exact ⟨x, hx⟩
    · rintro ⟨x, hx⟩
      exact ⟨.float x, x, hx, rfl⟩

end DataGrid
