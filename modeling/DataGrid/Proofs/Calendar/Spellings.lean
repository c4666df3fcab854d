import DataGrid.Proofs.Decimal.Rendering
import DataGrid.Proofs.Text.Surrounded

/-!
# Spellings of days

A day can be written alone, with a time of day, and as a timestamp with an offset from universal
time. Whichever reader gets hold of a spelling, it takes the day off the front, and what follows
only decides whether the reader accepts the text: so no spelling of one day is read as another.

## Main definitions

* `DataGrid.Day.IsFraction`, `DataGrid.Day.IsOffset` — fractions of a second, and offsets.
* `DataGrid.Day.IsSpelling` — the spellings of a day with a year of four digits.

## Main results

* `DataGrid.Day.read?_text` — the text of a day is read as this day.
* `DataGrid.Day.IsSpelling.read?_eq` — so are its spellings, with any blanks around them.
-/

namespace DataGrid.Day

/-! ## Numbers of fixed width -/

/-- Padding fills up with digits. -/
lemma areDigits_padded (width n : ℕ) : AreDigits (padded width n) :=
  (areDigits_zeros _).append (areDigits_natDigits n)

/-- Padding leaves the number. -/
lemma digitsValue_padded (width n : ℕ) : digitsValue (padded width n) = n :=
  (digitsValue_zeros_append _ _).trans (digitsValue_natDigits n)

/-- A padded number has a digit. -/
lemma padded_ne_nil (width n : ℕ) : padded width n ≠ [] :=
  List.append_ne_nil_of_right_ne_nil _ (natDigits_ne_nil n)

/-- A number that has no more digits is filled up to the width. -/
lemma length_padded {width n : ℕ} (hwidth : 0 < width) (hn : n < 10 ^ width) :
    (padded width n).length = width := by
  have hlength : (natDigits n).length ≤ width :=
    (Nat.length_toDigits_le_iff (by decide) hwidth).mpr hn
  rw [padded, List.length_append, List.length_replicate]
  omega

/-- What begins with a padded number begins with a digit. -/
lemma isDigit_of_head?_padded {width n : ℕ} {rest : List Char} {c : Char}
    (hc : (padded width n ++ rest).head? = some c) : c.isDigit = true := by
  cases hpadded : padded width n with
  | nil => exact absurd hpadded (padded_ne_nil width n)
  | cons d digits =>
    rw [hpadded, List.cons_append, List.head?_cons, Option.some.injEq] at hc
    exact areDigits_padded width n c (by rw [hpadded, hc]; exact List.mem_cons_self)

/-! ## Reading numbers -/

/-- Digits are read as far as they go, if they are not too many. -/
lemma number?_append {most : ℕ} {digits rest : List Char} (hdigits : AreDigits digits)
    (hsome : digits ≠ []) (hmost : digits.length ≤ most)
    (hrest : digits.length = most ∨ ∀ c, rest.head? = some c → c.isDigit = false) :
    number? most (digits ++ rest) = some (digitsValue digits, rest) := by
  have hstop : ∀ c, (rest.take (most - digits.length)).head? = some c → c.isDigit = false := by
    intro c hc
    rw [List.head?_take] at hc
    split at hc
    · cases hc
    · next hmore =>
      rcases hrest with hfull | hrest
      · omega
      · exact hrest c hc
  have htake : ((digits ++ rest).take most).takeWhile Char.isDigit = digits := by
    rw [List.take_append, List.take_of_length_le hmost]
    exact (takeWhile_digits hdigits hstop).1
  have hempty : ¬ digits.isEmpty = true := by rwa [List.isEmpty_iff]
  rw [number?, htake, if_neg hempty, List.drop_left]

/-- As many digits as are asked for are read. -/
lemma fixed?_append {digits rest : List Char} (hdigits : AreDigits digits) :
    fixed? digits.length (digits ++ rest) = some (digitsValue digits, rest) := by
  have htake : ((digits ++ rest).take digits.length).takeWhile Char.isDigit = digits := by
    rw [List.take_left, List.takeWhile_eq_self_iff.mpr hdigits]
  rw [fixed?, htake, if_pos rfl, List.drop_left]

/-- A number of a fixed width is read from its padded digits. -/
lemma fixed?_padded {width n : ℕ} (hwidth : 0 < width) (hn : n < 10 ^ width) (rest : List Char) :
    fixed? width (padded width n ++ rest) = some (n, rest) := by
  have hread : fixed? (padded width n).length (padded width n ++ rest) =
      some (digitsValue (padded width n), rest) := fixed?_append (areDigits_padded width n)
  rwa [length_padded hwidth hn, digitsValue_padded] at hread

/-- A month, a day or a part of the clock is read from its two digits. -/
lemma item?_padded {n : ℕ} (hn : n < 100) (rest : List Char) :
    item? (padded 2 n ++ rest) = some (n, rest) := by
  have hlength : (padded 2 n).length = 2 := length_padded (by decide) hn
  have hread : number? 2 (padded 2 n ++ rest) = some (n, rest) := by
    rw [number?_append (areDigits_padded 2 n) (padded_ne_nil 2 n) hlength.le (.inl hlength),
      digitsValue_padded]
  have hstart : Text.trimStart (padded 2 n ++ rest) = padded 2 n ++ rest :=
    Text.trimStart_eq_self fun c hc => Text.isBlank_of_isDigit (isDigit_of_head?_padded hc)
  rw [item?, hstart, hread]

/-- A blank before a number is skipped. -/
lemma item?_blank (cs : List Char) : item? (' ' :: cs) = item? cs := rfl

/-- A character is read where it stands. -/
lemma literal?_cons (c : Char) (rest : List Char) : literal? c (c :: rest) = some rest := if_pos rfl

/-! ## The day at the front -/

/-- The numbers of a day make this day. -/
lemma make?_eq (d : Day) : make? d.year d.month d.day = some d := by
  rw [make?, dif_pos d.inRange, dif_pos d.inMonth]

/-- Months and days have two digits at most. -/
lemma month_lt (d : Day) : d.month < 100 := by
  have hmonth : d.month ≤ 12 := by
    by_contra hlate
    have hdays : daysInMonth d.year d.month = 0 := by
      unfold daysInMonth
      split <;> omega
    have hinMonth := d.inMonth
    omega
  omega

/-- A day of a month has two digits at most. -/
lemma day_lt (d : Day) : d.day < 100 := by
  have hdays : daysInMonth d.year d.month ≤ 31 := by
    unfold daysInMonth
    split <;> (try split) <;> omega
  have hinMonth := d.inMonth
  omega

/-- Behind a sign, a year has as many digits as there are. -/
lemma year?_minus (cs : List Char) :
    year? ('-' :: cs) = (number? cs.length cs).map fun (n, rest) => (-(n : ℤ), rest) :=
  rfl

/-- So has a year behind a plus sign. -/
lemma year?_plus (cs : List Char) :
    year? ('+' :: cs) = (number? cs.length cs).map fun (n, rest) => ((n : ℤ), rest) :=
  rfl

/-- Without a sign, a year has at most four digits. -/
lemma year?_of_isDigit {cs : List Char} (hcs : ∀ c, cs.head? = some c → c.isDigit = true) :
    year? cs = (number? 4 cs).map fun (n, rest) => ((n : ℤ), rest) := by
  rw [year?, Text.trimStart_eq_self fun c hc => Text.isBlank_of_isDigit (hcs c hc)]
  split
  · exact absurd (hcs '-' rfl) (by decide)
  · exact absurd (hcs '+' rfl) (by decide)
  · rfl

/-- A year is read up to the hyphen behind it. -/
lemma year?_yearText (year : ℤ) (rest : List Char) :
    year? (yearText year ++ '-' :: rest) = some (year, '-' :: rest) := by
  have hhyphen : ∀ c, ('-' :: rest).head? = some c → c.isDigit = false := by
    rintro c (hc : some '-' = some c)
    rw [← Option.some.inj hc]
    decide
  have hread : ∀ most, (padded 4 year.natAbs).length ≤ most →
      number? most (padded 4 year.natAbs ++ '-' :: rest) = some (year.natAbs, '-' :: rest) := by
    intro most hmost
    rw [number?_append (areDigits_padded 4 year.natAbs) (padded_ne_nil 4 year.natAbs) hmost
      (.inr hhyphen), digitsValue_padded]
  have hlength : (padded 4 year.natAbs).length ≤ (padded 4 year.natAbs ++ '-' :: rest).length := by
    rw [List.length_append]
    exact Nat.le_add_right _ _
  unfold yearText
  split
  · next hnegative =>
    rw [List.cons_append, year?_minus, hread _ hlength, Option.map_some]
    simp only [show -(year.natAbs : ℤ) = year by omega]
  · split
    · next hnonnegative hlong =>
      rw [List.cons_append, year?_plus, hread _ hlength, Option.map_some]
      simp only [show (year.natAbs : ℤ) = year by omega]
    · next hnonnegative hshort =>
      have hfour : (padded 4 year.natAbs).length = 4 := length_padded (by decide) (by omega)
      rw [year?_of_isDigit fun c => isDigit_of_head?_padded, hread 4 hfour.le, Option.map_some]
      simp only [show (year.natAbs : ℤ) = year by omega]

/-- The characters of a day. -/
lemma toList_text (d : Day) :
    d.text.toList = yearText d.year ++ '-' :: padded 2 d.month ++ '-' :: padded 2 d.day :=
  String.toList_ofList

/-- **The day is taken off the front** of what begins with its text. -/
lemma datePart?_text (d : Day) (rest : List Char) :
    datePart? (d.text.toList ++ rest) = some (d, rest) := by
  rw [toList_text]
  simp only [List.append_assoc, List.cons_append, datePart?, year?_yearText, literal?_cons,
    item?_padded d.month_lt, item?_padded d.day_lt, make?_eq, Option.bind_eq_bind,
    Option.bind_some, Option.pure_def]

/-! ## Forms that begin with a day -/

section

variable {cs : List Char} {d : Day} {rest : List Char} (hday : datePart? cs = some (d, rest))
include hday

/-- The reader of days with a time of day reads the day at the front, or nothing. -/
lemma eq_of_readDateTime? {d' : Day} (h : readDateTime? cs = some d') : d' = d := by
  rw [readDateTime?, hday] at h
  simp only [Option.bind_eq_bind, Option.bind_some, Option.bind_eq_some_iff,
    Option.ite_none_right_eq_some, Option.some.injEq] at h
  obtain ⟨-, -, -, -, -, -, -, -, -, -, -, rfl⟩ := h
  rfl

/-- So does the reader of days alone. -/
lemma eq_of_readDate? {d' : Day} (h : readDate? cs = some d') : d' = d := by
  rw [readDate?, hday] at h
  simp only [Option.bind_eq_bind, Option.bind_some, Option.ite_none_right_eq_some,
    Option.some.injEq] at h
  exact h.2.symm

/-- **No reader takes a text away from a later one**: as soon as one of them reads the day at the
front of a text, that is what is read. -/
lemma orElse_eq (h : readDateTime? cs = some d ∨ readDate? cs = some d ∨
    readTimestamp? cs = some d) :
    (readDateTime? cs <|> readDate? cs <|> readTimestamp? cs) = some d := by
  cases hfirst : readDateTime? cs with
  | some d' => rw [eq_of_readDateTime? hday hfirst]; rfl
  | none =>
    cases hsecond : readDate? cs with
    | some d' => rw [eq_of_readDate? hday hsecond]; rfl
    | none =>
      rw [hfirst, hsecond] at h
      obtain hno | hno | hthird := h
      · cases hno
      · cases hno
      · rw [hthird]
        rfl

end

/-! ## Spellings -/

/-- A time of day, in hours, minutes and seconds. -/
def clockText (hour minute second : ℕ) : List Char :=
  padded 2 hour ++ ':' :: (padded 2 minute ++ ':' :: padded 2 second)

/-- A fraction of a second, or nothing. -/
inductive IsSubsecond : List Char → Prop
  | nothing : IsSubsecond []
  | written {digits : List Char} (hdigits : AreDigits digits) (hsome : digits ≠ []) :
    IsSubsecond ('.' :: digits)

/-- An offset from universal time: a Z, or a sign with hours and minutes. -/
inductive IsOffset : List Char → Prop
  | universal {c : Char} (hc : c = 'Z' ∨ c = 'z') : IsOffset [c]
  | shifted {sign : Char} {hours minutes : ℕ} (hsign : sign = '+' ∨ sign = '-' ∨ sign = '−')
    (hhours : hours ≤ 23) (hminutes : minutes ≤ 59) :
    IsOffset (sign :: (padded 2 hours ++ ':' :: padded 2 minutes))

/-- The spellings of a day: alone, with a time of day, and, for years of four digits, as a timestamp
in its own time zone. -/
inductive IsSpelling (d : Day) : List Char → Prop
  | alone : IsSpelling d d.text.toList
  | withTime {hour minute second : ℕ} (htime : isTime hour minute second = true) :
    IsSpelling d (d.text.toList ++ ' ' :: clockText hour minute second)
  | timestamp {mark : Char} {hour minute second : ℕ} {subsecond offset : List Char}
    (hyear : 0 ≤ d.year ∧ d.year ≤ 9999) (hmark : mark = 'T' ∨ mark = 't' ∨ mark = ' ')
    (htime : isTime hour minute second = true) (hsubsecond : IsSubsecond subsecond)
    (hoffset : IsOffset offset) :
    IsSpelling d
      (d.text.toList ++ mark :: (clockText hour minute second ++ (subsecond ++ offset)))

/-- Hours, minutes and seconds have two digits at most. -/
lemma lt_of_isTime {hour minute second : ℕ} (h : isTime hour minute second = true) :
    hour < 100 ∧ minute < 100 ∧ second < 100 := by
  simp only [isTime, Bool.and_eq_true, decide_eq_true_eq] at h
  omega

/-- A day alone is read by its reader. -/
lemma readDate?_text (d : Day) : readDate? d.text.toList = some d := by
  have hday := datePart?_text d []
  rw [List.append_nil] at hday
  rw [readDate?, hday]
  rfl

/-- A day with a time of day is read by its reader. -/
lemma readDateTime?_clockText (d : Day) {hour minute second : ℕ}
    (htime : isTime hour minute second = true) :
    readDateTime? (d.text.toList ++ ' ' :: clockText hour minute second) = some d := by
  obtain ⟨hhour, hminute, hsecond⟩ := lt_of_isTime htime
  have hlast := item?_padded hsecond []
  rw [List.append_nil] at hlast
  simp only [readDateTime?, datePart?_text, clockText, item?_blank, item?_padded hhour,
    item?_padded hminute, hlast, literal?_cons, Option.bind_eq_bind, Option.bind_some, htime,
    List.isEmpty_nil, Bool.and_self, if_true]

/-- An offset begins with no digit and no point. -/
lemma IsOffset.head?_eq {cs : List Char} (h : IsOffset cs) {c : Char} (hc : cs.head? = some c) :
    c.isDigit = false ∧ c ≠ '.' := by
  cases h with
  | universal hz =>
    rw [List.head?_cons, Option.some.injEq] at hc
    rcases hz with rfl | rfl <;> subst hc <;> decide
  | shifted hsign _ _ =>
    rw [List.head?_cons, Option.some.injEq] at hc
    rcases hsign with rfl | rfl | rfl <;> subst hc <;> decide

/-- Offsets are recognized. -/
lemma IsOffset.isOffset_eq {cs : List Char} (h : IsOffset cs) : isOffset cs = true := by
  cases h with
  | universal hc => rw [isOffset, if_pos hc]; rfl
  | @shifted sign hours minutes hsign hhours hminutes =>
    have hz : ¬ (sign = 'Z' ∨ sign = 'z') := by
      rcases hsign with rfl | rfl | rfl <;> decide
    have hlast := fixed?_padded (by decide : 0 < 2) (show minutes < 100 by omega) []
    rw [List.append_nil] at hlast
    have hfirst := fixed?_padded (by decide : 0 < 2) (show hours < 100 by omega)
      (':' :: padded 2 minutes)
    rw [isOffset, if_neg hz, if_pos hsign, hfirst]
    simp [hlast, hhours, hminutes]

/-- A fraction of a second is skipped. -/
lemma IsSubsecond.fraction?_eq {cs offset : List Char} (h : IsSubsecond cs)
    (hoffset : IsOffset offset) : fraction? (cs ++ offset) = some offset := by
  cases h with
  | nothing =>
    rw [List.nil_append]
    unfold fraction?
    split
    · exact absurd rfl (hoffset.head?_eq rfl).2
    · rfl
  | @written digits hdigits hsome =>
    have hdrop := (takeWhile_digits hdigits fun c hc => (hoffset.head?_eq hc).1).2
    obtain ⟨c, rest, rfl⟩ := List.exists_cons_of_ne_nil hsome
    have hfirst : ((c :: rest ++ offset).head?.any Char.isDigit) = true :=
      hdigits c List.mem_cons_self
    rw [List.cons_append, fraction?, if_pos hfirst, hdrop]

/-- The text of a day with a year of four digits. -/
lemma toList_text_of_year {d : Day} (hyear : 0 ≤ d.year ∧ d.year ≤ 9999) :
    d.text.toList =
      padded 4 d.year.natAbs ++ '-' :: padded 2 d.month ++ '-' :: padded 2 d.day := by
  rw [toList_text, yearText, if_neg (by omega), if_neg (by omega)]

/-- A timestamp is read by its reader. -/
lemma readTimestamp?_eq {d : Day} (hyear : 0 ≤ d.year ∧ d.year ≤ 9999) {mark : Char}
    (hmark : mark = 'T' ∨ mark = 't' ∨ mark = ' ') {hour minute second : ℕ}
    (htime : isTime hour minute second = true) {subsecond offset : List Char}
    (hsubsecond : IsSubsecond subsecond) (hoffset : IsOffset offset) :
    readTimestamp? (d.text.toList ++
      mark :: (clockText hour minute second ++ (subsecond ++ offset))) = some d := by
  obtain ⟨hhour, hminute, hsecond⟩ := lt_of_isTime htime
  have htwo : 0 < 2 := by decide
  have hmake : make? (d.year.natAbs : ℤ) d.month d.day = some d := by
    rw [show (d.year.natAbs : ℤ) = d.year by omega, make?_eq]
  rw [toList_text_of_year hyear]
  simp only [clockText, List.append_assoc, List.cons_append]
  -- The parts are read one after the other, from the year to the fraction.
  refine Option.bind_eq_some_iff.mpr ⟨_, fixed?_padded (by decide) (by omega) _, ?_⟩
  refine Option.bind_eq_some_iff.mpr ⟨_, literal?_cons '-' _, ?_⟩
  refine Option.bind_eq_some_iff.mpr ⟨_, fixed?_padded htwo d.month_lt _, ?_⟩
  refine Option.bind_eq_some_iff.mpr ⟨_, literal?_cons '-' _, ?_⟩
  refine Option.bind_eq_some_iff.mpr ⟨_, fixed?_padded htwo d.day_lt _, ?_⟩
  refine (if_pos hmark).trans (Option.bind_eq_some_iff.mpr ⟨_, rfl, ?_⟩)
  refine Option.bind_eq_some_iff.mpr ⟨_, fixed?_padded htwo hhour _, ?_⟩
  refine Option.bind_eq_some_iff.mpr ⟨_, literal?_cons ':' _, ?_⟩
  refine Option.bind_eq_some_iff.mpr ⟨_, fixed?_padded htwo hminute _, ?_⟩
  refine Option.bind_eq_some_iff.mpr ⟨_, literal?_cons ':' _, ?_⟩
  refine Option.bind_eq_some_iff.mpr ⟨_, fixed?_padded htwo hsecond _, ?_⟩
  refine Option.bind_eq_some_iff.mpr ⟨_, hsubsecond.fraction?_eq hoffset, ?_⟩
  refine Option.bind_eq_some_iff.mpr ⟨_, hmake, ?_⟩
  rw [htime, hoffset.isOffset_eq]
  rfl

/-! ## Spellings between blanks -/

/-- Padded numbers hold no blanks. -/
lemma isBlank_of_mem_padded {width n : ℕ} {c : Char} (hc : c ∈ padded width n) :
    Text.isBlank c = false :=
  Text.isBlank_of_isDigit (areDigits_padded width n c hc)

/-- The text of a day holds no blanks. -/
lemma isBlank_of_mem_text {d : Day} {c : Char} (hc : c ∈ d.text.toList) :
    Text.isBlank c = false := by
  have hyear : ∀ c ∈ yearText d.year, Text.isBlank c = false := by
    intro c hc
    unfold yearText at hc
    split at hc
    · rcases List.mem_cons.mp hc with rfl | hc
      · decide
      · exact isBlank_of_mem_padded hc
    · split at hc
      · rcases List.mem_cons.mp hc with rfl | hc
        · decide
        · exact isBlank_of_mem_padded hc
      · exact isBlank_of_mem_padded hc
  rw [toList_text, List.append_assoc] at hc
  rcases List.mem_append.mp hc with hc | hc
  · exact hyear c hc
  rw [List.cons_append, List.mem_cons, List.mem_append, List.mem_cons] at hc
  rcases hc with rfl | hc | rfl | hc
  · decide
  · exact isBlank_of_mem_padded hc
  · decide
  · exact isBlank_of_mem_padded hc

/-- The spelling of a day is not empty. -/
lemma text_ne_nil (d : Day) : d.text.toList ≠ [] := by
  rw [toList_text]
  exact List.append_ne_nil_of_right_ne_nil _ (List.cons_ne_nil _ _)

/-- An offset holds no blanks. -/
lemma IsOffset.isBlank_of_mem {cs : List Char} (h : IsOffset cs) {c : Char} (hc : c ∈ cs) :
    Text.isBlank c = false := by
  cases h with
  | universal hz =>
    rw [List.mem_singleton.mp hc]
    rcases hz with rfl | rfl <;> decide
  | shifted hsign _ _ =>
    rw [List.mem_cons, List.mem_append, List.mem_cons] at hc
    rcases hc with rfl | hc | rfl | hc
    · rcases hsign with rfl | rfl | rfl <;> decide
    · exact isBlank_of_mem_padded hc
    · decide
    · exact isBlank_of_mem_padded hc

/-- An offset is spelled by some characters. -/
lemma IsOffset.ne_nil {cs : List Char} (h : IsOffset cs) : cs ≠ [] := by
  cases h <;> exact List.cons_ne_nil _ _

namespace IsSpelling

variable {d : Day} {cs : List Char} (h : d.IsSpelling cs)
include h

/-- A spelling begins with the text of the day. -/
lemma exists_datePart?_eq : ∃ rest, datePart? cs = some (d, rest) := by
  cases h with
  | alone => exact ⟨[], by rw [← datePart?_text d [], List.append_nil]⟩
  | withTime _ | timestamp _ _ _ _ _ => exact ⟨_, datePart?_text d _⟩

/-- A spelling is read by the reader of its form. -/
lemma readers_eq :
    readDateTime? cs = some d ∨ readDate? cs = some d ∨ readTimestamp? cs = some d := by
  cases h with
  | alone => exact .inr (.inl (readDate?_text d))
  | withTime htime => exact .inl (readDateTime?_clockText d htime)
  | timestamp hyear hmark htime hsubsecond hoffset =>
    exact .inr (.inr (readTimestamp?_eq hyear hmark htime hsubsecond hoffset))

/-- A spelling neither begins nor ends with a blank. -/
lemma isTrimmed : Text.IsTrimmed cs := by
  cases h with
  | alone => exact Text.isTrimmed_of_forall fun c => isBlank_of_mem_text
  | @withTime hour minute second _ =>
    have hclock : ' ' :: clockText hour minute second =
        ' ' :: (padded 2 hour ++ ':' :: (padded 2 minute ++ [':'])) ++ padded 2 second := by
      simp [clockText]
    rw [hclock]
    exact Text.isTrimmed_append _ (text_ne_nil d) (padded_ne_nil 2 second)
      (fun c => isBlank_of_mem_text) fun c => isBlank_of_mem_padded
  | @timestamp mark hour minute second subsecond offset _ _ _ _ hoffset =>
    rw [← List.append_assoc, ← List.cons_append]
    exact Text.isTrimmed_append _ (text_ne_nil d) hoffset.ne_nil
      (fun c => isBlank_of_mem_text) fun c => hoffset.isBlank_of_mem

/-- **Spellings of a day are read as this day**, with any blanks around them.

**Proof sketch.** The text of the day stands at the front and its own reader accepts the rest. An
earlier reader may do so too, but it reads the same day. -/
theorem read?_eq {s : String} (hs : Text.Surrounds s cs) : read? s = some d := by
  obtain ⟨rest, hday⟩ := h.exists_datePart?_eq
  rw [read?, hs.trimChars_eq h.isTrimmed]
  exact orElse_eq hday h.readers_eq

end IsSpelling

/-- **The text of a day is read as this day.** -/
theorem read?_text (d : Day) : read? d.text = some d :=
  IsSpelling.alone.read?_eq (Text.surrounds_self d.text)

end DataGrid.Day
