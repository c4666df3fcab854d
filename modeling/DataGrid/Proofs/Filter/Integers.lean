import DataGrid.Json.Order
import DataGrid.Proofs.Decimal.Nearest
import DataGrid.Proofs.Decimal.Rendering
import DataGrid.Proofs.Filter.Operators
import DataGrid.Proofs.Text.Surrounded

/-!
# Integer operands of number filters

An integer can be given as a JSON number or as a text. As long as it fits 64 bits with a sign, both
spellings put the integer itself into the condition. JSON numbers go on to 64 bits without a sign,
and there the two part: the number is still exact, but the text is read as a double.

## Main definitions

* `DataGrid.WritesInteger` — a text writes an integer, with any blanks around it.
* `DataGrid.Json.IsExactInteger` — the operands that are exact.
* `DataGrid.NumberOperator.condition` — the condition of an operator with given literals.

## Main results

* `DataGrid.LeafFilter.integer_operands_exact` — which integers are compared exactly.
* `DataGrid.LeafFilter.largest_integer_rounded` — an integer that is not.
-/

namespace DataGrid

open Sql

/-! ## Integers as operands -/

/-- A text is an integer, its digits behind an optional sign, with any blanks around it. -/
def WritesInteger (s : String) (n : ℤ) : Prop := ∃ cs, IsInteger cs n ∧ Text.Surrounds s cs

/-- An operand is an integer as a JSON number, or as the text of one that fits 64 bits with a
sign. -/
inductive Json.IsExactInteger : Json → ℤ → Prop
  | number {n : ℤ} (h : -9223372036854775808 ≤ n ∧ n ≤ 18446744073709551615) :
    IsExactInteger (.number (.int n h)) n
  | text {s : String} {n : ℤ} (hs : WritesInteger s n) (hn : IsWord n) :
    IsExactInteger (.string s) n

/-- A plus may stand before an integer that is not negative. -/
lemma isInteger_plus {n : ℤ} (hn : 0 ≤ n) : IsInteger ('+' :: (intText n).toList) n := by
  have hinteger := IsInteger.mk .plus (areDigits_natDigits n.natAbs) (natDigits_ne_nil n.natAbs)
  rw [if_neg (by decide), digitsValue_natDigits, show (n.natAbs : ℤ) = n by omega] at hinteger
  rwa [intText, String.toList_ofList, if_neg (by omega)]

/-- An integer is a decimal without a point and without an exponent. -/
lemma IsInteger.isDecimal {cs : List Char} {n : ℤ} (h : IsInteger cs n) :
    ∃ negative, IsDecimal cs negative n.natAbs 0 ∧ (0 < n → negative = false) := by
  obtain ⟨hsign, hdigits, hsome⟩ := h
  next sign digits =>
  have hdecimal := IsDecimal.mk hsign hdigits .nothing .nothing (by rwa [List.append_nil])
  rw [List.nil_append, List.append_nil, List.length_nil, Int.natCast_zero, Int.sub_zero] at hdecimal
  refine ⟨decide (sign = ['-']), ?_, fun hpos => ?_⟩
  · split
    · rwa [Int.natAbs_neg, Int.natAbs_natCast]
    · exact hdecimal
  · rw [decide_eq_false_iff_not]
    rintro rfl
    rw [if_pos rfl] at hpos
    omega

/-- An integer neither begins nor ends with a blank. -/
lemma IsInteger.isTrimmed {cs : List Char} {n : ℤ} (h : IsInteger cs n) : Text.IsTrimmed cs := by
  obtain ⟨hsign, hdigits, -⟩ := h
  refine Text.isTrimmed_of_forall fun c hc => ?_
  rcases List.mem_append.mp hc with hc | hc
  · cases hsign with
    | nothing => cases hc
    | plus | minus => rw [List.mem_singleton.mp hc]; decide
  · exact Text.isBlank_of_isDigit (hdigits c hc)

section

variable {s : String} {n : ℤ} (hs : WritesInteger s n)
include hs

/-- The text of an integer of 64 bits is read as this integer. -/
lemma WritesInteger.numberOfText?_eq (hn : IsWord n) : numberOfText? s = some (.int n) := by
  obtain ⟨cs, hcs, hs⟩ := hs
  rw [numberOfText?, hs.trimChars_eq hcs.isTrimmed, signedWord?_eq_some.mpr ⟨hcs, hn⟩]

/-- The text of a larger integer is read as the double nearest to it. -/
lemma WritesInteger.exists_numberOfText?_eq
    (h : -9223372036854775808 ≤ n ∧ n ≤ 18446744073709551615) (hn : ¬IsWord n) :
    ∃ x, numberOfText? s = some (.float x) ∧ x.units = (Json.Number.int n h).units := by
  obtain ⟨cs, hcs, hs⟩ := hs
  have hlarge : 9223372036854775807 < n := by
    rw [IsWord] at hn
    omega
  have hnone : signedWord? cs = none := by
    refine Option.eq_none_iff_forall_ne_some.mpr fun m hm => ?_
    obtain ⟨hm, hword⟩ := signedWord?_eq_some.mp hm
    have hread := integerOfChars?_eq_some.mpr hm
    rw [integerOfChars?_eq_some.mpr hcs, Option.some.injEq] at hread
    exact hn (hread ▸ hword)
  obtain ⟨negative, hdecimal, hnegative⟩ := hcs.isDecimal
  obtain ⟨x, hx, hxnegative, hmagnitude⟩ :=
    Binary64.exists_ofDecimal?_natural (show 2 ^ 52 ≤ n.natAbs by omega) (by omega) negative
  refine ⟨x, ?_, ?_⟩
  · rw [numberOfText?, hs.trimChars_eq hcs.isTrimmed, hnone,
      decimal?_eq_some.mpr ⟨_, _, _, hdecimal, hx⟩]
    rfl
  · rw [hnegative (by omega)] at hxnegative
    rw [Binary64.units, hxnegative, if_neg Bool.false_ne_true, hmagnitude, Json.Number.units,
      if_neg (by omega), Int.natCast_mul]

end

/-- Exact operands become the integers they are, wherever they stand. -/
lemma Json.IsExactInteger.numberOperand_eq {j : Json} {n : ℤ} (h : j.IsExactInteger n)
    (column : String) (operand : Operand) :
    numberOperand column operand (some j) = .ok (.int n) := by
  cases h with
  | number h => rfl
  | text hs hn => rw [numberOperand, hs.numberOfText?_eq hn]

/-! ## Conditions -/

/-- The condition that an operator puts on the column of a path, with the literals of its
operands. -/
def NumberOperator.condition (operator : NumberOperator) (p : ColumnPath) (label : String)
    (lower upper : Literal) : Condition :=
  let compare (op : Comparison) := Condition.ofExpr (.compare op (LeafFilter.numberExpr p label)
    (.literal lower))
  match operator with
  | .equals => compare .eq
  | .notEqual => compare .ne
  | .greaterThan => compare .gt
  | .greaterThanOrEqual => compare .ge
  | .lessThan => compare .lt
  | .lessThanOrEqual => compare .le
  | .inRange =>
    (Condition.all.addExpr (.compare .ge (LeafFilter.numberExpr p label) (.literal lower))).addExpr
      (.compare .le (LeafFilter.numberExpr p label) (.literal upper))
  | .blank => .ofExpr (.isNull false (p.expr label))
  | .notBlank => .ofExpr (.isNull true (p.expr label))

namespace LeafFilter

/-- A number filter with exact integers as operands; the second one is needed for a range only. -/
structure ComparesIntegers (f : LeafFilter) (operator : NumberOperator) (n m : ℤ) : Prop where
  kind : f.filterType = FilterKind.number.tag
  operator_eq : f.operator = some operator.tag
  filter : ∃ j, f.filter = some j ∧ j.IsExactInteger n
  filterTo : operator = .inRange → ∃ j, f.filterTo = some j ∧ j.IsExactInteger m

section

variable {f : LeafFilter} {operator : NumberOperator} {p : ColumnPath} {lower upper : Literal}
  (hkind : f.filterType = FilterKind.number.tag) (hoperator : f.operator = some operator.tag)
  (hlower : numberOperand p.id .filter f.filter = .ok lower)
  (hupper : operator = .inRange → numberOperand p.id .filterTo f.filterTo = .ok upper)
include hkind hoperator hlower hupper

/-- A number filter whose operands can be read has the condition of its operator. -/
lemma compile_number_eq (label : String) :
    f.compile p label = .ok (operator.condition p label lower upper) := by
  have hread : NumberOperator.ofTag operator.tag = .ok operator :=
    readTag_eq_ok.mpr (NumberOperator.isTagTable.find?_tag operator)
  rw [compile_of_kind .number hkind, compileAs]
  simp only [compileNumber, compareNumber, operatorTag, hoperator, hlower, bind, Except.bind, hread]
  cases operator with
  | inRange =>
    rw [hupper rfl]
    rfl
  | _ => rfl

/-- Through relations it asks for a related row that meets this condition. -/
lemma entry_number_eq (base : String) : (FilterNode.leaf f).entry p base =
    .ok (p.related base (operator.condition p (p.leafLabel base) lower upper)) := by
  have hselects : (FilterNode.leaf f).selectsNull = false := by
    rw [FilterNode.selectsNull, hkind]
    rfl
  rw [FilterNode.entry, FilterNode.compile, compile_number_eq hkind hoperator hlower hupper,
    hselects]
  cases p.missing? base <;> rfl

end

/-- What the operands of a filter with exact integers become. -/
lemma ComparesIntegers.operands_eq {f : LeafFilter} {operator : NumberOperator} {n m : ℤ}
    (h : f.ComparesIntegers operator n m) (p : ColumnPath) :
    numberOperand p.id .filter f.filter = .ok (.int n) ∧
      (operator = .inRange → numberOperand p.id .filterTo f.filterTo = .ok (.int m)) := by
  obtain ⟨j, hfilter, hj⟩ := h.filter
  refine ⟨by rw [hfilter, hj.numberOperand_eq], fun hrange => ?_⟩
  obtain ⟨k, hfilterTo, hk⟩ := h.filterTo hrange
  rw [hfilterTo, hk.numberOperand_eq]

/-- **Integer operands are exact**, as JSON numbers and as texts that fit 64 bits with a sign: the
condition of every operator on every path compares with the integer itself, so that filters that
differ only in the spellings of their integers have the same condition. The text of a larger
integer never becomes what the number becomes: it becomes the nearest double.

**Proof sketch.** A text is first read as an integer of 64 bits, which succeeds exactly for these.
What remains is a decimal without point and exponent, and large enough for a double to be found. -/
theorem integer_operands_exact (operator : NumberOperator) (p : ColumnPath) :
    (∀ (f : LeafFilter) (n m : ℤ), f.ComparesIntegers operator n m →
      (∀ label, f.compile p label = .ok (operator.condition p label (.int n) (.int m))) ∧
        ∀ base, (FilterNode.leaf f).entry p base =
          .ok (p.related base (operator.condition p (p.leafLabel base) (.int n) (.int m)))) ∧
    ∀ (n : ℤ) (h : -9223372036854775808 ≤ n ∧ n ≤ 18446744073709551615) (s : String),
      WritesInteger s n → ∀ operand,
      (numberOperand p.id operand (some (.string s)) =
        numberOperand p.id operand (some (.number (.int n h))) ↔ IsWord n) ∧
      (¬IsWord n → ∃ x, numberOperand p.id operand (some (.string s)) = .ok (.float x) ∧
        x.units = (Json.Number.int n h).units) := by
  refine ⟨fun f n m hf => ?_, fun n h s hs operand => ?_⟩
  · obtain ⟨hlower, hupper⟩ := hf.operands_eq p
    exact ⟨compile_number_eq hf.kind hf.operator_eq hlower hupper,
      entry_number_eq hf.kind hf.operator_eq hlower hupper⟩
  have hfloat : ¬IsWord n → ∃ x, numberOperand p.id operand (some (.string s)) = .ok (.float x) ∧
      x.units = (Json.Number.int n h).units := by
    intro hn
    obtain ⟨x, hx, hunits⟩ := hs.exists_numberOfText?_eq h hn
    exact ⟨x, by rw [numberOperand, hx], hunits⟩
  refine ⟨⟨fun hsame => ?_, fun hn => ?_⟩, hfloat⟩
  · by_contra hn
    obtain ⟨x, hx, -⟩ := hfloat hn
    rw [hx, (Json.IsExactInteger.number h).numberOperand_eq] at hsame
    cases hsame
  · rw [(Json.IsExactInteger.text hs hn).numberOperand_eq,
      (Json.IsExactInteger.number h).numberOperand_eq]

/-- A range of weights, from a text with a plus up to a JSON number that does not fit 64 bits with a
sign; and the text of this number. -/
theorem integer_operands_exact_weight :
    (FilterNode.leaf
      { filterType := "number", operator := some "inRange", filter := some (.string "\t+42 "),
        filterTo := some (.number (.int 18446744073709551615 (by decide))) }).entry
      ⟨"weight", [], "weight", [], .float⟩ "flamingos" =
    .ok ((Condition.all.addExpr (.compare .ge (.column "flamingos" "weight")
      (.literal (.int 42)))).addExpr (.compare .le (.column "flamingos" "weight")
      (.literal (.int 18446744073709551615)))) ∧
    ∃ x, numberOperand "weight" .filter (some (.string "18446744073709551615")) = .ok (.float x) ∧
      x.units = (Json.Number.int 18446744073709551615 (by decide)).units := by
  have htext : WritesInteger "\t+42 " 42 :=
    ⟨_, isInteger_plus (by decide : (0 : ℤ) ≤ 42), ['\t'], [' '], by decide, by decide, rfl⟩
  have hcompares : ComparesIntegers
      { filterType := "number", operator := some "inRange", filter := some (.string "\t+42 "),
        filterTo := some (.number (.int 18446744073709551615 (by decide))) }
      .inRange 42 18446744073709551615 :=
    ⟨rfl, rfl, ⟨_, rfl, .text htext ⟨by decide, by decide⟩⟩, fun _ => ⟨_, rfl, .number (by decide)⟩⟩
  have hlarge : WritesInteger "18446744073709551615" 18446744073709551615 :=
    ⟨_, isInteger_intText _, [], [], by decide, by decide, by decide +kernel⟩
  obtain ⟨hexact, hrounded⟩ :=
    integer_operands_exact .inRange ⟨"weight", [], "weight", [], .float⟩
  refine ⟨(hexact _ _ _ hcompares).2 "flamingos", ?_⟩
  exact (hrounded _ _ _ hlarge .filter).2 fun hword => absurd hword.2 (by decide)

/-- The largest integer of 64 bits is compared as it is when it is a JSON number, and as `2 ^ 64`
when it is a text. -/
theorem largest_integer_rounded :
    (FilterNode.leaf
      { filterType := "number", operator := some "equals",
        filter := some (.number (.int 18446744073709551615 (by decide))) }).entry
      ⟨"weight", [], "weight", [], .float⟩ "flamingos" =
    .ok (.ofExpr (.compare .eq (.column "flamingos" "weight")
      (.literal (.int 18446744073709551615)))) ∧
    (FilterNode.leaf
      { filterType := "number", operator := some "equals",
        filter := some (.string "18446744073709551615") }).entry
      ⟨"weight", [], "weight", [], .float⟩ "flamingos" =
    .ok (.ofExpr (.compare .eq (.column "flamingos" "weight")
      (.literal (.float ⟨0x43F0000000000000, by decide⟩)))) := by
  have hread : numberOfText? "18446744073709551615" =
      some (.float ⟨0x43F0000000000000, by decide⟩) := by decide +kernel
  have hentry : ∀ f : LeafFilter, f.filterType = "number" →
      f.operator = some NumberOperator.equals.tag →
      f.filter = some (.string "18446744073709551615") →
      (FilterNode.leaf f).entry ⟨"weight", [], "weight", [], .float⟩ "flamingos" =
        .ok (.ofExpr (.compare .eq (.column "flamingos" "weight")
          (.literal (.float ⟨0x43F0000000000000, by decide⟩)))) := by
    intro f hkind hoperator hfilter
    have hlower : numberOperand "weight" .filter f.filter =
        .ok (.float ⟨0x43F0000000000000, by decide⟩) := by rw [hfilter, numberOperand, hread]
    have hupper : NumberOperator.equals = .inRange →
        numberOperand "weight" .filterTo f.filterTo = .ok .null := nofun
    exact entry_number_eq (p := ⟨"weight", [], "weight", [], .float⟩) hkind hoperator hlower hupper
      "flamingos"
  exact ⟨rfl, hentry _ rfl rfl rfl⟩

end LeafFilter

end DataGrid
