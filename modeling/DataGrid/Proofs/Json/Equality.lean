import Mathlib.Algebra.Order.Field.Power
import DataGrid.Proofs.Decimal.Nearest
import DataGrid.Proofs.Json.Order
import DataGrid.Proofs.Json.Text

/-!
# Equality of JSON values

Two notions of equality that look through arrays and objects and differ in what they ask of numbers.
Values are the same if they have the same numbers, by exact value, at every depth. Values compare
equal if their numbers outside objects become the same doubles, and their objects are the very same.

The two part where an integer is rounded to a double, and where one number is spelled in two ways
inside an object. Elsewhere they agree.

## Main definitions

* `DataGrid.Json.Agree` — equality of values up to given relations of numbers.
* `DataGrid.Json.SameValue`, `DataGrid.Json.Alike` — the two notions.
* `DataGrid.Json.Number.IsExact`, `DataGrid.Json.Number.IsPlain` — numbers that are their doubles,
  and numbers with the plainest spelling.

## Main results

* `DataGrid.Json.compare_eq_iff` — values that compare equal are those that are alike.
* `DataGrid.Json.sameValue_of_alike`, `DataGrid.Json.alike_of_sameValue` — where the two agree.
-/

namespace DataGrid

/-! ## Numbers -/

namespace Binary64

/-- The magnitude is the value without its sign. -/
lemma natAbs_units (x : Binary64) : x.units.natAbs = x.magnitude := by
  rw [units]
  split <;> omega

/-- A natural number of which a multiple by a power of two is the magnitude of a double has at most
53 significant bits.

**Proof sketch.** The significand of the double has at most 53 bits, so what the number has beyond
53 bits is within the scale of the double, which divides the magnitude. -/
lemma dvd_of_mul_eq_magnitude {x : Binary64} {n k : ℕ} (h : n * 2 ^ k = x.magnitude) :
    2 ^ (n.log2 - 52) ∣ n := by
  by_cases hshort : n.log2 ≤ 52
  · rw [Nat.sub_eq_zero_of_le hshort, Nat.pow_zero]
    exact Nat.one_dvd n
  · have hn : n ≠ 0 := by
      rintro rfl
      exact hshort (by decide)
    have hscale : n.log2 + k < 53 + x.scale := by
      refine (Nat.pow_lt_pow_iff_right (by decide : 1 < 2)).mp ?_
      calc 2 ^ (n.log2 + k) = 2 ^ n.log2 * 2 ^ k := Nat.pow_add 2 _ _
        _ ≤ n * 2 ^ k := Nat.mul_le_mul_right _ (Nat.log2_self_le hn)
        _ = x.significand * 2 ^ x.scale := h
        _ < 2 ^ 53 * 2 ^ x.scale :=
          Nat.mul_lt_mul_of_pos_right x.significand_lt (Nat.two_pow_pos _)
        _ = 2 ^ (53 + x.scale) := (Nat.pow_add 2 _ _).symm
    have hdvd : 2 ^ (n.log2 - 52) * 2 ^ k ∣ n * 2 ^ k := by
      rw [h, ← Nat.pow_add]
      exact Dvd.dvd.mul_left (Nat.pow_dvd_pow 2 (by omega)) _
    exact Nat.dvd_of_mul_dvd_mul_right (Nat.two_pow_pos k) hdvd

/-- The sign of a double other than zero is the one of its value. -/
lemma negative_eq_decide {x : Binary64} (h : x.units ≠ 0) : x.negative = decide (x.units < 0) := by
  unfold units at h ⊢
  cases hsign : x.negative with
  | false =>
    rw [if_neg Bool.false_ne_true]
    exact (decide_eq_false (by omega)).symm
  | true =>
    rw [hsign, if_pos rfl] at h
    rw [if_pos rfl]
    exact (decide_eq_true (by omega)).symm

/-- Doubles of the same value other than zero are the same. -/
lemma eq_of_units_eq {x y : Binary64} (hzero : x.units ≠ 0) (h : x.units = y.units) : x = y := by
  have hsign : x.negative = y.negative := by
    rw [negative_eq_decide hzero, negative_eq_decide (h ▸ hzero), h]
  have hmagnitude : x.magnitude = y.magnitude := by
    rw [← natAbs_units, ← natAbs_units, h]
  exact eq_of_magnitude hsign hmagnitude

end Binary64

namespace Json.Number

/-- The value of a number, in units of `2 ^ -1074`. Integers are not rounded. -/
def exact : Number → ℤ
  | .int n _ => n * (2 ^ 1074 : ℕ)
  | .float x => x.units

/-- The double that the number becomes has its value. A number that is a double is exact. -/
def IsExact (n : Number) : Prop := n.units = n.exact

/-- The number is spelled as an integer, unless no integer of the exact range has its value. -/
def IsPlain : Number → Prop
  | .int _ _ => True
  | .float x => ∀ n h, (Number.int n h).exact ≠ x.units

/-- An integer is exact where rounding leaves it. -/
lemma isExact_int {n : ℤ} {h : -9223372036854775808 ≤ n ∧ n ≤ 18446744073709551615}
    (hnearest : nearest53 n.natAbs 1 = n.natAbs) : (Number.int n h).IsExact := by
  rw [IsExact, units, exact, hnearest]
  split
  · next hnegative => rw [show -(n.natAbs : ℤ) = n by omega]
  · next hpositive => rw [show (n.natAbs : ℤ) = n by omega]

/-- An integer with the value of a double is exact: it has no more bits than the double. -/
lemma isExact_of_exact_eq_units {n : ℤ} {h : -9223372036854775808 ≤ n ∧ n ≤ 18446744073709551615}
    {x : Binary64} (hvalue : (Number.int n h).exact = x.units) : (Number.int n h).IsExact := by
  refine isExact_int (nearest53_of_dvd (Binary64.dvd_of_mul_eq_magnitude (x := x) (k := 1074) ?_))
  rw [← x.natAbs_units, ← hvalue, exact, Int.natAbs_mul, Int.natAbs_natCast]

/-- Numbers of the same value become the same double. -/
lemma units_eq_of_exact_eq {m n : Number} (h : m.exact = n.exact) : m.units = n.units := by
  cases m with
  | int m hm =>
    cases n with
    | int n hn =>
      obtain rfl : m = n := Int.eq_of_mul_eq_mul_right (by positivity) h
      rfl
    | float y =>
      rw [isExact_of_exact_eq_units h, h]
      rfl
  | float x =>
    cases n with
    | int n hn =>
      rw [isExact_of_exact_eq_units h.symm, ← h]
      rfl
    | float y => exact h

/-- **Plain numbers of the same value are the same.** -/
lemma eq_of_exact_eq {m n : Number} (hm : m.IsPlain) (hn : n.IsPlain) (h : m.exact = n.exact) :
    m = n := by
  cases m with
  | int m hm =>
    cases n with
    | int n hn =>
      obtain rfl : m = n := Int.eq_of_mul_eq_mul_right (by positivity) h
      rfl
    | float y => exact absurd h (hn m _)
  | float x =>
    cases n with
    | int n hn => exact absurd h.symm (hm n _)
    | float y =>
      have hzero : x.units ≠ 0 := by
        have hnone := hm 0 (by decide)
        rw [exact, Int.zero_mul] at hnone
        exact hnone.symm
      rw [Binary64.eq_of_units_eq hzero h]

end Json.Number

namespace Json

/-! ## Equality up to numbers -/

mutual

/-- Equality of values, where numbers are compared by `R` outside objects and by `S` inside them.
Arrays are compared element by element, objects member by member, as their keys ascend. -/
def Agree (R S : Number → Number → Prop) : Json → Json → Prop
  | .null, .null => True
  | .bool a, .bool b => a = b
  | .number m, .number n => R m n
  | .string s, .string t => s = t
  | .array xs, .array ys => AgreeItems R S xs ys
  | .object xs, .object ys => AgreeMembers S xs ys
  | _, _ => False

/-- Equality of lists of elements. -/
def AgreeItems (R S : Number → Number → Prop) : List Json → List Json → Prop
  | [], [] => True
  | x :: xs, y :: ys => Agree R S x y ∧ AgreeItems R S xs ys
  | _, _ => False

/-- Equality of lists of members. -/
def AgreeMembers (S : Number → Number → Prop) :
    List (String × Json) → List (String × Json) → Prop
  | [], [] => True
  | (k, x) :: xs, (l, y) :: ys => k = l ∧ Agree S S x y ∧ AgreeMembers S xs ys
  | _, _ => False

end

/-- The same value: numbers are compared by exact value, at every depth. -/
def SameValue : Json → Json → Prop :=
  Agree (fun m n => m.exact = n.exact) fun m n => m.exact = n.exact

/-- Numbers outside objects become the same doubles, and objects are the very same. -/
def Alike : Json → Json → Prop := Agree (fun m n => m.units = n.units) Eq

mutual

/-- The numbers of a value that are in no object. -/
def outerNumbers : Json → List Number
  | .number n => [n]
  | .array items => outerNumbersOf items
  | _ => []

/-- The numbers of elements that are in no object. -/
def outerNumbersOf : List Json → List Number
  | [] => []
  | j :: rest => outerNumbers j ++ outerNumbersOf rest

end

mutual

/-- The numbers of a value that are in an object. -/
def innerNumbers : Json → List Number
  | .array items => innerNumbersOf items
  | .object members => memberNumbers members
  | _ => []

/-- The numbers of elements that are in an object. -/
def innerNumbersOf : List Json → List Number
  | [] => []
  | j :: rest => innerNumbers j ++ innerNumbersOf rest

/-- All numbers of members. -/
def memberNumbers : List (String × Json) → List Number
  | [] => []
  | (_, j) :: rest => outerNumbers j ++ innerNumbers j ++ memberNumbers rest

end

/-! ## Other relations of numbers -/

mutual

/-- **Values agree up to other relations** if their numbers do.

**Proof sketch.** Induction over the first value. Elements of arrays have their numbers among those
of the array, be they in objects or not; values of members have all of theirs among those of the
object that are in objects. -/
theorem Agree.mono {R R' S S' : Number → Number → Prop} {a b : Json} (h : Agree R S a b)
    (houter : ∀ m ∈ a.outerNumbers, ∀ n ∈ b.outerNumbers, R m n → R' m n)
    (hinner : ∀ m ∈ a.innerNumbers, ∀ n ∈ b.innerNumbers, S m n → S' m n) : Agree R' S' a b := by
  cases a with
  | null => cases b with
    | null => trivial
    | _ => exact h.elim
  | bool x => cases b with
    | bool y => exact h
    | _ => exact h.elim
  | number m => cases b with
    | number n => exact houter m (List.mem_singleton_self m) n (List.mem_singleton_self n) h
    | _ => exact h.elim
  | string s => cases b with
    | string t => exact h
    | _ => exact h.elim
  | array xs => cases b with
    | array ys => exact @AgreeItems.mono R R' S S' xs ys h houter hinner
    | _ => exact h.elim
  | object xs => cases b with
    | object ys => exact @AgreeMembers.mono S S' xs ys h hinner
    | _ => exact h.elim

/-- So do lists of elements. -/
theorem AgreeItems.mono {R R' S S' : Number → Number → Prop} {xs ys : List Json}
    (h : AgreeItems R S xs ys)
    (houter : ∀ m ∈ outerNumbersOf xs, ∀ n ∈ outerNumbersOf ys, R m n → R' m n)
    (hinner : ∀ m ∈ innerNumbersOf xs, ∀ n ∈ innerNumbersOf ys, S m n → S' m n) :
    AgreeItems R' S' xs ys := by
  match xs, ys with
  | [], [] => trivial
  | [], _ :: _ => exact h.elim
  | _ :: _, [] => exact h.elim
  | x :: xs, y :: ys =>
    refine ⟨Agree.mono h.1 (fun m hm n hn => ?_) fun m hm n hn => ?_,
      AgreeItems.mono h.2 (fun m hm n hn => ?_) fun m hm n hn => ?_⟩
    · exact houter m (List.mem_append_left _ hm) n (List.mem_append_left _ hn)
    · exact hinner m (List.mem_append_left _ hm) n (List.mem_append_left _ hn)
    · exact houter m (List.mem_append_right _ hm) n (List.mem_append_right _ hn)
    · exact hinner m (List.mem_append_right _ hm) n (List.mem_append_right _ hn)

/-- So do lists of members. -/
theorem AgreeMembers.mono {S S' : Number → Number → Prop} {xs ys : List (String × Json)}
    (h : AgreeMembers S xs ys)
    (hnumbers : ∀ m ∈ memberNumbers xs, ∀ n ∈ memberNumbers ys, S m n → S' m n) :
    AgreeMembers S' xs ys := by
  match xs, ys with
  | [], [] => trivial
  | [], _ :: _ => exact h.elim
  | _ :: _, [] => exact h.elim
  | (k, x) :: xs, (l, y) :: ys =>
    obtain ⟨hkey, hvalue, hrest⟩ := h
    refine ⟨hkey, Agree.mono hvalue (fun m hm n hn => ?_) fun m hm n hn => ?_,
      AgreeMembers.mono hrest fun m hm n hn => ?_⟩
    · exact hnumbers m (List.mem_append_left _ (List.mem_append_left _ hm)) n
        (List.mem_append_left _ (List.mem_append_left _ hn))
    · exact hnumbers m (List.mem_append_left _ (List.mem_append_right _ hm)) n
        (List.mem_append_left _ (List.mem_append_right _ hn))
    · exact hnumbers m (List.mem_append_right _ hm) n (List.mem_append_right _ hn)

end

/-! ## Identity -/

mutual

/-- Values that agree on the numbers themselves are the same. -/
theorem eq_of_agree {a b : Json} (h : Agree Eq Eq a b) : a = b := by
  cases a with
  | null => cases b with
    | null => rfl
    | _ => exact h.elim
  | bool x => cases b with
    | bool y => exact congrArg Json.bool h
    | _ => exact h.elim
  | number m => cases b with
    | number n => exact congrArg Json.number h
    | _ => exact h.elim
  | string s => cases b with
    | string t => exact congrArg Json.string h
    | _ => exact h.elim
  | array xs => cases b with
    | array ys => exact congrArg Json.array (@eq_of_agreeItems xs ys h)
    | _ => exact h.elim
  | object xs => cases b with
    | object ys => exact congrArg Json.object (@eq_of_agreeMembers xs ys h)
    | _ => exact h.elim

/-- Items that agree up to equality of numbers are equal. -/
theorem eq_of_agreeItems {xs ys : List Json} (h : AgreeItems Eq Eq xs ys) : xs = ys := by
  match xs, ys with
  | [], [] => rfl
  | [], _ :: _ => exact h.elim
  | _ :: _, [] => exact h.elim
  | x :: xs, y :: ys => rw [eq_of_agree h.1, eq_of_agreeItems h.2]

/-- Members that agree up to equality of numbers are equal. -/
theorem eq_of_agreeMembers {xs ys : List (String × Json)} (h : AgreeMembers Eq xs ys) :
    xs = ys := by
  match xs, ys with
  | [], [] => rfl
  | [], _ :: _ => exact h.elim
  | _ :: _, [] => exact h.elim
  | (k, x) :: xs, (l, y) :: ys =>
    obtain ⟨hkey, hvalue, hrest⟩ := h
    rw [hkey, eq_of_agree hvalue, eq_of_agreeMembers hrest]

end

mutual

/-- A value agrees with itself. -/
theorem agree_refl {R S : Number → Number → Prop} (hR : ∀ n, R n n) (hS : ∀ n, S n n) :
    ∀ a : Json, Agree R S a a
  | .null => trivial
  | .bool _ => rfl
  | .number n => hR n
  | .string _ => rfl
  | .array items => agreeItems_refl hR hS items
  | .object members => agreeMembers_refl hS members

/-- Items agree with themselves. -/
theorem agreeItems_refl {R S : Number → Number → Prop} (hR : ∀ n, R n n) (hS : ∀ n, S n n) :
    ∀ items : List Json, AgreeItems R S items items
  | [] => trivial
  | j :: rest => ⟨agree_refl hR hS j, agreeItems_refl hR hS rest⟩

/-- Members agree with themselves. -/
theorem agreeMembers_refl {S : Number → Number → Prop} (hS : ∀ n, S n n) :
    ∀ members : List (String × Json), AgreeMembers S members members
  | [] => trivial
  | (_, j) :: rest => ⟨rfl, agree_refl hS hS j, agreeMembers_refl hS rest⟩

end

/-! ## Values that compare equal -/

mutual

/-- **Values that compare equal** are those that are alike.

**Proof sketch.** Induction over the first value. Objects compare equal where their texts are the
same, and the text of a value determines it (`text_injective`). -/
theorem compare_eq_iff {a b : Json} : compare a b = .eq ↔ Alike a b := by
  cases a with
  | null => cases b with
    | null => exact iff_of_true rfl trivial
    | _ => exact iff_of_false (fun h => by cases rank_eq_of_compare h) id
  | bool x => cases b with
    | bool y => exact Std.LawfulEqOrd.compare_eq_iff_eq (a := x) (b := y)
    | _ => exact iff_of_false (fun h => by cases rank_eq_of_compare h) id
  | number m => cases b with
    | number n => exact Std.LawfulEqOrd.compare_eq_iff_eq (a := m.units) (b := n.units)
    | _ => exact iff_of_false (fun h => by cases rank_eq_of_compare h) id
  | string s => cases b with
    | string t => exact Std.LawfulEqOrd.compare_eq_iff_eq (a := s) (b := t)
    | _ => exact iff_of_false (fun h => by cases rank_eq_of_compare h) id
  | array xs => cases b with
    | array ys => exact @compareItems_eq_iff xs ys
    | _ => exact iff_of_false (fun h => by cases rank_eq_of_compare h) id
  | object xs => cases b with
    | object ys =>
      have htexts : compare (.object xs) (.object ys) = .eq ↔
          (Json.object xs).text = (Json.object ys).text :=
        Std.LawfulEqOrd.compare_eq_iff_eq
      rw [htexts]
      constructor
      · intro h
        rw [text_injective h]
        exact agree_refl (fun _ => rfl) (fun _ => rfl) (.object ys)
      · intro h
        rw [@eq_of_agreeMembers xs ys h]
    | _ => exact iff_of_false (fun h => by cases rank_eq_of_compare h) id

/-- So it is for elements. -/
theorem compareItems_eq_iff {xs ys : List Json} : compareItems xs ys = .eq ↔
    AgreeItems (fun m n => m.units = n.units) Eq xs ys := by
  match xs, ys with
  | [], [] => exact iff_of_true rfl trivial
  | [], _ :: _ => exact iff_of_false nofun id
  | _ :: _, [] => exact iff_of_false nofun id
  | x :: xs, y :: ys =>
    rw [compareItems_cons_eq, compare_eq_iff, compareItems_eq_iff]
    rfl

end

/-! ## Where the two notions agree -/

/-- **Values that are alike are the same** where integers outside objects are not rounded. -/
theorem sameValue_of_alike {a b : Json} (h : a.Alike b) (ha : ∀ n ∈ a.outerNumbers, n.IsExact)
    (hb : ∀ n ∈ b.outerNumbers, n.IsExact) : a.SameValue b := by
  refine h.mono (fun m hm n hn hunits => ?_) fun m _ n _ hsame => by rw [hsame]
  rw [← ha m hm, ← hb n hn, hunits]

/-- **The same values are alike** where numbers inside objects are spelled plainly. -/
theorem alike_of_sameValue {a b : Json} (h : a.SameValue b) (ha : ∀ n ∈ a.innerNumbers, n.IsPlain)
    (hb : ∀ n ∈ b.innerNumbers, n.IsPlain) : a.Alike b :=
  h.mono (fun _ _ _ _ hexact => Number.units_eq_of_exact_eq hexact)
    fun m hm n hn hexact => Number.eq_of_exact_eq (ha m hm) (hb n hn) hexact

end Json

end DataGrid
