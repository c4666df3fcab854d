import DataGrid.Decimal.Binary64
import DataGrid.Keyed

/-!
# JSON values

The values of a JSON document. Integers from `-2 ^ 63` to `2 ^ 64 - 1` are exact; every other
number is a finite double. An object is the list of its members; in *canonical* form the keys
ascend and none occurs twice.

## Main definitions

* `DataGrid.Json`, `DataGrid.Json.Number` — the values.
* `DataGrid.Json.canonical` — keys in ascending order, the last of equal keys kept.
* `DataGrid.Json.get?`, `DataGrid.Json.set` — the member of an object, and the object with a
  member replaced or added.
* `DataGrid.Json.same` — equality of values, where numbers of one kind are equal by value.
-/

namespace DataGrid

/-- A JSON number. -/
inductive Json.Number where
  /-- An integer in the range of signed or unsigned 64-bit words. -/
  | int (n : Int) (inRange : -9223372036854775808 ≤ n ∧ n ≤ 18446744073709551615)
  /-- Any other number. -/
  | float (x : Binary64)
deriving DecidableEq

/-- A JSON value. -/
inductive Json where
  | null
  | bool (b : Bool)
  | number (n : Json.Number)
  | string (s : String)
  | array (items : List Json)
  | object (members : List (String × Json))

namespace Json

/-! ## Numbers -/

/-- An integer, if it is in the exact range. -/
def Number.ofInt? (n : Int) : Option Number :=
  if h : -9223372036854775808 ≤ n ∧ n ≤ 18446744073709551615 then some (.int n h) else none

/-- A 64-bit word. -/
def Number.ofUInt64 (n : UInt64) : Number :=
  .int n.toNat ⟨by omega, by have h := n.toNat_lt; omega⟩

/-- The number as a 64-bit word, if it is a non-negative integer. -/
def Number.toUInt64? : Number → Option UInt64
  | .int n _ => if 0 ≤ n then some n.toNat.toUInt64 else none
  | .float _ => none

/-! ## Views -/

/-- Whether the value is `null`. -/
def isNull : Json → Bool
  | .null => true
  | _ => false

/-- The text of a string. -/
def string? : Json → Option String
  | .string s => some s
  | _ => none

/-- The truth value. -/
def bool? : Json → Option Bool
  | .bool b => some b
  | _ => none

/-- The elements of an array. -/
def array? : Json → Option (List Json)
  | .array items => some items
  | _ => none

/-- The members of an object. -/
def object? : Json → Option (List (String × Json))
  | .object members => some members
  | _ => none

/-- The non-negative integer that fits a 64-bit word. -/
def uint64? : Json → Option UInt64
  | .number n => n.toUInt64?
  | _ => none

/-- The member of an object; other values have no members. -/
def get? (j : Json) (key : String) : Option Json :=
  match j with
  | .object members => Keyed.find? key members
  | _ => none

/-! ## Canonical form -/

/-- The object with a member replaced or added; other values are left alone. -/
def set (j : Json) (key : String) (value : Json) : Json :=
  match j with
  | .object members => .object (Keyed.insert key value members)
  | other => other

mutual

/-- The same value with ascending keys in every object; the last of equal keys is kept. -/
def canonical : Json → Json
  | .array items => .array (canonicalItems items)
  | .object members => .object (Keyed.ofList (canonicalMembers members))
  | .null => .null
  | .bool b => .bool b
  | .number n => .number n
  | .string s => .string s

/-- Every element in canonical form. -/
def canonicalItems : List Json → List Json
  | [] => []
  | j :: rest => canonical j :: canonicalItems rest

/-- Every member value in canonical form. -/
def canonicalMembers : List (String × Json) → List (String × Json)
  | [] => []
  | (k, j) :: rest => (k, canonical j) :: canonicalMembers rest

end

/-! ## Equality -/

/-- Numbers of one kind are equal by value, so both zeros of a float are the same number; an
integer is never equal to a float. -/
def Number.same : Number → Number → Bool
  | .int m _, .int n _ => m == n
  | .float x, .float y => x.units == y.units
  | _, _ => false

mutual

/-- Equality of two canonical values. -/
def same : Json → Json → Bool
  | .null, .null => true
  | .bool a, .bool b => a == b
  | .number m, .number n => m.same n
  | .string s, .string t => s == t
  | .array xs, .array ys => sameItems xs ys
  | .object xs, .object ys => sameMembers xs ys
  | _, _ => false

/-- Elementwise equality. -/
def sameItems : List Json → List Json → Bool
  | [], [] => true
  | x :: xs, y :: ys => same x y && sameItems xs ys
  | _, _ => false

/-- Memberwise equality. -/
def sameMembers : List (String × Json) → List (String × Json) → Bool
  | [], [] => true
  | (k, x) :: xs, (l, y) :: ys => k == l && same x y && sameMembers xs ys
  | _, _ => false

end

end Json

end DataGrid
