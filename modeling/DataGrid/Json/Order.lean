import DataGrid.Json.Printer

/-!
# The order of JSON values

A comparison across all kinds of values: null, booleans, numbers, strings, arrays, objects.
Numbers compare by the double they become, strings by code points, arrays element by element and
then by length, objects by their compact text.

## Main definitions

* `DataGrid.Json.Number.units` — the value of a number as a double, in units of `2 ^ -1074`.
* `DataGrid.Json.compare` — the comparison.
-/

namespace DataGrid.Json

/-- The value of a number as a double, in units of `2 ^ -1074`. Integers beyond 53 bits are
rounded, so neighbours among them can have the same value. -/
def Number.units : Number → Int
  | .int n _ =>
    (if n < 0 then -(nearest53 n.natAbs 1 : Int) else nearest53 n.natAbs 1) * (2 ^ 1074 : Nat)
  | .float x => x.units

/-- The place of a value's kind in the order. -/
def rank : Json → Nat
  | .null => 0
  | .bool _ => 1
  | .number _ => 2
  | .string _ => 3
  | .array _ => 4
  | .object _ => 5

mutual

/-- The order of two values. -/
def compare : Json → Json → Ordering
  | .bool a, .bool b => Ord.compare a b
  | .number m, .number n => Ord.compare m.units n.units
  | .string s, .string t => Ord.compare s t
  | .array xs, .array ys => compareItems xs ys
  | .object xs, .object ys => Ord.compare (Json.object xs).text (Json.object ys).text
  | a, b => Ord.compare a.rank b.rank

/-- The first difference of the elements decides, then the length. -/
def compareItems : List Json → List Json → Ordering
  | [], [] => .eq
  | [], _ :: _ => .lt
  | _ :: _, [] => .gt
  | x :: xs, y :: ys =>
    match compare x y with
    | .eq => compareItems xs ys
    | o => o

end

end DataGrid.Json
