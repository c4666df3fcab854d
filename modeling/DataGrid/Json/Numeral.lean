import DataGrid.Decimal.Reader
import DataGrid.Json.Basic

/-!
# Numerals of JSON

The grammar of a JSON number and the value it denotes. A numeral without fraction and exponent is
an exact integer as long as it fits; every other numeral is a double, read from its leading
64-bit significand.

## Main definitions

* `DataGrid.Json.Numeral` — the parts of a numeral.
* `DataGrid.Json.Numeral.ofChars?` — the grammar.
* `DataGrid.Json.Numeral.number?` — the value; none when the numeral overflows.
-/

namespace DataGrid.Json

/-- The parts of a numeral. -/
structure Numeral where
  negative : Bool
  whole : List Char
  /-- The digits behind the point, at least one. -/
  fraction : Option (List Char)
  exponent : Option Int

namespace Numeral

/-! ## Grammar -/

/-- What follows the whole part: nothing, a fraction, an exponent, or both. -/
def tailOfChars? : List Char → Option (Option (List Char) × Option Int)
  | [] => some (none, none)
  | '.' :: rest =>
    let fraction := rest.takeWhile Char.isDigit
    if fraction.isEmpty then none
    else match rest.dropWhile Char.isDigit with
      | [] => some (some fraction, none)
      | c :: tail =>
        if c = 'e' ∨ c = 'E' then (integerOfChars? tail).map fun e => (some fraction, some e)
        else none
  | c :: tail =>
    if c = 'e' ∨ c = 'E' then (integerOfChars? tail).map fun e => (none, some e) else none

/-- The grammar of a numeral: an optional minus, digits without a leading zero, an optional
fraction, an optional exponent. -/
def ofChars? (cs : List Char) : Option Numeral :=
  let (negative, unsigned) := match cs with
    | '-' :: rest => (true, rest)
    | rest => (false, rest)
  let whole := unsigned.takeWhile Char.isDigit
  if whole.isEmpty || (whole.head? == some '0' && whole.length > 1) then none
  else (tailOfChars? (unsigned.dropWhile Char.isDigit)).map fun (fraction, exponent) =>
    { negative, whole, fraction, exponent }

/-! ## Value -/

/-- The largest significand. -/
def maxSignificand : Nat := 18446744073709551615

/-- Digits appended to a significand while it fits 64 bits, with the number of digits that no
longer do. -/
def appendDigits : Nat → List Char → Nat × Nat
  | n, [] => (n, 0)
  | n, c :: cs =>
    if 10 * n + digitValue c ≤ maxSignificand then appendDigits (10 * n + digitValue c) cs
    else (n, cs.length + 1)

/-- The value of a numeral. The digits that fit a 64-bit significand count, those behind only move
the exponent; none when the result is beyond the largest double. -/
def number? (x : Numeral) : Option Number :=
  let (significand, dropped) := appendDigits 0 x.whole
  match x.fraction, x.exponent with
  | none, none =>
    let n : Int := if x.negative then -(significand : Int) else significand
    if dropped = 0 ∧ ¬ (x.negative ∧ significand = 0) then
      match Number.ofInt? n with
      | some value => some value
      | none => (Binary64.ofScaled? x.negative significand 0).map .float
    else (Binary64.ofScaled? x.negative significand dropped).map .float
  | fraction, exponent =>
    let digits := fraction.getD []
    let (significand, lost) := appendDigits significand digits
    let kept : Int := digits.length - lost
    (Binary64.ofScaled? x.negative significand
      (dropped - kept + exponent.getD 0)).map .float

end Numeral

end DataGrid.Json
