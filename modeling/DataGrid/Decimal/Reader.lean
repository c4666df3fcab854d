import DataGrid.Decimal.Binary64

/-!
# Reading numbers

The numbers that decimal digits write: naturals, integers of 64 bits, and decimals with a fraction
and an exponent.

## Main definitions

* `DataGrid.digitsValue` — the number behind digits.
* `DataGrid.signedWord?` — an integer that fits 64 bits with a sign.
* `DataGrid.decimal?` — a decimal as the nearest double.
-/

namespace DataGrid

/-- The value of a decimal digit. -/
def digitValue (c : Char) : Nat := c.toNat - 48

/-- The natural number written by decimal digits. -/
def digitsValue (cs : List Char) : Nat := cs.foldl (fun n c => 10 * n + digitValue c) 0

/-- The natural number written by decimal digits, at least one. -/
def naturalOfChars? (cs : List Char) : Option Nat :=
  if cs.isEmpty || cs.any (fun c => !c.isDigit) then none else some (digitsValue cs)

/-- A sign taken off the front; plus is the default. -/
def takeSign : List Char → Bool × List Char
  | '-' :: rest => (true, rest)
  | '+' :: rest => (false, rest)
  | rest => (false, rest)

/-- The integer of at least one digit behind an optional sign. -/
def integerOfChars? (cs : List Char) : Option Int := do
  let (negative, digits) := takeSign cs
  let n ← naturalOfChars? digits
  return if negative then -(n : Int) else n

/-- An integer with an optional sign, if it fits 64 bits with a sign. -/
def signedWord? (cs : List Char) : Option Int := do
  let value ← integerOfChars? cs
  if -9223372036854775808 ≤ value ∧ value ≤ 9223372036854775807 then some value else none

/-- The exponent of a decimal: nothing, or an `e` and an integer. -/
def decimalExponent? : List Char → Option Int
  | [] => some 0
  | c :: rest => if c = 'e' ∨ c = 'E' then integerOfChars? rest else none

/-- A decimal with an optional sign, a point anywhere among or around its digits, and an optional
exponent, as the nearest double; none when it is malformed or too large. -/
def decimal? (cs : List Char) : Option Binary64 := do
  let (negative, cs) := takeSign cs
  let whole := cs.takeWhile Char.isDigit
  let (fraction, tail) := match cs.dropWhile Char.isDigit with
    | '.' :: rest => (rest.takeWhile Char.isDigit, rest.dropWhile Char.isDigit)
    | rest => ([], rest)
  if whole.isEmpty && fraction.isEmpty then none
  else
    let exponent ← decimalExponent? tail
    Binary64.ofDecimal? negative (digitsValue (whole ++ fraction)) (exponent - fraction.length)

end DataGrid
