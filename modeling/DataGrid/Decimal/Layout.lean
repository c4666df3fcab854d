import DataGrid.Decimal.Shortest

/-!
# Layout of numbers

How the digits of a number become text. What is decided per format stands in one record; the
placing of the point is common to all of them.

## Main definitions

* `DataGrid.Layout` — the decisions of a number format.
* `DataGrid.Layout.render` — the text of a double.
* `DataGrid.intText` — an integer in decimal.
-/

namespace DataGrid

/-- The decisions of a number format. -/
structure Layout where
  /-- The exponents of the leading digit that are written with a plain point; all, if none is
  given. -/
  plain : Option (Int × Int)
  /-- Whole numbers keep a fraction `.0`. -/
  pointZero : Bool
  /-- Which of two equally near shortest decimals is written. -/
  tie : Tie

/-- The digits of a natural number. -/
def natDigits (n : Nat) : List Char := Nat.toDigits 10 n

/-- An integer in decimal, with a minus sign if it is negative. -/
def intText (n : Int) : String :=
  String.ofList (if n < 0 then '-' :: natDigits n.natAbs else natDigits n.natAbs)

namespace Layout

/-- Digits with the point after the first `whole` of them; zeros are filled in on either side. -/
def plainText (l : Layout) (digits : List Char) (whole : Int) : List Char :=
  if whole ≤ 0 then '0' :: '.' :: (List.replicate whole.natAbs '0' ++ digits)
  else if digits.length ≤ whole.toNat then
    digits ++ List.replicate (whole.toNat - digits.length) '0' ++
      (if l.pointZero then ['.', '0'] else [])
  else digits.take whole.toNat ++ '.' :: digits.drop whole.toNat

/-- One digit before the point, and an exponent with its sign. -/
def scientificText (digits : List Char) (exponent : Int) : List Char :=
  let fraction := digits.drop 1
  digits.take 1 ++ (if fraction.isEmpty then [] else '.' :: fraction) ++
    'e' :: (if exponent < 0 then '-' else '+') :: natDigits exponent.natAbs

/-- The text of a magnitude given by its shortest decimal. -/
def magnitudeText (l : Layout) (d : Decimal) : List Char :=
  let digits := natDigits d.digits
  let lead := d.exponent + digits.length - 1
  match l.plain with
  | none => l.plainText digits (lead + 1)
  | some (low, high) =>
    if low ≤ lead ∧ lead ≤ high then l.plainText digits (lead + 1)
    else scientificText digits lead

/-- The text of a double: the sign, also of negative zero, and its shortest digits. -/
def render (l : Layout) (x : Binary64) : String :=
  let text := l.magnitudeText (x.shortest l.tie)
  String.ofList (if x.negative then '-' :: text else text)

end Layout

end DataGrid
