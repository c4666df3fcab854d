/-!
# Finite binary64 values

A finite double is kept by its bits, so that equality is decidable and every comparison can be
made exactly: each finite double is a whole number of units of `2 ^ -1074`.

## Main definitions

* `DataGrid.Binary64` — bits whose exponent field is not the one of infinities and NaN.
* `DataGrid.Binary64.significand`, `DataGrid.Binary64.scale` — the magnitude
  `significand * 2 ^ (scale - 1074)`.
* `DataGrid.Binary64.units` — the value counted in units of `2 ^ -1074`, an exact integer.
* `DataGrid.nearest53` — a quotient rounded to 53 significant bits.
* `DataGrid.Binary64.ofMagnitude?` — the double with the given sign and magnitude.
* `DataGrid.Binary64.ofDecimal?` — the double nearest to a decimal, if it is finite.
* `DataGrid.Binary64.ofScaled?` — a 64-bit integer scaled by a power of ten, rounded twice.

## Implementation notes

No operation of the machine's floating point unit is used: magnitudes are natural numbers of units
and every rounding is `nearest53`, so each value can be computed inside a proof.
-/

namespace DataGrid

/-- Powers of natural numbers are those of the core library, whatever else is imported. -/
@[default_instance high]
scoped instance natPow : Pow Nat Nat := instPowNat

/-- A finite binary64 value. -/
structure Binary64 where
  /-- Sign, exponent and fraction, from the highest bit down. -/
  bits : UInt64
  /-- The exponent field of infinities and NaN is excluded. -/
  finite : (bits >>> 52) &&& 0x7FF ≠ 0x7FF
deriving DecidableEq

namespace Binary64

/-! ## The value behind the bits -/

/-- Whether the sign bit is set; negative zero is negative here. -/
def negative (x : Binary64) : Bool := (x.bits >>> 63) == 1

/-- The biased exponent. -/
def exponentField (x : Binary64) : Nat := ((x.bits >>> 52) &&& 0x7FF).toNat

/-- The stored fraction bits. -/
def fractionField (x : Binary64) : Nat := (x.bits &&& 0xFFFFFFFFFFFFF).toNat

/-- The integer significand: the fraction, with the leading bit of a normal number made
explicit. -/
def significand (x : Binary64) : Nat :=
  if x.exponentField = 0 then x.fractionField else 2 ^ 52 + x.fractionField

/-- The power of two on top of `2 ^ -1074`. -/
def scale (x : Binary64) : Nat := x.exponentField - 1

/-- The magnitude in units of `2 ^ -1074`. -/
def magnitude (x : Binary64) : Nat := x.significand * 2 ^ x.scale

/-- The value in units of `2 ^ -1074`. Both zeros have the value zero. -/
def units (x : Binary64) : Int := if x.negative then -(x.magnitude : Int) else x.magnitude

/-- The gap to the neighbour below is half of the gap to the neighbour above. -/
def narrowBelow (x : Binary64) : Bool := x.fractionField == 0 && x.exponentField > 1

/-! ## Rounding -/

end Binary64

/-- The natural number nearest to `n / d` among those with at most 53 significant bits; a tie goes
to the even significand. -/
def nearest53 (n d : Nat) : Nat :=
  let shift := (n / d).log2 - 52
  let unit := d * 2 ^ shift
  let below := n / unit
  let rest := n % unit
  if 2 * rest < unit ∨ (2 * rest = unit ∧ below % 2 = 0) then below * 2 ^ shift
  else (below + 1) * 2 ^ shift

namespace Binary64

/-- The double with the given sign and magnitude, a number of at most 53 significant bits; none
when it is beyond the largest double.

Exponent field and fraction are filled by one addition: the leading bit of a significand of
`2 ^ 52` or more carries into the exponent field. -/
def ofMagnitude? (negative : Bool) (m : Nat) : Option Binary64 :=
  let shift := m.log2 - 52
  let bits := shift * 2 ^ 52 + m / 2 ^ shift
  let word : UInt64 := .ofNat (if negative then 2 ^ 63 + bits else bits)
  if h : bits < 2047 * 2 ^ 52 ∧ (word >>> 52) &&& 0x7FF ≠ 0x7FF then some ⟨word, h.2⟩ else none

/-! ## Decimals -/

/-- The double nearest to `digits * 10 ^ exponent`, ties to even; none on overflow.

Decimals far beyond the range are decided by the place of their leading digit alone. -/
def ofDecimal? (negative : Bool) (digits : Nat) (exponent : Int) : Option Binary64 :=
  let lead := exponent + (Nat.toDigits 10 digits).length
  if digits = 0 ∨ lead < -400 then ofMagnitude? negative 0
  else if lead > 400 then none
  else
    ofMagnitude? negative
      (nearest53 (digits * 10 ^ exponent.toNat * 2 ^ 1074) (10 ^ (-exponent).toNat))

/-- The magnitude of the double nearest to a natural number. -/
def wordMagnitude (n : Nat) : Nat := nearest53 (n * 2 ^ 1074) 1

/-- The magnitude of the product of two doubles. -/
def productMagnitude (m n : Nat) : Nat := nearest53 (m * n) (2 ^ 1074)

/-- The magnitude of the quotient of two doubles. -/
def quotientMagnitude (m n : Nat) : Nat := nearest53 (m * 2 ^ 1074) n

/-- A 64-bit integer divided by `10 ^ n`, in steps of at most `10 ^ 308`. Two full steps leave
nothing of it. -/
def downscaled (significand n : Nat) : Nat :=
  if n ≤ 308 then quotientMagnitude (wordMagnitude significand) (wordMagnitude (10 ^ n))
  else if n ≤ 616 then
    quotientMagnitude (quotientMagnitude (wordMagnitude significand) (wordMagnitude (10 ^ 308)))
      (wordMagnitude (10 ^ (n - 308)))
  else 0

/-- A 64-bit integer, rounded to a double and then multiplied or divided by a power of ten with
one more rounding; none on overflow. This is how JSON documents are read: a decimal with at most
15 digits and an exponent up to 22 gives the nearest double, others may be one unit in the last
place off. -/
def ofScaled? (negative : Bool) (significand : Nat) (exponent : Int) : Option Binary64 :=
  if exponent < 0 then ofMagnitude? negative (downscaled significand exponent.natAbs)
  else if exponent ≤ 308 then
    ofMagnitude? negative
      (productMagnitude (wordMagnitude significand) (wordMagnitude (10 ^ exponent.toNat)))
  else if significand = 0 then ofMagnitude? negative 0
  else none

end Binary64

end DataGrid
