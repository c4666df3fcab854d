import DataGrid.Decimal.Binary64

/-!
# The shortest decimal of a double

The fewest decimal digits that identify a double among all doubles, found in exact arithmetic.
For one, two, … digits the two neighbours of the value on that decimal grid are tested; the first
grid with a neighbour that reads back wins, of two such neighbours the nearer one.

## Main definitions

* `DataGrid.Decimal` — `digits * 10 ^ exponent`.
* `DataGrid.Binary64.readsBack` — a decimal lies among the reals that round to the double.
* `DataGrid.Binary64.shortest` — the shortest decimal.
-/

namespace DataGrid

/-- The decimal `digits * 10 ^ exponent`. -/
structure Decimal where
  digits : Nat
  exponent : Int
deriving DecidableEq, Repr

/-- Which of two equally near candidates is taken. -/
inductive Tie where
  /-- The candidate with the even last digit. -/
  | toEven
  /-- The larger candidate. -/
  | up
deriving DecidableEq

namespace Binary64

/-! ## The rounding interval -/

/-- Compare `a * 10 ^ i` with `n * 2 ^ j`, exactly. -/
def compareScaled (a : Nat) (i : Int) (n : Nat) (j : Int) : Ordering :=
  compare (a * 10 ^ i.toNat * 2 ^ (-j).toNat) (n * 2 ^ j.toNat * 10 ^ (-i).toNat)

/-- The binary exponent of the significand. -/
def exponent (x : Binary64) : Int := (x.scale : Int) - 1074

/-- A decimal reads back as the magnitude of `x` when it lies between the halfway points to the
two neighbours; the halfway points themselves belong to the even significand. -/
def readsBack (x : Binary64) (d : Decimal) : Bool :=
  let low := if x.narrowBelow then 4 * x.significand - 1 else 4 * x.significand - 2
  let high := 4 * x.significand + 2
  let closed := x.significand % 2 == 0
  let atLow := compareScaled d.digits d.exponent low (x.exponent - 2)
  let atHigh := compareScaled d.digits d.exponent high (x.exponent - 2)
  (atLow == .gt || (closed && atLow == .eq)) && (atHigh == .lt || (closed && atHigh == .eq))

/-! ## The search -/

/-- The magnitude lies below `10 ^ k`. -/
def belowPower (x : Binary64) (k : Int) : Bool :=
  compareScaled 1 k x.significand x.exponent == .gt

/-- An estimate of the number of digits before the point, from the binary logarithm. -/
def estimatedPlace (x : Binary64) : Int :=
  ((x.significand.log2 : Int) + x.exponent) * 1233 / 4096 + 1

/-- The least `k` such that a non-zero magnitude lies below `10 ^ k`: the estimate is at most one
step off. -/
def place (x : Binary64) : Int :=
  let k := x.estimatedPlace
  if !x.belowPower k then k + 1 else if x.belowPower (k - 1) then k - 1 else k

/-- The whole number of `10 ^ e` in the magnitude. -/
def floorAt (x : Binary64) (e : Int) : Nat :=
  (x.significand * 2 ^ x.exponent.toNat * 10 ^ (-e).toNat) /
    (2 ^ (-x.exponent).toNat * 10 ^ e.toNat)

/-- Of two neighbouring candidates that both read back, the nearer to the magnitude. -/
def nearer (x : Binary64) (tie : Tie) (below : Nat) (e : Int) : Nat :=
  match compareScaled (2 * below + 1) e (2 * x.significand) x.exponent with
  | .gt => below
  | .lt => below + 1
  | .eq =>
    match tie with
    | .up => below + 1
    | .toEven => if below % 2 = 0 then below else below + 1

/-- The candidate with `n` digits that reads back, if there is one. -/
def candidate? (x : Binary64) (tie : Tie) (n : Nat) : Option Decimal :=
  let e := x.place - n
  let below := x.floorAt e
  match x.readsBack ⟨below, e⟩, x.readsBack ⟨below + 1, e⟩ with
  | true, true => some ⟨x.nearer tie below e, e⟩
  | true, false => some ⟨below, e⟩
  | false, true => some ⟨below + 1, e⟩
  | false, false => none

/-- The magnitude as an exact decimal. -/
def exactDecimal (x : Binary64) : Decimal :=
  if x.exponent < 0 then ⟨x.significand * 5 ^ x.exponent.natAbs, x.exponent⟩
  else ⟨x.significand * 2 ^ x.exponent.toNat, 0⟩

end Binary64

/-- Trailing zeros of the digits moved into the exponent. -/
def Decimal.stripped (d : Decimal) : Decimal :=
  if h : d.digits = 0 then ⟨0, 0⟩
  else if d.digits % 10 = 0 then Decimal.stripped ⟨d.digits / 10, d.exponent + 1⟩
  else d
termination_by d.digits
decreasing_by omega

/-- The shortest decimal that reads back as the magnitude of `x`. Seventeen digits suffice for
every double; the exact value stands behind them. -/
def Binary64.shortest (x : Binary64) (tie : Tie) : Decimal :=
  if x.significand = 0 then ⟨0, 0⟩
  else
    (((List.range' 1 17).findSome? (x.candidate? tie)).getD x.exactDecimal).stripped

end DataGrid
