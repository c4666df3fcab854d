import DataGrid.Decimal.Layout

/-!
# Calendar days

Days of the proleptic Gregorian calendar, and their text.

## Main definitions

* `DataGrid.Day` — a day that exists.
* `DataGrid.Day.make?` — the day of a year, month and day number.
* `DataGrid.Day.text` — the text `YYYY-MM-DD`.
-/

namespace DataGrid

/-- A year of 366 days. -/
def isLeapYear (year : Int) : Bool :=
  year % 4 == 0 && (year % 100 != 0 || year % 400 == 0)

/-- The number of days in a month; zero for a month that does not exist. -/
def daysInMonth (year : Int) : Nat → Nat
  | 1 | 3 | 5 | 7 | 8 | 10 | 12 => 31
  | 4 | 6 | 9 | 11 => 30
  | 2 => if isLeapYear year then 29 else 28
  | _ => 0

/-- A day of the calendar. -/
structure Day where
  year : Int
  month : Nat
  day : Nat
  /-- The range of years. -/
  inRange : -262143 ≤ year ∧ year ≤ 262142
  /-- The month has such a day. -/
  inMonth : 1 ≤ day ∧ day ≤ daysInMonth year month
deriving DecidableEq

namespace Day

/-- The day of the given numbers, if it exists. -/
def make? (year : Int) (month day : Nat) : Option Day :=
  if hy : -262143 ≤ year ∧ year ≤ 262142 then
    if hd : 1 ≤ day ∧ day ≤ daysInMonth year month then some ⟨year, month, day, hy, hd⟩ else none
  else none

/-- The digits of a number, filled up with zeros on the left. -/
def padded (width n : Nat) : List Char :=
  let digits := natDigits n
  List.replicate (width - digits.length) '0' ++ digits

/-- A year has at least four digits, and a sign if it is negative or has more than four. -/
def yearText (year : Int) : List Char :=
  if year < 0 then '-' :: padded 4 year.natAbs
  else if year > 9999 then '+' :: padded 4 year.natAbs
  else padded 4 year.natAbs

/-- The text of a day. -/
def text (d : Day) : String :=
  String.ofList (yearText d.year ++ '-' :: padded 2 d.month ++ '-' :: padded 2 d.day)

end Day

end DataGrid
