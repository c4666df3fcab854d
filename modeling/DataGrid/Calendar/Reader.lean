import DataGrid.Calendar.Day
import DataGrid.Decimal.Reader
import DataGrid.Text.Blank

/-!
# Reading days

The day named by an endpoint of a date filter. Three forms are tried in order: a day with a time of
day, a day alone, and a timestamp with an offset from universal time. Time and offset are checked
for their form and then dropped; they never move the day.

## Main definitions

* `DataGrid.Day.read?` — the day of a text.
* `DataGrid.Day.readDateTime?`, `DataGrid.Day.readDate?`, `DataGrid.Day.readTimestamp?` — the three
  forms.

## Implementation notes

A reader takes characters off the front of a list and returns what it found with the rest.
In the first two forms blanks may stand before each number, and the blanks between day and time
may be missing; the third form has fixed places.
-/

namespace DataGrid.Day

/-! ## Numbers -/

/-- The longest run of at most `most` digits, at least one. -/
def number? (most : Nat) (cs : List Char) : Option (Nat × List Char) :=
  let digits := (cs.take most).takeWhile Char.isDigit
  if digits.isEmpty then none else some (digitsValue digits, cs.drop digits.length)

/-- Exactly `count` digits. -/
def fixed? (count : Nat) (cs : List Char) : Option (Nat × List Char) :=
  let digits := (cs.take count).takeWhile Char.isDigit
  if digits.length = count then some (digitsValue digits, cs.drop count) else none

/-- The given character. -/
def literal? (c : Char) : List Char → Option (List Char)
  | d :: rest => if d = c then some rest else none
  | [] => none

/-- A number behind blanks, of at most two digits. -/
def item? (cs : List Char) : Option (Nat × List Char) := number? 2 (Text.trimStart cs)

/-- A year behind blanks: at most four digits, or any number of them behind a sign. -/
def year? (cs : List Char) : Option (Int × List Char) :=
  match Text.trimStart cs with
  | '-' :: rest => (number? rest.length rest).map fun (n, rest) => (-(n : Int), rest)
  | '+' :: rest => (number? rest.length rest).map fun (n, rest) => ((n : Int), rest)
  | rest => (number? 4 rest).map fun (n, rest) => ((n : Int), rest)

/-! ## The three forms -/

/-- Year, month and day, joined by hyphens, with the text behind them. -/
def datePart? (cs : List Char) : Option (Day × List Char) := do
  let (year, cs) ← year? cs
  let cs ← literal? '-' cs
  let (month, cs) ← item? cs
  let cs ← literal? '-' cs
  let (day, cs) ← item? cs
  let found ← make? year month day
  return (found, cs)

/-- Whether the numbers are a time of day; second 60 is a leap second. -/
def isTime (hour minute second : Nat) : Bool := hour ≤ 23 && minute ≤ 59 && second ≤ 60

/-- A day and a time of day. -/
def readDateTime? (cs : List Char) : Option Day := do
  let (found, cs) ← datePart? cs
  let (hour, cs) ← item? cs
  let cs ← literal? ':' cs
  let (minute, cs) ← item? cs
  let cs ← literal? ':' cs
  let (second, cs) ← item? cs
  if isTime hour minute second && cs.isEmpty then some found else none

/-- A day alone. -/
def readDate? (cs : List Char) : Option Day := do
  let (found, cs) ← datePart? cs
  if cs.isEmpty then some found else none

/-- The fraction of a second, if there is one. -/
def fraction? : List Char → Option (List Char)
  | '.' :: rest => if rest.head?.any Char.isDigit then some (rest.dropWhile Char.isDigit) else none
  | cs => some cs

/-- Whether the text is an offset from universal time: a Z, or a sign with hours and minutes. -/
def isOffset : List Char → Bool
  | [] => false
  | sign :: rest =>
    if sign = 'Z' ∨ sign = 'z' then rest.isEmpty
    else if sign = '+' ∨ sign = '-' ∨ sign = '−' then
      match fixed? 2 rest with
      | some (hours, ':' :: rest) =>
        match fixed? 2 rest with
        | some (minutes, []) => hours ≤ 23 && minutes ≤ 59
        | _ => false
      | _ => false
    else false

/-- A timestamp with an offset; the day is the one written, whatever the offset. -/
def readTimestamp? (cs : List Char) : Option Day := do
  let (year, cs) ← fixed? 4 cs
  let cs ← literal? '-' cs
  let (month, cs) ← fixed? 2 cs
  let cs ← literal? '-' cs
  let (day, cs) ← fixed? 2 cs
  let cs ← match cs with
    | c :: rest => if c = 'T' ∨ c = 't' ∨ c = ' ' then some rest else none
    | [] => none
  let (hour, cs) ← fixed? 2 cs
  let cs ← literal? ':' cs
  let (minute, cs) ← fixed? 2 cs
  let cs ← literal? ':' cs
  let (second, cs) ← fixed? 2 cs
  let cs ← fraction? cs
  let found ← make? year month day
  if isTime hour minute second && isOffset cs then some found else none

/-- The day of a text, blanks at its ends left aside. -/
def read? (s : String) : Option Day :=
  let cs := Text.trimChars s.toList
  readDateTime? cs <|> readDate? cs <|> readTimestamp? cs

end DataGrid.Day
