import DataGrid.Calendar.Day
import DataGrid.Decimal.Reader
import DataGrid.Text.Hex

/-!
# Scalars of TOML

Strings in their four notations, and the form of all other scalars: numbers, truth values, days
and times.

## Main definitions

* `DataGrid.Toml.Quote.read?` — the rest of a quoted string.
* `DataGrid.Toml.isScalar` — whether a word is a scalar that is no string.
-/

namespace DataGrid.Toml

/-! ## Characters -/

/-- Blanks inside a line. -/
def isSpace (c : Char) : Bool := c == ' ' || c == '\t'

/-- Control characters, which stand neither in strings nor in comments; the tab is none. -/
def isControl (c : Char) : Bool := (c.toNat < 32 && c != '\t') || c.toNat == 127

/-- The text behind a line break, if one stands here. -/
def afterBreak? : List Char → Option (List Char)
  | '\n' :: rest => some rest
  | '\r' :: '\n' :: rest => some rest
  | _ => none

/-! ## Quoted strings -/

/-- The notation of a quoted string. -/
structure Quote where
  mark : Char
  /-- Three marks on either side; the string may have line breaks. -/
  long : Bool

/-- The character of a one-letter escape. -/
def escape? (c : Char) : Option Char :=
  match c with
  | 'b' => some '\x08'
  | 't' => some '\t'
  | 'n' => some '\n'
  | 'f' => some '\x0c'
  | 'r' => some '\r'
  | '"' => some '"'
  | '\\' => some '\\'
  | _ => none

/-- The number of digits in an escape by code point. -/
def escapeWidth? (c : Char) : Option Nat :=
  match c with
  | 'u' => some 4
  | 'U' => some 8
  | _ => none

/-- The character of an escape by code point. -/
def codePoint? (width : Nat) (cs : List Char) : Option Char :=
  let digits := cs.take width
  if digits.length = width then (Text.hexNumber? digits).bind Text.scalar? else none

/-- Blanks and line breaks behind a backslash at the end of a line. -/
def isGap (c : Char) : Bool := isSpace c || c == '\n' || c == '\r'

/-- A backslash ends its line: blanks may follow, but then a line break. -/
def endsLine (cs : List Char) : Bool := (afterBreak? (cs.dropWhile isSpace)).isSome

/-- The string up to its closing marks and the text behind them. Characters found so far come last
one first. Up to two marks may stand right before the closing ones of a long string. -/
def Quote.body? (q : Quote) (found : List Char) : List Char → Option (String × List Char)
  | [] => none
  | c :: rest =>
    if c = q.mark then
      let run := (rest.takeWhile (· == q.mark)).length + 1
      if !q.long then some (String.ofList found.reverse, rest)
      else if run < 3 then q.body? (c :: found) rest
      else
        let extra := min (run - 3) 2
        some (String.ofList (found.reverse ++ List.replicate extra c), rest.drop (extra + 2))
    else if c = '\\' ∧ q.mark = '"' then
      match rest with
      | [] => none
      | e :: tail =>
        match escape? e, escapeWidth? e with
        | some d, _ => q.body? (d :: found) tail
        | none, some width =>
          match codePoint? width tail with
          | some d => q.body? (d :: found) (tail.drop width)
          | none => none
        | none, none =>
          if q.long && endsLine (e :: tail) then q.body? found (tail.dropWhile isGap) else none
    else if c = '\n' then if q.long then q.body? (c :: found) rest else none
    else if c = '\r' ∧ rest.head? = some '\n' then q.body? found rest
    else if isControl c then none
    else q.body? (c :: found) rest
termination_by cs => cs.length
decreasing_by
  all_goals simp only [List.length_cons, List.length_drop]
  all_goals try omega
  have := (List.dropWhile_suffix (l := tail) isGap).length_le
  omega

/-- The rest of a quoted string behind its opening marks. A line break right behind the opening
marks of a long string does not belong to it. -/
def Quote.read? (q : Quote) (cs : List Char) : Option (String × List Char) :=
  q.body? [] (if q.long then (afterBreak? cs).getD cs else cs)

/-- The notation that begins here, with the text behind the opening marks. -/
def Quote.ofMark? : List Char → Option (Quote × List Char)
  | '"' :: '"' :: '"' :: rest => some (⟨'"', true⟩, rest)
  | '\'' :: '\'' :: '\'' :: rest => some (⟨'\'', true⟩, rest)
  | '"' :: rest => some (⟨'"', false⟩, rest)
  | '\'' :: rest => some (⟨'\'', false⟩, rest)
  | _ => none

/-! ## Numbers -/

/-- Digits of some kind, with single underscores between them. -/
def isDigits (p : Char → Bool) : List Char → Bool
  | [] => false
  | [c] => p c
  | c :: '_' :: rest => p c && isDigits p rest
  | c :: rest => p c && isDigits p rest

/-- The characters without underscores. -/
def bare (cs : List Char) : List Char := cs.filter (· != '_')

/-- An optional sign taken off. -/
def unsigned (cs : List Char) : List Char := (takeSign cs).2

/-- Decimal digits without a leading zero. -/
def isWhole (cs : List Char) : Bool :=
  isDigits Char.isDigit cs && (cs.head? != some '0' || cs.length == 1)

/-- A whole number in decimal that fits 64 bits with a sign. -/
def isDecimal (cs : List Char) : Bool :=
  isWhole (unsigned cs) && (signedWord? (bare cs)).isSome

/-- A whole number in another base, from its digits. -/
def isBased (base : Nat) (cs : List Char) : Bool :=
  isDigits (fun c => (Text.hexValue? c).any (· < base)) cs &&
    ((bare cs).foldl (fun n c => base * n + (Text.hexValue? c).getD 0) 0) < 2 ^ 63

/-- A whole number. -/
def isInteger : List Char → Bool
  | '0' :: 'x' :: digits => isBased 16 digits
  | '0' :: 'o' :: digits => isBased 8 digits
  | '0' :: 'b' :: digits => isBased 2 digits
  | cs => isDecimal cs

/-- The exponent of a number: nothing, or `e` with a number. -/
def isExponent : List Char → Bool
  | [] => true
  | c :: rest => (c == 'e' || c == 'E') && isDigits Char.isDigit (unsigned rest)

/-- A number with a fraction or an exponent that is not beyond all doubles. -/
def isFraction (cs : List Char) : Bool :=
  let isPart := fun c : Char => c.isDigit || c == '_'
  let digits := unsigned cs
  let form := match digits.dropWhile isPart with
    | '.' :: rest => isDigits Char.isDigit (rest.takeWhile isPart) &&
        isExponent (rest.dropWhile isPart)
    | rest => !rest.isEmpty && isExponent rest
  isWhole (digits.takeWhile isPart) && form && (cs.head? == some '-' || (decimal? (bare cs)).isSome)

/-- Infinities and NaN. -/
def isSpecial (cs : List Char) : Bool :=
  unsigned cs == ['i', 'n', 'f'] || unsigned cs == ['n', 'a', 'n']

/-! ## Days and times -/

/-- The number of exactly two digits. -/
def pair? : List Char → Option (Nat × List Char)
  | a :: b :: rest =>
    if a.isDigit && b.isDigit then some (digitsValue [a, b], rest) else none
  | _ => none

/-- A given character and the text behind it. -/
def after? (c : Char) : List Char → Option (List Char)
  | d :: rest => if d = c then some rest else none
  | [] => none

/-- The text behind a day that exists. -/
def afterDay? (cs : List Char) : Option (List Char) := do
  let (century, rest) ← pair? cs
  let (year, rest) ← pair? rest
  let (month, rest) ← pair? (← after? '-' rest)
  let (day, rest) ← pair? (← after? '-' rest)
  let _ ← Day.make? (100 * century + year) month day
  return rest

/-- The text behind a time of day; leap seconds are times. -/
def afterTime? (cs : List Char) : Option (List Char) := do
  let (hour, rest) ← pair? cs
  let (minute, rest) ← pair? (← after? ':' rest)
  let (second, rest) ← pair? (← after? ':' rest)
  if hour > 23 ∨ minute > 59 ∨ second > 60 then none
  else
    match rest with
    | '.' :: digits =>
      if digits.head?.any Char.isDigit then some (digits.dropWhile Char.isDigit) else none
    | rest => some rest

/-- An offset from universal time, or none. -/
def isOffset : List Char → Bool
  | [] => true
  | ['Z'] => true
  | ['z'] => true
  | c :: rest =>
    (c == '+' || c == '-') && (pair? rest).any fun (hour, rest) =>
      hour ≤ 23 && ((after? ':' rest).bind pair?).any fun (minute, rest) =>
        minute ≤ 59 && rest.isEmpty

/-- A day, a time of day, or both with an optional offset. -/
def isMoment (cs : List Char) : Bool :=
  match afterDay? cs with
  | none => (afterTime? cs).any List.isEmpty
  | some [] => true
  | some (c :: rest) => (c == 'T' || c == 't' || c == ' ') && (afterTime? rest).any isOffset

/-! ## Words -/

/-- Whether a word is a scalar that is no string. -/
def isScalar (cs : List Char) : Bool :=
  cs == ['t', 'r', 'u', 'e'] || cs == ['f', 'a', 'l', 's', 'e'] || isInteger cs ||
    isFraction cs || isSpecial cs || isMoment cs

end DataGrid.Toml
