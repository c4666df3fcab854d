import DataGrid.Decimal.Layout
import DataGrid.Json.Basic

/-!
# JSON text

The compact text of a JSON value: no blanks, members in the order of the value.

## Main definitions

* `DataGrid.Json.layout` — the format of floating point numbers.
* `DataGrid.Json.Number.text` — the text of a number.
* `DataGrid.Json.text` — the text of a value.
-/

namespace DataGrid.Json

/-! ## Leaves -/

/-- Doubles keep a fraction or an exponent: `1.0`, `0.00001`, `1e+16`. -/
def layout : Layout where
  plain := some (-5, 15)
  pointZero := true
  tie := .toEven

/-- The text of a number. -/
def Number.text : Number → String
  | .int n _ => intText n
  | .float x => layout.render x

/-- One hexadecimal digit, in lower case. -/
def hexDigit (n : Nat) : Char :=
  if n < 10 then Char.ofNat (48 + n) else Char.ofNat (87 + n)

/-- The text of one character inside a string: quotes, backslashes and control characters are
escaped, everything else stands for itself. -/
def escapeChar (c : Char) : List Char :=
  if c = '"' then ['\\', '"']
  else if c = '\\' then ['\\', '\\']
  else if c = '\n' then ['\\', 'n']
  else if c = '\r' then ['\\', 'r']
  else if c = '\t' then ['\\', 't']
  else if c.toNat = 8 then ['\\', 'b']
  else if c.toNat = 12 then ['\\', 'f']
  else if c.toNat < 32 then ['\\', 'u', '0', '0', hexDigit (c.toNat / 16), hexDigit (c.toNat % 16)]
  else [c]

/-- A quoted string. -/
def quote (s : String) : String :=
  String.ofList ('"' :: (s.toList.flatMap escapeChar ++ ['"']))

/-! ## Values -/

mutual

/-- The compact text of a value. -/
def text : Json → String
  | .null => "null"
  | .bool true => "true"
  | .bool false => "false"
  | .number n => n.text
  | .string s => quote s
  | .array items => "[" ++ textItems items ++ "]"
  | .object members => "\x7b" ++ textMembers members ++ "\x7d"

/-- The elements, separated by commas. -/
def textItems : List Json → String
  | [] => ""
  | [j] => text j
  | j :: rest => text j ++ "," ++ textItems rest

/-- The members, separated by commas. -/
def textMembers : List (String × Json) → String
  | [] => ""
  | [(k, j)] => quote k ++ ":" ++ text j
  | (k, j) :: rest => quote k ++ ":" ++ text j ++ "," ++ textMembers rest

end

end DataGrid.Json
