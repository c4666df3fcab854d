import DataGrid.Calendar.Reader
import DataGrid.Decimal.Reader
import DataGrid.Fault
import DataGrid.Json.Printer
import DataGrid.Text.Blank

/-!
# Operand values

The literals that the operands of a filter become.

## Main definitions

* `DataGrid.literal` — the literal of a JSON scalar.
* `DataGrid.textOperand`, `DataGrid.numberOperand`, `DataGrid.dateOperand` — the operands of the
  three kinds of comparison.
* `DataGrid.escapeWildcards` — text that a LIKE pattern matches literally.
-/

namespace DataGrid

open Sql (Literal)

/-! ## Scalars -/

/-- The literal of a number. -/
def Json.Number.literal : Json.Number → Literal
  | .int n _ => .int n
  | .float x => .float x

/-- The literal of a scalar; an array or object is refused on behalf of the column. -/
def literal (column : String) : Json → Except Fault Literal
  | .null => .ok .null
  | .bool b => .ok (.bool b)
  | .number n => .ok n.literal
  | .string s => .ok (.string s)
  | .array _ => .error (.invalidValue column .notScalar)
  | .object _ => .error (.invalidValue column .notScalar)

/-! ## Text -/

/-- The text of an operand: a string as it is, a number or truth value in its JSON spelling. -/
def textOperand (column : String) : Option Json → Except Fault String
  | some (.string s) => .ok s
  | some (.number n) => .ok n.text
  | some (.bool b) => .ok (if b then "true" else "false")
  | some _ => .error (.invalidValue column .notText)
  | none => .error (.invalidValue column (.missing .filter))

/-- A text with another spelling in place of each occurrence of one character. -/
def replaceChar (c : Char) (spelling text : List Char) : List Char :=
  text.flatMap fun d => if d = c then spelling else [d]

/-- Text as it stands in a LIKE pattern that matches it literally. Escapes are replaced before the
wildcards, whose replacements bring in escapes of their own. -/
def escapeWildcards (s : String) : String :=
  let escapes := replaceChar '\\' ['\\', '\\'] s.toList
  let manys := replaceChar '%' ['\\', '%'] escapes
  let ones := replaceChar '_' ['\\', '_'] manys
  String.ofList ones

/-! ## Numbers -/

/-- The number that a text stands for: an integer if it is one that fits, and otherwise the nearest
double. Blanks at the ends are left aside. -/
def numberOfText? (s : String) : Option Literal :=
  let cs := Text.trimChars s.toList
  match signedWord? cs with
  | some n => some (.int n)
  | none => (decimal? cs).map .float

/-- The number of an operand. -/
def numberOperand (column : String) (operand : Operand) : Option Json → Except Fault Literal
  | some (.number n) => .ok n.literal
  | some (.string s) =>
    match numberOfText? s with
    | some v => .ok v
    | none => .error (.invalidValue column (.notNumber operand))
  | some _ => .error (.invalidValue column (.notNumber operand))
  | none => .error (.invalidValue column (.missing operand))

/-! ## Days -/

/-- The day of an endpoint, as text. -/
def dateOperand (column : String) (operand : Operand) : Option String → Except Fault String
  | some raw =>
    match Day.read? raw with
    | some d => .ok d.text
    | none => .error (.invalidValue column (.notDate operand raw))
  | none => .error (.invalidValue column (.missing operand))

end DataGrid
