import DataGrid.Decimal.Layout
import DataGrid.Sql.Syntax

/-!
# SQL text

The text of statements in the dialect of PostgreSQL. Names are always quoted; a literal with a
backslash in it is written as an escape string.

## Main definitions

* `DataGrid.Sql.quoteName`, `DataGrid.Sql.quoteText` — names and strings.
* `DataGrid.Sql.Shape`, `DataGrid.Sql.Phrase` — a text with what it is, which decides about
  parentheses.
* `DataGrid.Sql.Expr.phrase` — the text of an expression.
* `DataGrid.Sql.Statement.text` — the text of a statement.

## Implementation notes

Parentheses follow three rules: an operand that is no operator expression needs none; a test
(comparison, IN, IS) needs none inside AND, OR and NOT; a left operand of AND or OR needs none
when it is joined by the same word. The right operand of AND or OR keeps its parentheses.
-/

namespace DataGrid.Sql

/-! ## Names and literals -/

/-- A quoted name; quotes inside are doubled. -/
def quoteName (s : String) : String :=
  String.ofList ('"' :: (s.toList.flatMap (fun c => if c = '"' then ['"', '"'] else [c]) ++ ['"']))

/-- One character of a string literal. -/
def escapeChar (c : Char) : List Char :=
  if c = '\\' then ['\\', '\\']
  else if c = '"' then ['\\', '"']
  else if c = '\'' then ['\\', '\'']
  else if c.toNat = 0 then ['\\', '0']
  else if c.toNat = 8 then ['\\', 'b']
  else if c = '\t' then ['\\', 't']
  else if c.toNat = 26 then ['\\', 'z']
  else if c = '\n' then ['\\', 'n']
  else if c = '\r' then ['\\', 'r']
  else [c]

/-- A string literal; with a backslash in it, an escape string. -/
def quoteText (s : String) : String :=
  let body := s.toList.flatMap escapeChar
  String.ofList ((if body.contains '\\' then ['E', '\''] else ['\'']) ++ body ++ ['\''])

/-- Numbers never have an exponent, and whole ones no point. -/
def layout : Layout where
  plain := none
  pointZero := false
  tie := .up

/-- The text of a literal. -/
def Literal.text : Literal → String
  | .null => "NULL"
  | .bool true => "TRUE"
  | .bool false => "FALSE"
  | .int n => intText n
  | .float x => layout.render x
  | .string s => quoteText s

/-- The symbol of a comparison. -/
def Comparison.symbol : Comparison → String
  | .eq => "="
  | .ne => "<>"
  | .lt => "<"
  | .le => "<="
  | .gt => ">"
  | .ge => ">="

/-- The word of a junction. -/
def Junction.word : Junction → String
  | .all => "AND"
  | .any => "OR"

/-- The word of a direction. -/
def Direction.word : Direction → String
  | .asc => "ASC"
  | .desc => "DESC"

/-- The name of an aggregate. -/
def Extreme.word : Extreme → String
  | .min => "MIN"
  | .max => "MAX"

/-- Texts joined by commas. -/
def commas (texts : List String) : String := ", ".intercalate texts

/-! ## Shapes -/

/-- What kind of expression a text is. -/
inductive Shape where
  /-- A column, literal, function or subquery. -/
  | closed
  /-- A comparison, IN or IS. -/
  | test
  /-- Two operands joined by AND or OR. -/
  | junction (j : Junction)
  /-- NOT, LIKE or access to a JSON document. -/
  | operator
deriving DecidableEq

/-- A text and its shape. -/
structure Phrase where
  text : String
  shape : Shape

namespace Phrase

/-- The text in parentheses unless the flag says that none are needed. -/
def enclosed (p : Phrase) (bare : Bool) : String := if bare then p.text else "(" ++ p.text ++ ")"

/-- The text as operand of a comparison, LIKE, IN, IS, cast or JSON access. -/
def operand (p : Phrase) : String := p.enclosed (p.shape == .closed)

/-- The text as operand of NOT, or as right operand of AND and OR. -/
def logicalOperand (p : Phrase) : String := p.enclosed (p.shape == .closed || p.shape == .test)

/-- Two phrases joined by AND or OR. -/
def joined (j : Junction) (p q : Phrase) : Phrase where
  text := (if p.shape = .junction j then p.text else p.logicalOperand) ++ " " ++ j.word ++ " " ++
    q.logicalOperand
  shape := .junction j

/-- Any number of phrases joined by AND or OR, from the left. -/
def joinAll (j : Junction) : List Phrase → Phrase
  | [] => ⟨match j with | .all => "TRUE" | .any => "FALSE", .closed⟩
  | p :: ps => ps.foldl (joined j) p

/-- A phrase, or its opposite. -/
def negatedIf (negated : Bool) (p : Phrase) : Phrase :=
  if negated then ⟨"NOT " ++ p.logicalOperand, .operator⟩ else p

end Phrase

/-! ## Expressions -/

/-- A membership test. The empty list has no members, and a constant comparison says so. -/
def membershipText (negated : Bool) (operand : String) (values : List Literal) : String :=
  match negated, values with
  | false, [] => "1 = 2"
  | true, [] => "1 = 1"
  | negated, values =>
    operand ++ (if negated then " NOT IN (" else " IN (") ++ commas (values.map Literal.text) ++ ")"

mutual

/-- The text of an expression with its shape. -/
def Expr.phrase : Expr → Phrase
  | .column table name => ⟨quoteName table ++ "." ++ quoteName name, .closed⟩
  | .output name => ⟨quoteName name, .closed⟩
  | .literal v => ⟨v.text, .closed⟩
  | .countRows => ⟨"COUNT(*)", .closed⟩
  | .extreme pick e => ⟨pick.word ++ "(" ++ e.phrase.text ++ ")", .closed⟩
  | .cast e type =>
    let p := e.phrase
    ⟨"CAST(" ++ p.operand ++ " AS " ++ type ++ ")", .closed⟩
  | .member e key asText =>
    ⟨e.phrase.operand ++ (if asText then " ->> " else " -> ") ++ quoteText key, .operator⟩
  | .compare op left right =>
    ⟨left.phrase.operand ++ " " ++ op.symbol ++ " " ++ right.phrase.operand, .test⟩
  | .isNull negated e =>
    ⟨e.phrase.operand ++ (if negated then " IS NOT NULL" else " IS NULL"), .test⟩
  | .isIn negated e values => ⟨membershipText negated e.phrase.operand values, .test⟩
  | .like negated e pattern =>
    ⟨e.phrase.operand ++ (if negated then " NOT ILIKE " else " ILIKE ") ++ quoteText pattern,
      .operator⟩
  | .not e => .negatedIf true e.phrase
  | .group negated junction terms => .negatedIf negated (.joinAll junction (phrases terms))
  | .existsIn table label filter =>
    ⟨"EXISTS(SELECT 1 FROM " ++ quoteName table ++ " AS " ++ quoteName label ++ " WHERE " ++
      filter.phrase.text ++ ")", .closed⟩
  | .lookup pick leaf table label joins filter =>
    let value := leaf.phrase.text
    let output := match pick with
      | some p => p.word ++ "(" ++ value ++ ")"
      | none => value
    ⟨"(SELECT " ++ output ++ " FROM " ++ quoteName table ++ " AS " ++ quoteName label ++
      joinTexts " INNER JOIN " joins ++ " WHERE " ++ filter.phrase.text ++
      (if pick.isNone then " LIMIT 1)" else ")"), .closed⟩

/-- The phrases of all terms. -/
def phrases : List Expr → List Phrase
  | [] => []
  | e :: rest => e.phrase :: phrases rest

/-- The joins of a statement, each behind the given words. -/
def joinTexts (words : String) : List Join → String
  | [] => ""
  | .mk table label on :: rest =>
    words ++ quoteName table ++ " AS " ++ quoteName label ++ " ON " ++ on.phrase.text ++
      joinTexts words rest

end

/-- The text of an expression. -/
def Expr.text (e : Expr) : String := e.phrase.text

/-! ## Statements -/

/-- The text of an item of a SELECT list. -/
def Output.text : Output → String
  | .row table => quoteName table ++ ".*"
  | .expr e => e.text
  | .named e name => e.text ++ " AS " ++ quoteName name

/-- A clause with its list, left out when the list is empty. -/
def clause (words : String) : List String → String
  | [] => ""
  | items => words ++ commas items

/-- The text of a statement on one table. -/
def Select.text (s : Select) : String :=
  (if s.distinct then "SELECT DISTINCT " else "SELECT ") ++ commas (s.outputs.map Output.text) ++
    " FROM " ++ quoteName s.table ++ joinTexts " LEFT JOIN " s.joins ++
    (match s.filter with
      | some c => " WHERE " ++ c.toExpr.text
      | none => "") ++
    clause " GROUP BY " (s.groups.map Expr.text) ++
    clause " ORDER BY " (s.orders.map fun o => o.1.text ++ " " ++ o.2.word) ++
    (match s.limit with
      | some n => " LIMIT " ++ intText n.toNat
      | none => "") ++
    (match s.offset with
      | some n => " OFFSET " ++ intText n.toNat
      | none => "")

/-- The text of a statement. -/
def Statement.text : Statement → String
  | .select s => s.text
  | .countOf s label => "SELECT COUNT(*) FROM (" ++ s.text ++ ") AS " ++ quoteName label

end DataGrid.Sql
