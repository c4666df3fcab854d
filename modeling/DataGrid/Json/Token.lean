import DataGrid.Json.Numeral
import DataGrid.Text.Hex

/-!
# Tokens of JSON

The tokens of a JSON document. Strings and numbers are checked for their form here; whether they
denote a value is part of the token, since text that is skipped over need not.

## Main definitions

* `DataGrid.Json.Token` — the tokens.
* `DataGrid.Json.Token.scan?` — the tokens of a text; none on malformed text.
-/

namespace DataGrid.Json

/-- A token of a JSON document. -/
inductive Token where
  | openObject
  | closeObject
  | openArray
  | closeArray
  | colon
  | comma
  /-- One of the three words. -/
  | word (value : Json)
  /-- A quoted string; none when it holds an unpaired surrogate. -/
  | string (s : Option String)
  /-- A number; none when it is beyond the range of doubles. -/
  | number (n : Option Number)

namespace Token

/-! ## Strings -/

/-- The 16-bit unit written by four hexadecimal digits. -/
def unit? (a b c d : Char) : Option Nat := Text.hexNumber? [a, b, c, d]

/-- The character of a one-letter escape. -/
def escape? (c : Char) : Option Char :=
  match c with
  | '"' => some '"'
  | '\\' => some '\\'
  | '/' => some '/'
  | 'b' => some '\x08'
  | 'f' => some '\x0c'
  | 'n' => some '\n'
  | 'r' => some '\r'
  | 't' => some '\t'
  | _ => none

/-- A string as far as it is read. -/
structure Partial where
  /-- The characters so far, the last one first. -/
  reversed : List Char
  /-- A leading surrogate that waits for its other half. -/
  leading : Option Nat
  /-- No unpaired surrogate has been met. -/
  paired : Bool

namespace Partial

/-- Nothing read yet. -/
def start : Partial := ⟨[], none, true⟩

/-- A character read; a surrogate that waits stays without its other half. -/
def push (p : Partial) (c : Char) : Partial :=
  ⟨c :: p.reversed, none, p.paired && p.leading.isNone⟩

/-- A 16-bit unit read. -/
def pushUnit (p : Partial) (u : Nat) : Partial :=
  if 0xD800 ≤ u ∧ u ≤ 0xDBFF then ⟨p.reversed, some u, p.paired && p.leading.isNone⟩
  else if 0xDC00 ≤ u ∧ u ≤ 0xDFFF then
    match p.leading with
    | some lead => ⟨Char.ofNat (0x10000 + (lead - 0xD800) * 0x400 + (u - 0xDC00)) :: p.reversed,
        none, p.paired⟩
    | none => ⟨p.reversed, none, false⟩
  else p.push (Char.ofNat u)

/-- The string at the closing quote. -/
def finish (p : Partial) : Option String :=
  if p.paired && p.leading.isNone then some (String.ofList p.reversed.reverse) else none

end Partial

/-- The string up to its closing quote and the text behind it. Control characters and unknown
escapes are malformed. -/
def scanString? (p : Partial) : List Char → Option (Option String × List Char)
  | [] => none
  | c :: rest =>
    if c = '"' then some (p.finish, rest)
    else if c = '\\' then
      match rest with
      | 'u' :: w :: x :: y :: z :: tail =>
        match unit? w x y z with
        | some u => scanString? (p.pushUnit u) tail
        | none => none
      | e :: tail =>
        match escape? e with
        | some d => scanString? (p.push d) tail
        | none => none
      | [] => none
    else if c.toNat < 32 then none
    else scanString? (p.push c) rest

/-- A string takes at least the quote that ends it. -/
theorem length_of_scanString? {p : Partial} {cs : List Char} {s : Option String}
    {rest : List Char} (h : scanString? p cs = some (s, rest)) : rest.length < cs.length := by
  fun_induction scanString? p cs with
  | case1 => simp at h
  | case2 p tail =>
    simp only [Option.some.injEq, Prod.mk.injEq] at h
    simp [← h.2]
  | case3 p _ w x y z tail u hu ih => have := ih h; simp only [List.length_cons]; omega
  | case4 => simp at h
  | case5 =>
    rename_i ih
    have := ih h
    simp only [List.length_cons]
    omega
  | case6 => simp at h
  | case7 => simp at h
  | case8 => simp at h
  | case9 p c tail _ _ _ ih => have := ih h; simp only [List.length_cons]; omega

/-! ## Words and numbers -/

/-- Characters that occur in numbers. -/
def isNumeric (c : Char) : Bool :=
  c.isDigit || c == '+' || c == '-' || c == '.' || c == 'e' || c == 'E'

/-- One of the three words. -/
def word? (cs : List Char) : Option Json :=
  if cs = ['n', 'u', 'l', 'l'] then some .null
  else if cs = ['t', 'r', 'u', 'e'] then some (.bool true)
  else if cs = ['f', 'a', 'l', 's', 'e'] then some (.bool false)
  else none

/-- The token of one punctuation character. -/
def punctuation? (c : Char) : Option Token :=
  match c with
  | '\x7b' => some .openObject
  | '\x7d' => some .closeObject
  | '[' => some .openArray
  | ']' => some .closeArray
  | ':' => some .colon
  | ',' => some .comma
  | _ => none

/-- The blanks between tokens. -/
def isSpace (c : Char) : Bool := c == ' ' || c == '\t' || c == '\n' || c == '\r'

/-! ## Scanning -/

/-- The tokens of a text, behind those already found (the last one first). -/
def scanFrom? (found : List Token) : List Char → Option (List Token)
  | [] => some found.reverse
  | c :: rest =>
    if isSpace c then scanFrom? found rest
    else match punctuation? c with
    | some token => scanFrom? (token :: found) rest
    | none =>
      if c = '"' then
        match h : scanString? .start rest with
        | some (s, tail) =>
          have : tail.length < rest.length := length_of_scanString? h
          scanFrom? (.string s :: found) tail
        | none => none
      else if c.isAlpha then
        match word? (c :: rest.takeWhile Char.isAlpha) with
        | some value =>
          have := (List.dropWhile_suffix (l := rest) Char.isAlpha).length_le
          scanFrom? (.word value :: found) (rest.dropWhile Char.isAlpha)
        | none => none
      else
        match Numeral.ofChars? (c :: rest.takeWhile isNumeric) with
        | some numeral =>
          have := (List.dropWhile_suffix (l := rest) isNumeric).length_le
          scanFrom? (.number numeral.number? :: found) (rest.dropWhile isNumeric)
        | none => none
termination_by cs => cs.length
decreasing_by all_goals simp only [List.length_cons]; omega

/-- The tokens of a text; none when some of it is no token. -/
def scan? (s : String) : Option (List Token) := scanFrom? [] s.toList

end Token

end DataGrid.Json
