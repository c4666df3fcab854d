import DataGrid.Text.Invisible

/-!
# Quoted text for descriptions

Texts as they stand in the description of a value: in double quotes, with escapes for the quote,
the backslash and everything that cannot be seen.

## Main definitions

* `DataGrid.Text.quoted` — the quoted text.
* `DataGrid.Text.listing` — a list of quoted texts.
-/

namespace DataGrid.Text

/-- One character of a quoted text. -/
def quotedChar (c : Char) : List Char :=
  if c = '"' then ['\\', '"']
  else if c = '\\' then ['\\', '\\']
  else if c = '\n' then ['\\', 'n']
  else if c = '\r' then ['\\', 'r']
  else if c = '\t' then ['\\', 't']
  else if c.toNat = 0 then ['\\', '0']
  else if isInvisible c then
    '\\' :: 'u' :: '\x7b' :: (Nat.toDigits 16 c.toNat ++ ['\x7d'])
  else [c]

/-- A text in quotes. -/
def quoted (s : String) : String :=
  String.ofList ('"' :: (s.toList.flatMap quotedChar ++ ['"']))

/-- A list of quoted texts in brackets. -/
def listing (texts : List String) : String :=
  "[" ++ ", ".intercalate (texts.map quoted) ++ "]"

end DataGrid.Text
