/-!
# Hexadecimal digits

The digits by which escapes in quoted texts name their characters.

## Main definitions

* `DataGrid.Text.hexValue?`, `DataGrid.Text.hexNumber?` — a digit, and a number.
* `DataGrid.Text.scalar?` — the character of a code point that is one.
-/

namespace DataGrid.Text

/-- The value of a hexadecimal digit. -/
def hexValue? (c : Char) : Option Nat :=
  if '0' ≤ c ∧ c ≤ '9' then some (c.toNat - 48)
  else if 'a' ≤ c ∧ c ≤ 'f' then some (c.toNat - 87)
  else if 'A' ≤ c ∧ c ≤ 'F' then some (c.toNat - 55)
  else none

/-- The number written by hexadecimal digits. -/
def hexNumber? (cs : List Char) : Option Nat :=
  cs.foldlM (fun n c => (hexValue? c).map fun d => 16 * n + d) 0

/-- The character of a code point; surrogates and numbers beyond Unicode have none. -/
def scalar? (n : Nat) : Option Char := if h : n.isValidChar then some (Char.ofNatAux n h) else none

end DataGrid.Text
