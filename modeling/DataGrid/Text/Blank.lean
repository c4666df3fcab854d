/-!
# Blank characters

The white space of Unicode (property `White_Space`, 25 characters, unchanged since version 6.3)
and the trimming of a text at both ends.

## Main definitions

* `DataGrid.Text.isBlank` — membership in the table.
* `DataGrid.Text.trim` — a text without the blanks at its two ends.

## Main results

* `DataGrid.Text.isBlank_of_isWhitespace` — the table extends the ASCII white space of the core
  library.
-/

namespace DataGrid.Text

/-! ## The table -/

/-- Closed ranges of code points, ascending and apart. -/
def blankRanges : List (Nat × Nat) :=
  [(0x09, 0x0D), (0x20, 0x20), (0x85, 0x85), (0xA0, 0xA0), (0x1680, 0x1680), (0x2000, 0x200A),
    (0x2028, 0x2029), (0x202F, 0x202F), (0x205F, 0x205F), (0x3000, 0x3000)]

/-- Whether a code point lies in one of the ranges. -/
def inRanges (ranges : List (Nat × Nat)) (n : Nat) : Bool :=
  ranges.any fun r => r.1 ≤ n && n ≤ r.2

/-- A number between the ends of a listed range is in the ranges. -/
theorem inRanges_of_mem {ranges : List (Nat × Nat)} {a b n : Nat} (h : (a, b) ∈ ranges)
    (ha : a ≤ n) (hb : n ≤ b) : inRanges ranges n = true :=
  List.any_eq_true.mpr ⟨(a, b), h, by simp [ha, hb]⟩

/-- A character is blank when Unicode gives it the property `White_Space`. -/
def isBlank (c : Char) : Bool := inRanges blankRanges c.toNat

/-- Every character that the core library calls white space is blank. -/
theorem isBlank_of_isWhitespace {c : Char} (h : c.isWhitespace = true) : isBlank c = true := by
  simp only [Char.isWhitespace, Bool.or_eq_true, decide_eq_true_eq] at h
  rcases h with ((h | h) | h) | h <;> subst h <;> decide

/-! ## Trimming -/

/-- The characters from the first one that is not blank. -/
def trimStart (cs : List Char) : List Char := cs.dropWhile isBlank

/-- Blanks at both ends removed. -/
def trimChars (cs : List Char) : List Char :=
  (trimStart (trimStart cs).reverse).reverse

/-- A text without the blanks at its two ends. -/
def trim (s : String) : String := String.ofList (trimChars s.toList)

end DataGrid.Text
