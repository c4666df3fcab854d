import DataGrid.Query.Scope
import DataGrid.Request.Basic

/-!
# Row windows

The half-open range of rows that a grid shows, and the offset and limit it becomes.

## Main definitions

* `DataGrid.Window` — the range.
* `DataGrid.Window.ofRequest?` — the range of a request; both ends must be given.
-/

namespace DataGrid

/-- The rows from `start` up to, but not including, `stop`. -/
structure Window where
  start : UInt64
  stop : UInt64
deriving DecidableEq

namespace Window

/-- The window of a request, if both of its ends are given. -/
def ofRequest? (r : Request) : Option Window :=
  match r.startRow, r.endRow with
  | some start, some stop => some ⟨start, stop⟩
  | _, _ => none

/-- The number of rows before the window. -/
def offset (w : Window) : UInt64 := w.start

/-- The number of rows in the window; a window that ends before it starts is empty. -/
def limit (w : Window) : UInt64 := if w.start ≤ w.stop then w.stop - w.start else 0

end Window

/-- Restrict a scope to a window. -/
def Scope.window (s : Scope) (w : Window) : Scope :=
  { s with offset := some w.offset, limit := some w.limit }

end DataGrid
