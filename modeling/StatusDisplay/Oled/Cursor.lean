import StatusDisplay.Text.Grid

/-!
# The row cursor

A frame of the bitmap panel takes three transfers: the first row, the second row, and a new
opening that sends the panel back to its first column. The cursor says which of them comes next.
-/

namespace StatusDisplay.Oled

/-- The part of a frame that the next transfer carries. -/
inductive Cursor where
  | firstRow
  | secondRow
  /-- Both rows are out; the transaction has to be opened again. -/
  | reopen
  deriving DecidableEq, Repr, Inhabited

namespace Cursor

/-- The text row that comes next, if one does. -/
def row? : Cursor → Option (Fin Text.rowCount)
  | firstRow => some ⟨0, by decide⟩
  | secondRow => some ⟨1, by decide⟩
  | reopen => none

/-- Rows sent since the transaction was opened. -/
def value : Cursor → Nat
  | firstRow => 0
  | secondRow => 1
  | reopen => 2

/-- Past the row that comes next; the end of a frame is not passed. -/
def advance : Cursor → Cursor
  | firstRow => secondRow
  | secondRow | reopen => reopen

theorem row?_eq_none_iff (cursor : Cursor) : cursor.row? = none ↔ cursor = reopen := by
  cases cursor <;> simp [row?]

theorem value_of_row? {cursor : Cursor} {row : Fin Text.rowCount} (h : cursor.row? = some row) :
    cursor.value = row := by
  cases cursor <;> simp [row?] at h <;> subst h <;> rfl

end Cursor

end StatusDisplay.Oled
