import StatusDisplay.Defect

/-!
# The text grid

The glass shows two rows of sixteen cells, a byte each. A write lays a run of bytes over one row
and pads it with blanks to a minimum width; what falls outside the grid is dropped, never wrapped.
The lemmas give the cells of a row after an overlay, which is all that a write does to a row.
-/

namespace StatusDisplay.Text

/-- Rows on the glass. -/
def rowCount : Nat := 2

/-- Cells in a row. -/
def columnCount : Nat := 16

/-- The byte of an empty cell, an ASCII space. -/
def blank : UInt8 := 0x20

/-- One row of cells. -/
abbrev Row := Vector UInt8 columnCount

/-- Lays `cells` over the row from column `col` on; cells past the right edge are dropped. -/
def Row.overlay (row : Row) (col : Nat) (cells : List UInt8) : Row :=
  Vector.ofFn fun i => if col ≤ i then cells.getD (i - col) row[i] else row[i]

/--
The bytes of a write, followed by blanks up to `minWidth` cells. No row has more than
`columnCount` cells, so a greater width asks for no more blanks than that.
-/
def padded (minWidth : Nat) (bytes : List UInt8) : List UInt8 :=
  bytes ++ List.replicate (min minWidth columnCount - bytes.length) blank

/-- The cells of the whole glass. -/
structure Grid where
  rows : Vector Row rowCount
  deriving DecidableEq, Repr

/-- The grid whose cells are all empty. -/
def Grid.empty : Grid := ⟨Vector.replicate rowCount (Vector.replicate columnCount blank)⟩

instance : Inhabited Grid := ⟨Grid.empty⟩

/--
Writes the UTF-8 bytes of `text` at column `col` of row `row`, padded with blanks to `minWidth`
cells. A row or column off the glass leaves the grid as it was.
-/
def Grid.write (grid : Grid) (col row minWidth : Nat) (text : String) : Grid :=
  if h : row < rowCount then
    ⟨grid.rows.set row (grid.rows[row].overlay col (padded minWidth text.toUTF8.toList))⟩
  else grid

/-- Blanks each row over its full width. -/
def Grid.clear (grid : Grid) : Grid :=
  (List.range rowCount).foldl (fun g row => g.write 0 row columnCount "") grid

/-- The row at `index`; asking for a row off the glass is a defect. -/
def Grid.row (grid : Grid) (index : Nat) : Except Defect Row :=
  if h : index < rowCount then .ok grid.rows[index] else .error (.outOfBounds rowCount index)

theorem Row.getElem_overlay (row : Row) (col : Nat) (cells : List UInt8) (i : Nat)
    (hi : i < columnCount) :
    (row.overlay col cells)[i] = if col ≤ i then cells.getD (i - col) row[i] else row[i] := by
  simp [overlay]

/-- An overlay at or past the right edge changes nothing. -/
theorem Row.overlay_of_le (row : Row) {col : Nat} (cells : List UInt8) (h : columnCount ≤ col) :
    row.overlay col cells = row := by
  ext i hi
  rw [getElem_overlay, if_neg (by omega)]

/-- A write to a row off the glass changes nothing. -/
theorem Grid.write_of_le (grid : Grid) (col : Nat) {row : Nat} (minWidth : Nat) (text : String)
    (h : rowCount ≤ row) : grid.write col row minWidth text = grid := by
  rw [write, dif_neg (by omega)]

/-- Blanks over the full width leave an empty row. -/
theorem Row.overlay_blank (row : Row) :
    row.overlay 0 (padded columnCount []) = Vector.replicate columnCount blank := by
  ext i hi
  rw [getElem_overlay _ _ _ _ hi, if_pos (Nat.zero_le i)]
  have cells : padded columnCount [] = List.replicate columnCount blank := rfl
  rw [cells, Nat.sub_zero]
  simp [List.getD, hi]

theorem Grid.clear_eq_empty (grid : Grid) : grid.clear = .empty := by
  have bytes : ("" : String).toUTF8.toList = [] := by decide +kernel
  have write (grid : Grid) (row : Nat) (h : row < rowCount) : grid.write 0 row columnCount "" =
      ⟨grid.rows.set row (Vector.replicate columnCount blank)⟩ := by
    rw [Grid.write, dif_pos h, bytes, Row.overlay_blank]
  have both : grid.clear = (grid.write 0 0 columnCount "").write 0 1 columnCount "" := rfl
  rw [both, write grid 0 (by decide), write _ 1 (by decide)]
  apply congrArg Grid.mk
  ext i hi j hj
  obtain rfl | rfl : i = 0 ∨ i = 1 := by
    unfold rowCount at hi
    omega
  · simp
  · simp

end StatusDisplay.Text
