import StatusDisplay.Text.Grid

/-!
# The cells of a row after a write

From column `col` on a write first lays down bytes, as many as fit into the row, then blanks, and the
other cells stay (`write_cells`). The grid measures a write in natural numbers; counting its cells one
by one in machine words comes to the same, and no count overflows (`Row.writeWords_eq`).
-/

namespace StatusDisplay.Text

/-! ## The bytes of a text -/

/-- Listing the bytes of an array adds those from an index on to those that were listed before. -/
theorem toList_loop_eq (bytes : ByteArray) (i : Nat) (listed : List UInt8) :
    ByteArray.toList.loop bytes i listed = listed.reverse ++ bytes.data.toList.drop i := by
  fun_induction ByteArray.toList.loop bytes i listed with
  | case1 i listed inside ih =>
    have bound : i < bytes.data.toList.length := inside
    rw [ih, List.drop_eq_getElem_cons bound]
    simp [ByteArray.get!, inside]
  | case2 i listed outside =>
    have bound : bytes.data.toList.length ≤ i := Nat.le_of_not_lt outside
    rw [List.drop_eq_nil_of_le bound, List.append_nil]

theorem length_toUTF8 (text : String) : text.toUTF8.toList.length = text.utf8ByteSize := by
  rw [ByteArray.toList, toList_loop_eq]
  rfl

/-! ## What an overlay leaves -/

/-- The number of cells from column `col` on that `length` bytes cover. -/
def covered (col length : Nat) : Nat := min length (columnCount - col)

theorem covered_mono (col : Nat) {length length' : Nat} (le : length ≤ length') :
    covered col length ≤ covered col length' := by
  unfold covered
  omega

theorem add_covered_le {col : Nat} (inside : col ≤ columnCount) (length : Nat) :
    col + covered col length ≤ columnCount := by
  unfold covered
  omega

theorem take_covered {α : Type} (col : Nat) (cells : List α) :
    cells.take (covered col cells.length) = cells.take (columnCount - col) := by
  rw [covered, Nat.min_comm, ← List.take_take, List.take_length]

theorem Row.toList_overlay (row : Row) {col : Nat} (inside : col ≤ columnCount)
    (cells : List UInt8) :
    (row.overlay col cells).toList =
      row.toList.take col ++ cells.take (columnCount - col) ++
        row.toList.drop (col + covered col cells.length) := by
  have count : row.toList.length = columnCount := row.length_toList
  have value : covered col cells.length = min cells.length (columnCount - col) := rfl
  generalize covered col cells.length = reach at value
  apply List.ext_getElem
  · simp only [Vector.length_toList, List.length_append, List.length_take, List.length_drop]
    omega
  · intro i hi hi'
    rw [Vector.length_toList] at hi
    rw [Vector.getElem_toList, getElem_overlay _ _ _ _ hi]
    simp only [List.getElem_append, List.length_append, List.length_take, count]
    by_cases before : i < col
    · rw [if_neg (by omega), dif_pos (by omega), dif_pos (by omega)]
      simp
    · rw [if_pos (by omega)]
      by_cases within : i - col < cells.length
      · rw [dif_pos (by omega), dif_neg (by omega)]
        simp [within, inside]
      · have behind :
            col + reach + (i - (min col columnCount + min (columnCount - col) cells.length)) = i := by
          omega
        rw [dif_neg (by omega)]
        simp [within, behind]

/-! ## Bytes and blanks -/

theorem length_padded (minWidth : Nat) (bytes : List UInt8) :
    (padded minWidth bytes).length = max bytes.length (min minWidth columnCount) := by
  rw [padded, List.length_append, List.length_replicate]
  omega

theorem covered_padded (col minWidth : Nat) (bytes : List UInt8) :
    covered col (padded minWidth bytes).length = covered col (max bytes.length minWidth) := by
  rw [length_padded]
  unfold covered
  omega

/-- What fits of a padded text: bytes, and blanks behind them. -/
theorem take_padded (col minWidth : Nat) (bytes : List UInt8) :
    (padded minWidth bytes).take (columnCount - col) =
      bytes.take (covered col bytes.length) ++
        List.replicate (covered col (max bytes.length minWidth) - covered col bytes.length) blank := by
  rw [padded, List.take_append, List.take_replicate, take_covered]
  congr 2
  unfold covered
  omega

/-- The four parts of a row after a write. -/
theorem toList_row_write (grid : Grid) {col row : Nat} (inside : row < rowCount)
    (within : col ≤ columnCount) (minWidth : Nat) (text : String) :
    (grid.write col row minWidth text).rows[row].toList =
      grid.rows[row].toList.take col ++
        text.toUTF8.toList.take (covered col text.toUTF8.toList.length) ++
        List.replicate (covered col (max text.toUTF8.toList.length minWidth) -
          covered col text.toUTF8.toList.length) blank ++
        grid.rows[row].toList.drop (col + covered col (max text.toUTF8.toList.length minWidth)) := by
  rw [Grid.write, dif_pos inside, Vector.getElem_set_self, Row.toList_overlay _ within, take_padded,
    covered_padded, List.append_assoc _ _ (List.replicate _ _)]

theorem row_write_of_ne (grid : Grid) {row other : Nat} (inside : other < rowCount)
    (ne : other ≠ row) (col minWidth : Nat) (text : String) :
    (grid.write col row minWidth text).rows[other] = grid.rows[other] := by
  unfold Grid.write
  split
  case isTrue inside' => exact Vector.getElem_set_ne inside' inside ne.symm
  case isFalse => rfl

/-- A write off the glass changes nothing. -/
theorem write_of_off (grid : Grid) {col row : Nat} (off : rowCount ≤ row ∨ columnCount ≤ col)
    (minWidth : Nat) (text : String) : grid.write col row minWidth text = grid := by
  rcases off with below | beyond
  · exact grid.write_of_le col minWidth text below
  · unfold Grid.write
    split
    case isTrue inside =>
      rw [Row.overlay_of_le _ _ beyond, Vector.set_getElem_self]
    case isFalse => rfl

/-! ## Cell by cell -/

/-- One more, if a machine word holds it. -/
def succ? (count : UInt64) : Option UInt64 :=
  if count.toNat + 1 < UInt64.size then some (count + 1) else none

/-- The difference, or zero if there is none. -/
def saturatingSub (a b : UInt64) : UInt64 := if b ≤ a then a - b else 0

/-- Puts bytes into cells for as long as there are both, and adds to the count of bytes put. -/
def copyBytes : List UInt8 → List UInt8 → UInt64 → Option (List UInt8 × UInt64)
  | _ :: cells, byte :: bytes, count => do
    let (cells, count) ← copyBytes cells bytes (← succ? count)
    some (byte :: cells, count)
  | cells, _, count => some (cells, count)

/-- Blanks `count` cells behind the first `start`, as far as there are any. -/
def blankCells (cells : List UInt8) (start count : UInt64) : List UInt8 :=
  let rest := cells.drop start.toNat
  cells.take start.toNat ++
    (List.replicate (min count.toNat rest.length) blank ++ rest.drop count.toNat)

/-- A write to a row, with its column and its counts in machine words; none of a count overflows. -/
def Row.writeWords (row : Row) (col minWidth : UInt64) (bytes : List UInt8) : Option (List UInt8) :=
  if col.toNat ≤ columnCount then do
    let (cells, count) ← copyBytes (row.toList.drop col.toNat) bytes 0
    some (row.toList.take col.toNat ++ blankCells cells count (saturatingSub minWidth count))
  else some row.toList

theorem toNat_saturatingSub (a b : UInt64) : (saturatingSub a b).toNat = a.toNat - b.toNat := by
  unfold saturatingSub
  split
  case isTrue le => exact UInt64.toNat_sub_of_le a b le
  case isFalse gt =>
    rw [UInt64.le_iff_toNat_le] at gt
    show 0 = _
    omega

/-- There are never more bytes to put than cells, so the count does not overflow. -/
theorem exists_copyBytes (cells bytes : List UInt8) (count : UInt64)
    (fits : count.toNat + cells.length < UInt64.size) :
    ∃ total : UInt64, total.toNat = count.toNat + min bytes.length cells.length ∧
      copyBytes cells bytes count =
        some (bytes.take cells.length ++ cells.drop bytes.length, total) := by
  induction cells generalizing bytes count with
  | nil => exact ⟨count, by simp, by simp [copyBytes]⟩
  | cons cell cells ih =>
    cases bytes with
    | nil => exact ⟨count, by simp, by simp [copyBytes]⟩
    | cons byte bytes =>
      rw [List.length_cons] at fits
      have next : succ? count = some (count + 1) := if_pos (by omega)
      have value : (count + 1).toNat = count.toNat + 1 := by
        rw [UInt64.toNat_add, UInt64.toNat_one]
        exact Nat.mod_eq_of_lt (by unfold UInt64.size at fits; omega)
      obtain ⟨total, sum, copied⟩ := ih bytes (count + 1) (by omega)
      refine ⟨total, ?_, ?_⟩
      · simp only [List.length_cons]
        omega
      · simp [copyBytes, next, copied]

/-- Behind the bytes that were put, blanks cover the cells that were left. -/
theorem blankCells_copied (cells bytes : List UInt8) {total : UInt64}
    (sum : total.toNat = min bytes.length cells.length) (count : UInt64) :
    blankCells (bytes.take cells.length ++ cells.drop bytes.length) total count =
      bytes.take cells.length ++
        (List.replicate (min count.toNat (cells.length - bytes.length)) blank ++
          cells.drop (bytes.length + count.toNat)) := by
  have put : (bytes.take cells.length).length = total.toNat := by
    rw [List.length_take, sum, Nat.min_comm]
  unfold blankCells
  dsimp only
  rw [List.take_left' put, List.drop_left' put, List.length_drop, List.drop_drop]

/-- The blanks that are missing, as far as there are cells for them, fill the width. -/
theorem blanks_eq (col length minWidth : Nat) :
    min (minWidth - covered col length) (columnCount - col - length) =
      covered col (max length minWidth) - covered col length := by
  unfold covered
  omega

/-- Where the bytes alone go past the edge, both sides have come to it. -/
theorem covered_add (col length minWidth : Nat) :
    covered col (length + (minWidth - covered col length)) = covered col (max length minWidth) := by
  unfold covered
  omega

/-- Cells past the edge make no difference to what is left of a row. -/
theorem drop_covered (row : Row) (col length : Nat) :
    row.toList.drop (col + covered col length) = row.toList.drop (col + length) := by
  have count : row.toList.length = columnCount := row.length_toList
  unfold covered
  rcases Nat.le_total length (columnCount - col) with fits | beyond
  · rw [Nat.min_eq_left fits]
  · rw [List.drop_eq_nil_of_le (by omega), List.drop_eq_nil_of_le (by omega)]

/-- Counted in machine words, no count overflows, and the row is the same. -/
theorem Row.writeWords_eq (row : Row) (col minWidth : UInt64) (bytes : List UInt8) :
    row.writeWords col minWidth bytes =
      some (row.overlay col.toNat (padded minWidth.toNat bytes)).toList := by
  unfold writeWords
  split
  case isFalse beyond => rw [overlay_of_le _ _ (by omega)]
  case isTrue inside =>
    have room : (row.toList.drop col.toNat).length = columnCount - col.toNat := by
      rw [List.length_drop, Vector.length_toList]
    have fits : (0 : UInt64).toNat + (row.toList.drop col.toNat).length < UInt64.size := by
      rw [room]
      show 0 + (16 - col.toNat) < 2 ^ 64
      omega
    obtain ⟨total, sum, copied⟩ := exists_copyBytes (row.toList.drop col.toNat) bytes 0 fits
    have put : total.toNat = covered col.toNat bytes.length := by
      rw [sum, room]
      exact Nat.zero_add _
    rw [copied, toList_overlay _ inside, take_padded, covered_padded]
    show some (_ ++ blankCells _ _ _) = _
    rw [blankCells_copied _ _ (sum.trans (Nat.zero_add _)), toNat_saturatingSub, put, room,
      List.drop_drop, ← drop_covered, covered_add, blanks_eq, take_covered, List.append_assoc,
      List.append_assoc]

/--
**A write changes these cells.** In a row on the glass, from a column up to the edge on, a write lays
down the bytes of the text and then blanks, so far as they fit; all other cells of the grid keep what
they had. A write anywhere else changes nothing. With column, row and width in machine words no count
of cells overflows. Clearing leaves the empty grid.
-/
theorem write_cells (grid : Grid) :
    (∀ (col row minWidth : Nat) (text : String) (_ : row < rowCount), col ≤ columnCount →
      let copied := min text.utf8ByteSize (columnCount - col)
      let reached := min (max text.utf8ByteSize minWidth) (columnCount - col)
      let written := grid.write col row minWidth text
      written.rows[row].toList = grid.rows[row].toList.take col ++
          text.toUTF8.toList.take copied ++ List.replicate (reached - copied) blank ++
          grid.rows[row].toList.drop (col + reached) ∧
        copied ≤ reached ∧ col + reached ≤ columnCount ∧
        ∀ (other : Nat) (_ : other < rowCount), other ≠ row →
          written.rows[other] = grid.rows[other]) ∧
    (∀ (col row minWidth : Nat) (text : String), rowCount ≤ row ∨ columnCount < col →
      grid.write col row minWidth text = grid) ∧
    (∀ (col row minWidth : UInt64) (text : String) (_ : row.toNat < rowCount),
      grid.rows[row.toNat].writeWords col minWidth text.toUTF8.toList =
        some (grid.write col.toNat row.toNat minWidth.toNat text).rows[row.toNat].toList) ∧
    grid.clear = .empty := by
  refine ⟨?_, ?_, ?_, grid.clear_eq_empty⟩
  · intro col row minWidth text inside within
    have cells := toList_row_write grid inside within minWidth text
    rw [length_toUTF8] at cells
    refine ⟨cells, ?_, ?_, ?_⟩
    · exact covered_mono col (Nat.le_max_left _ minWidth)
    · exact add_covered_le within _
    · intro other inside' ne
      exact row_write_of_ne grid inside' ne col minWidth text
  · intro col row minWidth text off
    exact write_of_off grid (off.imp_right Nat.le_of_lt) minWidth text
  · intro col row minWidth text inside
    rw [Row.writeWords_eq, Grid.write, dif_pos inside, Vector.getElem_set_self]

/-- A width that no machine word exceeds. -/
def widest : Nat := 18446744073709551615

/-- The edge cuts the last letter of this text in two, and leaves no room for a blank. -/
theorem write_cells_cut :
    (Grid.empty.write 14 1 widest "aé").rows[1].toList = List.replicate 14 blank ++ [0x61, 0xc3] ∧
    (Grid.empty.write 14 1 widest "aé").rows[0] = Grid.empty.rows[0] ∧
    Grid.empty.write 17 1 4 "a" = .empty := by
  obtain ⟨written, off, _⟩ := write_cells .empty
  obtain ⟨cells, _, _, others⟩ :=
    written 14 1 widest "aé" (by decide : 1 < rowCount) (by decide : 14 ≤ columnCount)
  refine ⟨?_, others 0 (by decide) Nat.zero_ne_one, ?_⟩
  · have bytes : "aé".toUTF8.toList = [0x61, 0xc3, 0xa9] := by decide +kernel
    rw [bytes] at cells
    exact cells
  · exact off 17 1 4 "a" (.inr (by decide))

end StatusDisplay.Text
