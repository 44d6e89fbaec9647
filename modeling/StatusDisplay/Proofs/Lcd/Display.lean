import Mathlib.Data.List.GetD
import StatusDisplay.Proofs.Lcd.Picture
import StatusDisplay.Proofs.Payloads

/-!
# The text on the glass

A frame selects the first cell of a row and then stores the row, so it lays the two rows into the
display memory and touches nothing else (`Glass.frame_eq`). With the handshake and the setup in
front, it does so from every state that an aborted transfer can have left the display in
(`shows_from_any_state`).
-/

namespace StatusDisplay.Lcd

/-! ## Rows in display memory -/

/-- The display memory with `values` laid over it from `start` on. -/
def lay (cells : BitVec 7 → UInt8) (start : BitVec 7) (values : List UInt8) : BitVec 7 → UInt8 :=
  fun address => values.getD (address - start).toNat (cells address)

/-- The first value, and then the others from the next address on. -/
theorem lay_cons (cells : BitVec 7 → UInt8) (start : BitVec 7) (value : UInt8)
    (values : List UInt8) (fits : values.length < 128) :
    lay (fun other => if other = start then value else cells other) (start + 1) values =
      lay cells start (value :: values) := by
  funext address
  by_cases here : address = start
  · have past : values.length ≤ (start - (start + 1)).toNat := by bv_omega
    simp only [lay, here, if_pos, BitVec.sub_self]
    rw [List.getD_eq_default _ _ past]
    rfl
  · have further : (address - start).toNat = (address - (start + 1)).toNat + 1 := by bv_omega
    simp only [lay, if_neg here]
    rw [further, List.getD_cons_succ]

theorem lay_inside (cells : BitVec 7 → UInt8) (start : BitVec 7) (values : List UInt8) {i : Nat}
    (inside : i < values.length) (fits : values.length ≤ 128) :
    lay cells start values (start + BitVec.ofNat 7 i) = values[i] := by
  have offset : (start + BitVec.ofNat 7 i - start).toNat = i := by
    rw [BitVec.add_comm, BitVec.add_sub_cancel, BitVec.toNat_ofNat]
    omega
  rw [lay, offset, List.getD_eq_getElem _ _ inside]

theorem lay_outside (cells : BitVec 7 → UInt8) {start address : BitVec 7} {values : List UInt8}
    (outside : values.length ≤ (address - start).toNat) :
    lay cells start values address = cells address :=
  List.getD_eq_default _ _ outside

namespace Glass

/-- Cells stored one after the other lie one after the other. -/
theorem foldl_cells (glass : Glass) (start : BitVec 7) (values : List UInt8)
    (fits : values.length ≤ 128) (increments : glass.increments = true)
    (selected : glass.pointer = .cell start) :
    (values.map Received.cell).foldl take glass =
      { glass with
        cells := lay glass.cells start values
        pointer := .cell (start + BitVec.ofNat 7 values.length) } := by
  induction values generalizing glass start with
  | nil =>
    have still : start + BitVec.ofNat 7 0 = start := BitVec.add_zero start
    have same : lay glass.cells start [] = glass.cells := rfl
    rw [List.length_nil, still, same, ← selected]
    rfl
  | cons value values ih =>
    rw [List.length_cons] at fits
    have stored : glass.take (.cell value) =
        { glass with
          cells := fun other => if other = start then value else glass.cells other
          pointer := .cell (start + 1) } := by
      simp only [take, store, increments, put, selected, if_true]
      rfl
    have length : start + 1 + BitVec.ofNat 7 values.length =
        start + BitVec.ofNat 7 (values.length + 1) := by
      bv_omega
    have rest := ih (glass.take (.cell value)) (start + 1) (by omega)
      (by rw [stored]; exact increments) (by rw [stored])
    rw [List.map_cons, List.foldl_cons, rest, stored]
    simp only [lay_cons _ _ _ _ (by omega : values.length < 128), length, List.length_cons]

/-- A row lies behind the address that was selected for it. -/
theorem row_eq (glass : Glass) (start : BitVec 7) (cells : Text.Row)
    (increments : glass.increments = true) :
    (rowReceived start cells).foldl take glass =
      { glass with
        cells := lay glass.cells start cells.toList
        pointer := .cell (start + BitVec.ofNat 7 Text.columnCount) } := by
  have fits : cells.toList.length ≤ 128 := by
    rw [Vector.length_toList]
    decide
  rw [rowReceived, List.foldl_cons]
  have laid := foldl_cells (glass.obey (.selectCell start)) start cells.toList fits increments rfl
  rw [Vector.length_toList] at laid
  exact laid

/-- Both rows, one over the other. -/
theorem frame_eq (glass : Glass) (grid : Text.Grid) (increments : glass.increments = true) :
    (rowReceived upperStart grid.rows[0] ++ rowReceived lowerStart grid.rows[1]).foldl take glass =
      { glass with
        cells := lay (lay glass.cells upperStart grid.rows[0].toList) lowerStart
          grid.rows[1].toList
        pointer := .cell (lowerStart + BitVec.ofNat 7 Text.columnCount) } := by
  rw [List.foldl_append, row_eq _ _ _ increments]
  exact row_eq { glass with cells := _, pointer := _ } lowerStart _ increments

end Glass

/-! ## Where the text stands -/

/-- Display memory address of column `col` of row `row`. -/
def cellAddress (row col : Nat) : BitVec 7 := BitVec.ofNat 7 (0x40 * row + col)

/-- The display memory holds the cells of the grid, each row from its own address on. -/
def Holds (cells : BitVec 7 → UInt8) (grid : Text.Grid) : Prop :=
  ∀ row (_ : row < Text.rowCount) col (_ : col < Text.columnCount),
    cells (cellAddress row col) = grid.rows[row][col]

/-- Addresses that no row of the text takes up. -/
def Unused (address : BitVec 7) : Prop :=
  ∀ row < Text.rowCount, ∀ col < Text.columnCount, address ≠ cellAddress row col

theorem holds_lay (cells : BitVec 7 → UInt8) (grid : Text.Grid) :
    Holds (lay (lay cells upperStart grid.rows[0].toList) lowerStart grid.rows[1].toList) grid := by
  intro row hrow col hcol
  have lengths (cells : Text.Row) : cells.toList.length = 16 := Vector.length_toList
  rw [Text.columnCount] at hcol
  obtain rfl | rfl : row = 0 ∨ row = 1 := by
    rw [Text.rowCount] at hrow
    omega
  · have beside : (grid.rows[1]).toList.length ≤ (cellAddress 0 col - lowerStart).toNat := by
      rw [lengths, cellAddress, lowerStart]
      bv_omega
    have address : cellAddress 0 col = upperStart + BitVec.ofNat 7 col := by
      rw [cellAddress, upperStart]
      bv_omega
    rw [lay_outside _ beside, address, lay_inside _ _ _ (by rw [lengths]; exact hcol)
      (by rw [lengths]; decide)]
    rfl
  · have address : cellAddress 1 col = lowerStart + BitVec.ofNat 7 col := by
      rw [cellAddress, lowerStart]
      bv_omega
    rw [address, lay_inside _ _ _ (by rw [lengths]; exact hcol) (by rw [lengths]; decide)]
    rfl

theorem lay_unused (cells : BitVec 7 → UInt8) (grid : Text.Grid) {address : BitVec 7}
    (unused : Unused address) :
    lay (lay cells upperStart grid.rows[0].toList) lowerStart grid.rows[1].toList address =
      cells address := by
  have lengths (cells : Text.Row) : cells.toList.length = 16 := Vector.length_toList
  have beside (row : Nat) (hrow : row < Text.rowCount) :
      16 ≤ (address - cellAddress row 0).toNat := by
    refine Nat.le_of_not_lt fun inside => ?_
    refine unused row hrow (address - cellAddress row 0).toNat inside ?_
    have split : cellAddress row (address - cellAddress row 0).toNat =
        cellAddress row 0 + (address - cellAddress row 0) := by
      rw [cellAddress, BitVec.ofNat_add, BitVec.ofNat_toNat, BitVec.setWidth_eq]
      rfl
    rw [split, BitVec.add_comm, BitVec.sub_add_cancel]
  rw [lay_outside _ (by rw [lengths]; exact beside 1 (by decide)),
    lay_outside _ (by rw [lengths]; exact beside 0 (by decide))]

/-! ## The backlight -/

/-- Whether the backlight is lit. -/
def backlightLine (byte : UInt8) : Bool := byte.toBitVec[3]

theorem backlightLine_raised (half : UInt8) :
    backlightLine (half ||| enableBit) = backlightLine half := by
  simp [backlightLine, enableBit]

theorem backlightLine_byte {value signals : UInt8} :
    ∀ sent ∈ (byte value signals).flatten, backlightLine sent = backlightLine signals := by
  have high : backlightLine (value &&& 0xf0 ||| signals) = backlightLine signals := by
    simp [backlightLine]
  have low : backlightLine (value <<< 4 ||| signals) = backlightLine signals := by
    simp [backlightLine]
  simp [byte, strobe, backlightLine_raised, high, low]

theorem backlightLine_row {address : UInt8} {cells : Text.Row} {lit : Bool} :
    ∀ sent ∈ (rowChunks address cells lit).flatten, backlightLine sent = lit := by
  intro sent mem
  rw [rowChunks, List.flatten_append, List.mem_append] at mem
  rcases mem with select | stored
  · rw [backlightLine_byte sent select]
    cases lit <;> rfl
  · obtain ⟨chunk, inside, mem⟩ := List.mem_flatten.1 stored
    obtain ⟨value, _, inside⟩ := List.mem_flatMap.1 inside
    rw [backlightLine_byte sent (List.mem_flatten.2 ⟨chunk, inside, mem⟩)]
    cases lit <;> rfl

/-- Every byte of a frame keeps the backlight as it was asked for. -/
theorem backlightLine_frame {grid : Text.Grid} {lit : Bool} :
    ∀ sent ∈ (frame grid lit).flatten, backlightLine sent = lit := by
  intro sent mem
  rw [frame_eq, List.flatten_append, List.mem_append] at mem
  exact mem.elim (backlightLine_row sent) (backlightLine_row sent)

/-- The expander stands as the last byte left it. -/
theorem Link.last_run (holds : UInt8 → Prop) (link : Link) {bytes : List UInt8}
    (all : ∀ byte ∈ bytes, holds byte) (some : bytes ≠ [] ∨ holds link.last) :
    holds (link.run bytes).1.last := by
  induction bytes generalizing link with
  | nil => exact some.resolve_left (fun h => h rfl)
  | cons byte bytes ih =>
    have stands : (link.receive byte).1.last = byte := by
      unfold receive
      split <;> rfl
    obtain ⟨here, rest⟩ := List.forall_mem_cons.1 all
    rw [run_cons]
    exact ih _ rest (.inr (by rw [stands]; exact here))

/-! ## From any state -/

/-- Four-bit width, nothing waiting, and the settings that the driver asks for. -/
structure Receiver.Ready (lcd : Receiver) : Prop where
  settled : lcd.link.Settled
  twoRows : lcd.glass.twoRows = true
  on : lcd.glass.on = true
  cursor : lcd.glass.cursor = false
  blink : lcd.glass.blink = false
  increments : lcd.glass.increments = true
  shifts : lcd.glass.shifts = false

/-- A display that shows the grid, its backlight as asked for. -/
structure Receiver.Shows (lcd : Receiver) (grid : Text.Grid) (lit : Bool) : Prop
    extends lcd.Ready where
  text : Holds lcd.glass.cells grid
  backlight : backlightLine lcd.link.last = lit

/-- The memories of a display are those of another, apart from the cells of the text. -/
structure Glass.SameBeside (glass before : Glass) : Prop where
  glyphs : glass.glyphs = before.glyphs
  cells : ∀ address, Unused address → glass.cells address = before.cells address

namespace Receiver

/-- A stretch of bytes that says something, at a settled display. -/
theorem receiveAll_says {lcd : Receiver} {bytes : List UInt8} {received : List Received}
    (told : Says bytes received) (settled : lcd.link.Settled) :
    (lcd.receiveAll bytes).link.Settled ∧
      (lcd.receiveAll bytes).glass = received.foldl Glass.take lcd.glass := by
  obtain ⟨next, settled, ran⟩ := told lcd.link settled
  rw [receiveAll_eq, ran]
  exact ⟨settled, rfl⟩

/-- The setup makes a settled display ready, and leaves its memories alone. -/
theorem ready_setup {lcd : Receiver} (settled : lcd.link.Settled) (lit : Bool) :
    (lcd.receiveAll (setup lit).flatten).Ready ∧
      (lcd.receiveAll (setup lit).flatten).glass.cells = lcd.glass.cells ∧
      (lcd.receiveAll (setup lit).flatten).glass.glyphs = lcd.glass.glyphs := by
  obtain ⟨settled, glass⟩ := receiveAll_says (says_setup lit) settled
  have taken : (setupOrders.map Received.order).foldl Glass.take lcd.glass =
      { lcd.glass with
        twoRows := true, on := true, cursor := false, blink := false, increments := true,
        shifts := false } := rfl
  rw [taken] at glass
  exact ⟨⟨settled, by rw [glass], by rw [glass], by rw [glass], by rw [glass], by rw [glass],
    by rw [glass]⟩, by rw [glass], by rw [glass]⟩

/-- A frame puts the text on a display that is ready, and leaves it ready. -/
theorem shows_frame {lcd : Receiver} (ready : lcd.Ready) (grid : Text.Grid) (lit : Bool) :
    (lcd.receiveAll (frame grid lit).flatten).Shows grid lit ∧
      (lcd.receiveAll (frame grid lit).flatten).glass.SameBeside lcd.glass := by
  obtain ⟨settled, glass⟩ := receiveAll_says (says_frame grid lit) ready.settled
  have backlight : backlightLine (lcd.receiveAll (frame grid lit).flatten).link.last = lit := by
    have sent : (frame grid lit).flatten ≠ [] := by
      intro empty
      have length := length_flatten_frame grid lit
      rw [empty] at length
      exact absurd length (by decide)
    rw [receiveAll_eq]
    exact Link.last_run (backlightLine · = lit) lcd.link backlightLine_frame (.inl sent)
  rw [Glass.frame_eq _ _ ready.increments] at glass
  refine ⟨⟨⟨settled, ?_, ?_, ?_, ?_, ?_, ?_⟩, ?_, backlight⟩, ?_, ?_⟩ <;> rw [glass]
  · exact ready.twoRows
  · exact ready.on
  · exact ready.cursor
  · exact ready.blink
  · exact ready.increments
  · exact ready.shifts
  · exact holds_lay _ _
  · exact fun address unused => lay_unused _ _ unused

end Receiver

/-- Whether what came out of the link is an order, which leaves both memories as they are. -/
def Received.isOrder : Received → Bool
  | order _ => true
  | cell _ => false

theorem Glass.foldl_orders (glass : Glass) {received : List Received}
    (orders : ∀ one ∈ received, one.isOrder = true) :
    (received.foldl take glass).cells = glass.cells ∧
      (received.foldl take glass).glyphs = glass.glyphs := by
  induction received generalizing glass with
  | nil => exact ⟨rfl, rfl⟩
  | cons one received ih =>
    obtain ⟨here, rest⟩ := List.forall_mem_cons.1 orders
    obtain ⟨cells, glyphs⟩ := ih (glass.take one) rest
    rw [List.foldl_cons, cells, glyphs]
    cases one with
    | cell value => cases here
    | order order => cases order <;> exact ⟨rfl, rfl⟩

namespace Receiver

/--
After its first byte the handshake is made of instructions only, so the memories stay as the strobe
that may have been up before it left them.
-/
theorem memories_handshake (lcd : Receiver) :
    (lcd.receiveAll handshakeBytes).glass.cells = (lcd.receive 0x30).glass.cells ∧
      (lcd.receiveAll handshakeBytes).glass.glyphs = (lcd.receive 0x30).glass.glyphs := by
  have first : (lcd.receive 0x30).link = ⟨0x30, (lcd.receive 0x30).link.width⟩ := by
    simp only [receive, Link.receive]
    split <;> rfl
  have orders (width : Width) :
      ∀ one ∈ ((⟨0x30, width⟩ : Link).run handshakeBytes.tail).2, one.isOrder = true := by
    cases width with
    | eight => decide
    | four high =>
      cases high with
      | none => decide
      | some high => revert high; decide
  have rest : lcd.receiveAll handshakeBytes =
      (lcd.receive 0x30).receiveAll handshakeBytes.tail := rfl
  rw [rest, receiveAll_eq, first]
  exact Glass.foldl_orders _ (orders _)

end Receiver

end StatusDisplay.Lcd
