import StatusDisplay.Payload
import StatusDisplay.Text.Grid

/-!
# The byte stream of a character display

The display sits behind an eight-bit output expander. The upper four outputs carry half a byte, the
lower four the backlight and the signals that clock the half byte in:

    bit    7   6   5   4   3          2       1     0
    line   D7  D6  D5  D4  backlight  enable  read  register

A byte goes out as two halves, the high one first, and a half as three expander writes: set up,
enable raised, enable lowered. Those three writes are one chunk.
-/

namespace StatusDisplay.Lcd

/-- The backlight line. -/
def backlightBit : UInt8 := 0x08

/-- The strobe; the display takes the half byte when it falls. -/
def enableBit : UInt8 := 0x04

/-- Selects reading; never set. -/
def readBit : UInt8 := 0x02

/-- Selects the data register; clear for an instruction. -/
def registerBit : UInt8 := 0x01

/-! ## Instructions and their option bits -/

namespace Instruction

/-- Sets what happens to the address after each cell. -/
def entryMode : UInt8 := 0x04

/-- Switches the glass on or off. -/
def displayControl : UInt8 := 0x08

/-- Sets the bus width and the rows in use. -/
def functionSet : UInt8 := 0x20

/-- Sets the display memory address, its lower seven bits. -/
def setAddress : UInt8 := 0x80

/-- Option of `functionSet`: both rows are in use. -/
def twoRows : UInt8 := 0x08

/-- Option of `entryMode`: the address grows after each cell. -/
def increment : UInt8 := 0x02

/-- Option of `displayControl`: the glass is on. -/
def displayOn : UInt8 := 0x04

end Instruction

/-- Display memory address of the first cell of each row. -/
def rowAddress : Vector UInt8 Text.rowCount := #v[0x00, 0x40]

/-- A half byte sent by hand, with the time that the display needs before the next. -/
structure HandshakeStep where
  value : UInt8
  settleMicros : Nat
  deriving DecidableEq, Repr

/-- The steps that bring the display from any width into four-bit width. -/
def handshake : List HandshakeStep := [⟨0x30, 4100⟩, ⟨0x30, 100⟩, ⟨0x30, 0⟩, ⟨0x20, 0⟩]

/-- Bytes in a serialized frame. -/
def frameLength : Nat := Text.rowCount * (1 + Text.columnCount) * 6

/-- The three expander writes that clock one half byte in. -/
def strobe (value : UInt8) : Chunk := [value, value ||| enableBit, value]

/-- One byte as two strobes, with `signals` on the lower lines of every write. -/
def byte (value signals : UInt8) : List Chunk :=
  [strobe ((value &&& 0xf0) ||| signals), strobe ((value <<< 4) ||| signals)]

/-- The backlight signal for a backlight flag. -/
def backlightSignal (on : Bool) : UInt8 := if on then backlightBit else 0

/-- What is set up after the handshake: two rows, display off, addresses growing, display on. -/
def setupInstructions : List UInt8 :=
  [Instruction.functionSet ||| Instruction.twoRows,
    Instruction.displayControl,
    Instruction.entryMode ||| Instruction.increment,
    Instruction.displayControl ||| Instruction.displayOn]

/-- The setup instructions as they go out. -/
def setup (backlight : Bool) : List Chunk :=
  setupInstructions.flatMap (byte · (backlightSignal backlight))

/-- One row of a frame: the address of its first cell, then the cells. -/
def rowChunks (address : UInt8) (cells : Text.Row) (backlight : Bool) : List Chunk :=
  byte (Instruction.setAddress ||| address) (backlightSignal backlight) ++
    cells.toList.flatMap (byte · (registerBit ||| backlightSignal backlight))

/-- A frame: the whole grid, row by row. -/
def frame (grid : Text.Grid) (backlight : Bool) : List Chunk :=
  (rowAddress.zip grid.rows).toList.flatMap fun row => rowChunks row.1 row.2 backlight

theorem length_flatten_byte (value signals : UInt8) : (byte value signals).flatten.length = 6 := rfl

theorem length_flatten_rowChunks (address : UInt8) (cells : Text.Row) (backlight : Bool) :
    (rowChunks address cells backlight).flatten.length = 6 * (1 + Text.columnCount) := by
  have cell : ∀ (xs : List UInt8) (signals : UInt8),
      (xs.flatMap (byte · signals)).flatten.length = 6 * xs.length := by
    intro xs signals
    induction xs with
    | nil => rfl
    | cons x xs ih =>
      rw [List.flatMap_cons, List.flatten_append, List.length_append, ih, length_flatten_byte,
        List.length_cons]
      omega
  rw [rowChunks, List.flatten_append, List.length_append, cell, length_flatten_byte]
  simp only [Vector.length_toList]
  omega

end StatusDisplay.Lcd
