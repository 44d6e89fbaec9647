import StatusDisplay.Payload
import StatusDisplay.Glyph.Basic
import StatusDisplay.Text.Grid

/-!
# The byte stream of a bitmap panel

A transaction starts with commands, each behind a control byte of its own, and after one data
marker everything is pixel data. The panel is 128 columns wide and stores eight pixel rows in a
page; a text row is two pages, the upper halves of its glyphs and then the lower ones. Both text
rows together do not fit into one transfer, so each row has its own.
-/

namespace StatusDisplay.Oled

/-- Control byte: one command follows. -/
def commandMarker : UInt8 := 0x80

/-- Control byte: everything that follows is pixel data. -/
def dataMarker : UInt8 := 0x40

/-- Panel width in pixels. -/
def width : Nat := 128

/-- Bytes of pixel data in a text row. -/
def rowLength : Nat := 2 * width

/-- The panels to choose from, by their height in pixels. -/
inductive Panel where
  | rows32
  | rows64
  deriving DecidableEq, Repr, Inhabited

/-! ## Commands -/

namespace Command

/-- Sets the order in which memory is filled; one argument, zero for row by row. -/
def memoryMode : UInt8 := 0x20

/-- Sets the first and the last column that data fills. -/
def columnWindow : UInt8 := 0x21

/-- Sets the first and the last page that data fills. -/
def pageWindow : UInt8 := 0x22

/-- Stops scrolling. -/
def scrollOff : UInt8 := 0x2e

/-- Shows memory from its first row on. -/
def startLine : UInt8 := 0x40

/-- Sets the contrast; one argument. -/
def contrast : UInt8 := 0x81

/-- Sets the charge pump; one argument. -/
def chargePump : UInt8 := 0x8d

/-- Reverses the columns. -/
def segmentRemap : UInt8 := 0xa1

/-- Shows the memory, not all pixels lit. -/
def showMemory : UInt8 := 0xa4

/-- Shows set bits as lit pixels. -/
def notInverted : UInt8 := 0xa6

/-- Sets how many rows are driven; one argument, the rows less one. -/
def multiplexRatio : UInt8 := 0xa8

/-- Switches the panel off. -/
def displayOff : UInt8 := 0xae

/-- Switches the panel on. -/
def displayOn : UInt8 := 0xaf

/-- Reverses the rows. -/
def scanDescending : UInt8 := 0xc8

/-- Shifts the rows; one argument. -/
def displayOffset : UInt8 := 0xd3

/-- Sets the display clock; one argument. -/
def clockDivide : UInt8 := 0xd5

/-- Sets the precharge period; one argument. -/
def precharge : UInt8 := 0xd9

/-- Sets the wiring of the common pins; one argument. -/
def commonPins : UInt8 := 0xda

/-- Sets the level of rows that are not driven; one argument. -/
def deselectLevel : UInt8 := 0xdb

end Command

/-- Horizontal addressing over columns 0 to 127 of pages 0 to 3. -/
def addressWindow : List UInt8 :=
  [Command.memoryMode, 0, Command.columnWindow, 0, 127, Command.pageWindow, 0, 3]

/-- Bytes that open a transaction. -/
def openingLength : Nat := 2 * (addressWindow.length + 1) + 1

/-- Multiplex ratio of a panel: its rows less one. -/
def Panel.multiplex : Panel → UInt8
  | .rows32 => 31
  | .rows64 => 63

/-- Wiring of a panel's common pins. -/
def Panel.commonPins : Panel → UInt8
  | .rows32 => 0x02
  | .rows64 => 0x12

/-- Contrast that suits a panel. -/
def Panel.contrast : Panel → UInt8
  | .rows32 => 0x8f
  | .rows64 => 0xcf

/-- The commands that a panel needs after power-on. -/
def Panel.powerOnCommands (panel : Panel) : List UInt8 :=
  [Command.clockDivide, 0x80,
    Command.multiplexRatio, panel.multiplex,
    Command.displayOffset, 0x00,
    Command.startLine,
    Command.chargePump, 0x14,
    Command.segmentRemap,
    Command.scanDescending,
    Command.commonPins, panel.commonPins,
    Command.contrast, panel.contrast,
    Command.precharge, 0xf1,
    Command.deselectLevel, 0x20,
    Command.showMemory,
    Command.notInverted,
    Command.scrollOff]

/-- Commands, each behind its own control byte. -/
def commandChunks (commands : List UInt8) : List Chunk :=
  commands.map fun command => [commandMarker, command]

/-- The command that switches the panel on or off. -/
def powerCommand (on : Bool) : UInt8 := if on then Command.displayOn else Command.displayOff

/-- The opening of a transaction: addressing window, panel on or off, data marker. -/
def opening (lit : Bool) : List Chunk :=
  commandChunks addressWindow ++ commandChunks [powerCommand lit] ++ [[dataMarker]]

/-- One page of a text row: the glyph columns, then blank columns up to the panel's edge. -/
def pageChunks (font : Glyph.Font) (cells : Text.Row) (page : Nat) : List Chunk :=
  let glyphs := cells.toList.map (font.page · page)
  glyphs ++ List.replicate (width - glyphs.flatten.length) [0]

/-- One text row: its upper page, then its lower page. -/
def rowChunks (font : Glyph.Font) (cells : Text.Row) : List Chunk :=
  pageChunks font cells 0 ++ pageChunks font cells 1

theorem length_flatten_opening (lit : Bool) : (opening lit).flatten.length = openingLength := by
  cases lit <;> rfl

theorem length_flatten_pageChunks (font : Glyph.Font) (cells : Text.Row) (page : Nat) :
    (pageChunks font cells page).flatten.length = width := by
  have glyphs (bytes : List UInt8) :
      (bytes.map (font.page · page)).flatten.length = bytes.length * font.width := by
    induction bytes with
    | nil => simp
    | cons byte bytes ih => simp [ih, Nat.succ_mul, Nat.add_comm]
  have blanks (n : Nat) : (List.replicate n ([0] : Chunk)).flatten.length = n := by simp
  have fits := font.width_le
  simp only [Glyph.maxWidth] at fits
  simp only [pageChunks, List.flatten_append, List.length_append, blanks, glyphs,
    Vector.length_toList]
  simp only [width, Text.columnCount]
  omega

/-- Every text row fills its two pages. -/
theorem length_flatten_rowChunks (font : Glyph.Font) (cells : Text.Row) :
    (rowChunks font cells).flatten.length = rowLength := by
  rw [rowChunks, List.flatten_append, List.length_append, length_flatten_pageChunks,
    length_flatten_pageChunks, rowLength]
  omega

end StatusDisplay.Oled
