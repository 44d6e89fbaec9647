import StatusDisplay.Lcd.Stream
import StatusDisplay.Oled.Stream

/-!
# Payloads that fit

Every stream that the engine sends fits into one payload, whatever the text: a character frame has
204 bytes, the setup of a character display 24, a row of a bitmap panel exactly the capacity of
256, and the setup of a panel together with an opening 63. So no append of the engine is refused.
-/

namespace StatusDisplay

/-- The length of streams of equal length, one after the other. -/
theorem length_flatten_flatMap {α : Type} {f : α → List Chunk} {n : Nat}
    (h : ∀ value, (f value).flatten.length = n) (values : List α) :
    (values.flatMap f).flatten.length = values.length * n := by
  induction values with
  | nil => simp
  | cons value values ih =>
    rw [List.flatMap_cons, List.flatten_append, List.length_append, h, ih, List.length_cons,
      Nat.succ_mul, Nat.add_comm]

namespace Lcd

theorem length_flatten_frame (grid : Text.Grid) (backlight : Bool) :
    (frame grid backlight).flatten.length = frameLength := by
  have row (pair : UInt8 × Text.Row) :
      (rowChunks pair.1 pair.2 backlight).flatten.length = 6 * (1 + Text.columnCount) :=
    length_flatten_rowChunks pair.1 pair.2 backlight
  rw [frame, length_flatten_flatMap row, Vector.length_toList]
  rfl

theorem length_flatten_setup (backlight : Bool) : (setup backlight).flatten.length = 24 := by
  cases backlight <;> rfl

/-- The whole grid as one payload. -/
def framePayload (grid : Text.Grid) (backlight : Bool) : Payload where
  bytes := (frame grid backlight).flatten
  length_le := by rw [length_flatten_frame]; decide

/-- The setup instructions as one payload. -/
def setupPayload (backlight : Bool) : Payload where
  bytes := (setup backlight).flatten
  length_le := by rw [length_flatten_setup]; decide

/-- A setup is never mistaken for a frame. -/
theorem setup_ne_frame (on lit : Bool) (grid : Text.Grid) :
    (setupPayload on).bytes ≠ (framePayload grid lit).bytes := by
  intro equal
  have lengths : (setup on).flatten.length = (frame grid lit).flatten.length :=
    congrArg List.length equal
  rw [length_flatten_setup, length_flatten_frame] at lengths
  exact absurd lengths (by decide)

end Lcd

namespace Oled

/-- The opening of a transaction as one payload. -/
def openingPayload (lit : Bool) : Payload where
  bytes := (opening lit).flatten
  length_le := by rw [length_flatten_opening]; decide

/-- One text row as one payload, which it fills. -/
def rowPayload (font : Glyph.Font) (cells : Text.Row) : Payload where
  bytes := (rowChunks font cells).flatten
  length_le := by rw [length_flatten_rowChunks]; decide

/--
When the glyphs of a page have been drawn, the row is not yet past the end of the page. So the
number of blank columns is never negative.
-/
theorem length_drawn_le (font : Glyph.Font) (cells : Text.Row) (page : Nat) :
    (((List.range page).flatMap (pageChunks font cells)).flatten ++
      (cells.toList.map (font.page · page)).flatten).length ≤ width * (page + 1) := by
  have pages := length_flatten_flatMap (length_flatten_pageChunks font cells) (List.range page)
  have whole := length_flatten_pageChunks font cells page
  rw [pageChunks, List.flatten_append, List.length_append] at whole
  rw [List.length_append, pages, List.length_range, Nat.mul_succ, Nat.mul_comm]
  omega

theorem length_flatten_powerOn (panel : Panel) :
    (commandChunks panel.powerOnCommands).flatten.length = 44 := by
  cases panel <;> rfl

/-- The commands that a panel needs after power-on, as one payload. -/
def powerOnPayload (panel : Panel) : Payload where
  bytes := (commandChunks panel.powerOnCommands).flatten
  length_le := by rw [length_flatten_powerOn]; decide

/-- The power-on commands and the opening of the first transaction, as one payload. -/
def setupPayload (panel : Panel) (lit : Bool) : Payload where
  bytes := (powerOnPayload panel).bytes ++ (opening lit).flatten
  length_le := by
    rw [List.length_append, length_flatten_opening, powerOnPayload, length_flatten_powerOn]
    decide

end Oled

end StatusDisplay
