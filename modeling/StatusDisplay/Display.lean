import StatusDisplay.Text.Grid

/-!
# The display as the foreground sees it

The foreground owns the text and the backlight flag. It learns from the refresh counter how many
whole frames have gone out; the counter has eight bits and wraps.
-/

namespace StatusDisplay

/-- The state that the foreground and the driver share. -/
structure Display where
  text : Text.Grid := .empty
  backlight : Bool := false
  refreshCount : UInt8 := 0
  deriving DecidableEq, Repr, Inhabited

namespace Display

/-- Writes a text, as `Text.Grid.write` does. -/
def write (display : Display) (col row minWidth : Nat) (text : String) : Display :=
  { display with text := display.text.write col row minWidth text }

/-- Blanks the text. -/
def clear (display : Display) : Display := { display with text := display.text.clear }

/--
Sets the backlight of a character display, or the power of a bitmap panel, from the next frame on.
-/
def setBacklight (display : Display) (on : Bool) : Display := { display with backlight := on }

/-- Counts a frame that has gone out. -/
def frameCompleted (display : Display) : Display :=
  { display with refreshCount := display.refreshCount + 1 }

end Display

end StatusDisplay
