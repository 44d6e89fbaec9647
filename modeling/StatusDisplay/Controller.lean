import StatusDisplay.Config
import StatusDisplay.Oled.Cursor

/-!
# Display controllers

A display is told from its bus address alone: the configured panel address means a bitmap panel,
any other a character display. The mode of the driver adds the place within the frame.
-/

namespace StatusDisplay

/-- A display controller with its bus address. -/
inductive Controller where
  | character (address : UInt8)
  | bitmap (address : UInt8)
  deriving DecidableEq, Repr

namespace Controller

/-- The bus address. -/
def address : Controller → UInt8
  | character address | bitmap address => address

/-- The controller that an acknowledging address belongs to. -/
def classify (config : Config) (address : UInt8) : Controller :=
  if address = config.oledAddress then bitmap address else character address

@[simp] theorem address_classify (config : Config) (address : UInt8) :
    (classify config address).address = address := by
  unfold classify
  split <;> rfl

end Controller

/-- What the driver refreshes. -/
inductive Mode where
  /-- No display has been found. -/
  | unknown
  /-- A character display, a whole frame at a time. -/
  | character (address : UInt8)
  /-- A bitmap panel, a row at a time. -/
  | bitmap (address : UInt8) (cursor : Oled.Cursor)
  deriving DecidableEq, Repr, Inhabited

namespace Mode

/-- The mode at the start of a controller's first frame. -/
def ofController : Controller → Mode
  | .character address => character address
  | .bitmap address => bitmap address .firstRow

/-- The controller in use, if one is known. -/
def controller? : Mode → Option Controller
  | unknown => none
  | character address => some (.character address)
  | bitmap address _ => some (.bitmap address)

/-- Moves the cursor of a bitmap panel; other modes have none. -/
def withCursor (mode : Mode) (cursor : Oled.Cursor) : Mode :=
  match mode with
  | bitmap address _ => bitmap address cursor
  | mode => mode

@[simp] theorem controller?_ofController (controller : Controller) :
    (ofController controller).controller? = some controller := by
  cases controller <;> rfl

@[simp] theorem controller?_withCursor (mode : Mode) (cursor : Oled.Cursor) :
    (mode.withCursor cursor).controller? = mode.controller? := by
  cases mode <;> rfl

end Mode

end StatusDisplay
