import StatusDisplay.Engine.Basic

/-!
# Bring-up

The first bring-up of a boot checks the lines and looks for the display; a later one keeps the
display that is known, and the text with it. A first bring-up that fails leaves everything
switched off. A later one that fails leaves the watchdog running, so that there will be another.
-/

namespace StatusDisplay

/-- What a bring-up achieved. -/
structure PowerOn where
  controller : Controller
  /-- Whether the controller was found just now. -/
  firstBoot : Bool
  deriving DecidableEq, Repr

namespace Engine

/-- Powers the bus master and frees the lines. -/
def wake (engine : Engine) : Engine :=
  (engine.modifyBus Bus.revive).modifyBoard fun board => (board.setPowered true).releaseLines.2

/-- Hands the lines to the bus master at standard speed. -/
def attach (engine : Engine) : Engine :=
  engine.modifyBoard fun board => board.attachLines.configure .standard

/-- Looks for the display; finding one blanks the text. -/
def detect (engine : Engine) : Except BringUpError Controller × Engine :=
  match engine.tryBus (Bus.detect engine.config) with
  | (.ok controller, engine) => (.ok controller, { engine with display := engine.display.clear })
  | (.error error, engine) => (.error error, engine)

/-- Attaches the bus and names the controller: the known one, or the one that is found. -/
def identify (engine : Engine) : Option Controller → Except BringUpError Controller × Engine
  | some controller => (.ok controller, engine.attach)
  | none =>
    let (pulledUp, engine) := engine.askBoard Board.linesPulledUp
    if pulledUp then engine.attach.detect else (.error .invalidBus, engine)

/-- Sets up every interrupt with nothing pending, and only then lets them through. -/
def enableInterrupts (engine : Engine) : Engine :=
  engine.modifyBoard fun board =>
    let ready := Irq.all.foldl
      (fun board irq => (board.setPriority irq engine.config.irqPriority).clearPending irq) board
    Irq.all.foldl Board.enableIrq (ready.setErrorIrq true).stopTransfer

/-- Takes the controller into use, at the start of a frame. -/
def adopt (engine : Engine) (controller : Controller) : Engine :=
  { engine with mode := .ofController controller }.enableInterrupts.rearm

/-- Takes a character display through its handshake by hand, then transfers its setup. -/
def startCharacter (engine : Engine) (address : UInt8) :
    Except Defect (Except BusError Unit × Engine) :=
  match engine.tryBus (Bus.handshake address) with
  | (.error error, engine) => return (.error error, engine)
  | (.ok (), engine) => do
    let engine ← engine.load (Lcd.setup engine.display.backlight)
    return (.ok (), (engine.modifyBoard (·.setTransferRequests true)).startTransfer)

/-- Transfers the setup of a bitmap panel together with the opening of its first transaction. -/
def startBitmap (engine : Engine) : Except Defect Engine := do
  let engine := engine.modifyBoard fun board => (board.configure .fast).setErrorIrq true
  let engine ← engine.load (Oled.commandChunks engine.config.panel.powerOnCommands)
  let engine ← engine.openTransaction
  return (engine.modifyBoard (·.setTransferRequests true)).startTransfer

/-- Starts the refresh of a controller. -/
def startRefresh (engine : Engine) :
    Controller → Except Defect (Except BringUpError Unit × Engine)
  | .character address => do
    let (result, engine) ← engine.startCharacter address
    return (result.mapError .bus, engine)
  | .bitmap _ => return (.ok (), ← engine.startBitmap)

/-- Brings the display up as far as it will go. -/
def attempt (engine : Engine) (known : Option Controller) :
    Except Defect (Except BringUpError Controller × Engine) :=
  match engine.wake.identify known with
  | (.error error, engine) => return (.error error, engine)
  | (.ok controller, engine) => do
    let (result, engine) ← (engine.adopt controller).startRefresh controller
    return (result.map fun _ => controller, engine)

/-- Switches everything off and leaves the lines to themselves. -/
def shutDown (engine : Engine) : Engine :=
  let masked := engine.modifyBoard fun board => Irq.all.foldl Board.disableIrq board
  let dark := masked.cancelWatchdog.modifyBoard fun board =>
    board.stopTransfer.disable.parkLines.setPowered false
  { dark with mode := .unknown }

/-- What a failed bring-up leaves behind. -/
def giveUp (engine : Engine) (firstBoot : Bool) (error : BringUpError) : Engine :=
  let engine := engine.recordFailure error.kind
  if firstBoot then engine.shutDown else engine.rearm

/-- Brings the display up and starts its refresh. -/
def bringUp (engine : Engine) : Except Defect (Except BringUpError PowerOn × Engine) := do
  let known := engine.mode.controller?
  match ← engine.attempt known with
  | (.ok controller, engine) => return (.ok { controller, firstBoot := known.isNone }, engine)
  | (.error error, engine) => return (.error error, engine.giveUp known.isNone error)

end Engine

end StatusDisplay
