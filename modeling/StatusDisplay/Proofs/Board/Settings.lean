import StatusDisplay.Proofs.Board.Exchange

/-!
# Settings of the board

The settings are the part of the board that only the driver's calls change and that no peer can
reach: supply, speed and interrupts of the bus master, the connection of the lines, the interrupt
controller, the alarm, and whether the transfer channel runs. `Exchange.settings_eq` computes them
from the calls alone.
-/

namespace StatusDisplay

/-- What the driver's calls have set on the board. -/
structure Settings where
  powered : Bool
  enabled : Bool
  eventIrq : Bool
  errorIrq : Bool
  transferRequests : Bool
  transferActive : Bool
  scl : LineState
  sda : LineState
  irqs : IrqSources
  alarm : Option Nat
  /-- The speed configured last. -/
  speed : Option Speed

namespace Settings

/-- Changes the state of a line. -/
def modifyLine (settings : Settings) (line : Line) (f : LineState → LineState) : Settings :=
  match line with
  | .scl => { settings with scl := f settings.scl }
  | .sda => { settings with sda := f settings.sda }

/-- Changes the state of an interrupt source. -/
def modifyIrq (settings : Settings) (irq : Irq) (f : IrqSource → IrqSource) : Settings :=
  { settings with irqs := settings.irqs.modify irq f }

/-- The settings after a call. -/
def after (settings : Settings) : Call → Settings
  | .setPowered on => { settings with powered := on }
  | .configure speed =>
    { settings with
      enabled := true
      eventIrq := false
      errorIrq := false
      transferRequests := false
      speed := some speed }
  | .disable => { settings with enabled := false }
  | .reset =>
    { settings with
      enabled := false
      eventIrq := false
      errorIrq := false
      transferRequests := false }
  | .setEventIrq on => { settings with eventIrq := on }
  | .setErrorIrq on => { settings with errorIrq := on }
  | .setTransferRequests on => { settings with transferRequests := on }
  | .startTransfer _ => { settings with transferActive := true }
  | .stopTransfer => { settings with transferActive := false }
  | .setLineMode line mode => settings.modifyLine line ({ · with mode })
  | .release line => settings.modifyLine line ({ · with drivenLow := false })
  | .pullLow line => settings.modifyLine line ({ · with drivenLow := true })
  | .setPriority irq priority => settings.modifyIrq irq ({ · with priority := some priority })
  | .enableIrq irq => settings.modifyIrq irq ({ · with enabled := true })
  | .disableIrq irq => settings.modifyIrq irq ({ · with enabled := false })
  | .clearPending irq => settings.modifyIrq irq ({ · with pending := false })
  | .setPending irq => settings.modifyIrq irq ({ · with pending := true })
  | .armAlarm micros => { settings with alarm := some micros }
  | .cancelAlarm => { settings with alarm := none }
  | _ => settings

/-- The settings after calls made in this order. -/
def afterAll (settings : Settings) (calls : List Call) : Settings := calls.foldl after settings

@[simp] theorem afterAll_cons (settings : Settings) (call : Call) (calls : List Call) :
    settings.afterAll (call :: calls) = (settings.after call).afterAll calls := rfl

@[simp] theorem afterAll_append (settings : Settings) (calls more : List Call) :
    settings.afterAll (calls ++ more) = (settings.afterAll calls).afterAll more :=
  List.foldl_append

/-- Calls that each leave the settings alone do so together. -/
theorem afterAll_of_all {p : Call → Bool} (settings : Settings) {calls : List Call}
    (all : calls.all p = true)
    (keep : ∀ settings call, p call = true → after settings call = settings) :
    settings.afterAll calls = settings := by
  induction calls with
  | nil => rfl
  | cons call calls ih =>
    rw [List.all_cons, Bool.and_eq_true] at all
    rw [afterAll_cons, keep _ _ all.1, ih all.2]

/-- Traffic by hand sets nothing. -/
@[simp] theorem afterAll_traffic (settings : Settings) {calls : List Call}
    (all : calls.all Call.isTraffic = true) : settings.afterAll calls = settings := by
  apply settings.afterAll_of_all all
  intro settings call traffic
  cases call <;> first | rfl | cases traffic

end Settings

/-- The settings of a board. -/
def Board.settings (board : Board) : Settings where
  powered := board.master.powered
  enabled := board.master.enabled
  eventIrq := board.master.eventIrq
  errorIrq := board.master.errorIrq
  transferRequests := board.master.transferRequests
  transferActive := board.transferActive
  scl := board.scl
  sda := board.sda
  irqs := board.irqs
  alarm := board.alarm
  speed := board.speed?

namespace Board

theorem settings_requestStart (board : Board) :
    board.requestStart.settings = board.settings := by
  unfold requestStart
  split <;> rfl

theorem settings_pollStop (board : Board) : board.pollStop.settings = board.settings := by
  unfold pollStop
  split <;> rfl

theorem settings_writeData (board : Board) (byte : UInt8) :
    (board.writeData byte).settings = board.settings := by
  unfold writeData sendAddress
  split
  case h_1 => dsimp only; split <;> rfl
  all_goals rfl

/-- A call changes the settings as `Settings.after` says, whatever the board answers. -/
theorem settings_perform (board : Board) (call : Call) :
    (board.perform call).settings = board.settings.after call := by
  cases call with
  | requestStart => exact board.settings_requestStart
  | stopPending => exact board.settings_pollStop
  | writeData byte => exact board.settings_writeData byte
  | setLineMode line => cases line <;> rfl
  | release line => cases line <;> rfl
  | pullLow line => cases line <;> rfl
  | sample line => cases line <;> rfl
  | _ => rfl

/-- Only the transfer channel's own calls start or stop it. -/
theorem transferActive_perform (board : Board) (call : Call) :
    (board.perform call).transferActive = match call with
      | .startTransfer _ => true
      | .stopTransfer => false
      | _ => board.transferActive := by
  have settings : (board.perform call).transferActive = (board.settings.after call).transferActive :=
    congrArg Settings.transferActive (board.settings_perform call)
  rw [settings]
  cases call with
  | setLineMode line => cases line <;> rfl
  | release line => cases line <;> rfl
  | pullLow line => cases line <;> rfl
  | _ => rfl

end Board

/-- The calls alone decide the settings. -/
theorem Exchange.settings_eq {before after : Board} {calls : List Call}
    (h : Exchange before calls after) : after.settings = before.settings.afterAll calls := by
  induction h with
  | nil => rfl
  | cons _ _ ih => rw [ih, Board.settings_perform, Settings.afterAll_cons]

end StatusDisplay
