import StatusDisplay.Proofs.Bus.Present
import StatusDisplay.Proofs.Engine.Readied

/-!
# A bus error forgets the past

Two live engines with the same task, at boards in the same world, make the same calls at a bus error
once each has removed its own error flags, and they end in the same way. What a live engine has left
behind is gone with the reset of the bus master, so its board is told by the world alone
(`Live.present_aborted`). One thing is kept: the payload, until a new one is filled.
-/

namespace StatusDisplay.Engine

variable {first second first' second' : Engine} {controller : Controller} {address : UInt8}

/-- The engines were set up alike and refresh the same display with the same backlight. -/
structure SameTask (controller : Controller) (first second : Engine) : Prop where
  config : first.config = second.config
  watchdog : first.watchdog.timeout = second.watchdog.timeout
  patience : first.bus.timeout = second.bus.timeout
  backlight : first.display.backlight = second.display.backlight
  known : first.mode.controller? = some controller
  known' : second.mode.controller? = some controller

/--
What the new payload of an engine is: the same in both if a transfer was started, and its own old one
if none was.
-/
def SamePayload (first second first' second' : Engine) : Prop :=
  first'.activity = .inFlight ∧ first'.payload = second'.payload ∨
    first'.activity = .failed ∧ first'.payload = first.payload ∧ second'.payload = second.payload

/-- The second pair of engines cannot be told apart, but for the payload of a failure. -/
structure SameOutcome (first second first' second' : Engine) : Prop where
  activity : first'.activity = second'.activity
  mode : first'.mode = second'.mode
  watchdog : first'.watchdog = second'.watchdog
  alive : first'.bus.alive = second'.bus.alive
  /-- Flags and phase of the bus master, transfer channel, lines, alarm and world are the same. -/
  board : first'.board.Alike second'.board
  settings : first'.board.settings = second'.board.settings
  payload : SamePayload first second first' second'

namespace SameTask

variable (task : SameTask controller first second)
include task

/-- The engines make the same calls until the display is in use again. -/
theorem together_readied (aborted : first.aborted.board.Alike second.aborted.board) :
    first.aborted.board.Together second.aborted.board (first.readied controller).board
      (second.readied controller).board := by
  have woken := together_wake aborted.wired
  have attached : first.aborted.wake.board.Together second.aborted.wake.board
      first.aborted.wake.attach.board second.aborted.wake.attach.board :=
    ⟨_, exchange_attach _, exchange_attach _⟩
  have adopting := exchange_adopt second.aborted.wake.attach controller
  have priority : second.aborted.wake.attach.config = first.aborted.wake.attach.config :=
    task.config.symm
  have timeout : second.aborted.wake.attach.watchdog.timeout =
      first.aborted.wake.attach.watchdog.timeout := task.watchdog.symm
  rw [priority, timeout] at adopting
  exact (woken.trans attached).trans ⟨_, exchange_adopt _ controller, adopting⟩

theorem alike_readied (aborted : first.aborted.board.Alike second.aborted.board) :
    (first.readied controller).bus.Alike (second.readied controller).bus where
  board := (task.together_readied aborted).alike aborted
  timeout := task.patience
  alive := rfl

theorem config_readied :
    (first.readied controller).config = (second.readied controller).config := by
  rw [(frame_readied first controller).config, (frame_readied second controller).config]
  exact task.config

theorem watchdog_readied : (first.readied controller).watchdog.timeout =
    (second.readied controller).watchdog.timeout := by
  rw [(frame_readied first controller).timeout, (frame_readied second controller).timeout]
  exact task.watchdog

theorem backlight_readied : (first.readied controller).display.backlight =
    (second.readied controller).display.backlight := by
  rw [(frame_readied first controller).display, (frame_readied second controller).display]
  exact task.backlight

theorem settings_readied :
    (first.readied controller).board.settings = (second.readied controller).board.settings := by
  rw [Engine.settings_readied, Engine.settings_readied, task.config, task.watchdog]

end SameTask

/-- What a bus error makes of an engine with a known display, apart from its bus and payload. -/
structure EndsAs (engine : Engine) (controller : Controller) (activity : Activity)
    (after : Engine) : Prop where
  activity : after.activity = activity
  mode : after.mode = .ofController controller
  armed : after.watchdog.armed = true
  timeout : after.watchdog.timeout = engine.watchdog.timeout

theorem endsAs_launch {engine : Engine} {bus : Bus} (payload : Payload) :
    engine.EndsAs controller .inFlight (((engine.readied controller).setBus bus).launch payload) where
  activity := rfl
  mode := (frame_launch _ payload).mode
  armed := rfl
  timeout := (frame_launch _ payload).timeout.trans (frame_readied engine controller).timeout

theorem endsAs_giveUp {engine : Engine} {bus : Bus} (error : BringUpError) :
    engine.EndsAs controller .failed
      (((engine.readied controller).setBus bus).giveUp false error) where
  activity := rfl
  mode := (frame_giveUp _ false error).mode
  armed := rfl
  timeout := (frame_giveUp _ false error).timeout.trans (frame_readied engine controller).timeout

theorem endsAs_launchPanel {engine : Engine} :
    engine.EndsAs (.bitmap address) .inFlight (engine.readied (.bitmap address)).launchPanel where
  activity := rfl
  mode := mode_launchPanel _ address
  armed := rfl
  timeout := (sameSetup_launchPanel _).timeout.trans (frame_readied engine _).timeout

theorem EndsAs.watchdog_eq {activity : Activity} (h : first.EndsAs controller activity first')
    (h' : second.EndsAs controller activity second')
    (same : first.watchdog.timeout = second.watchdog.timeout) :
    first'.watchdog = second'.watchdog := by
  have armed := h.armed.trans h'.armed.symm
  have timeout := (h.timeout.trans same).trans h'.timeout.symm
  exact Engine.watchdog_eq timeout armed

/-- Bus errors that end with the same calls and the same kind of engine have the same outcome. -/
theorem SameTask.sameOutcome {activity : Activity} (task : SameTask controller first second)
    (aborted : first.aborted.board.Alike second.aborted.board)
    (started : (first.readied controller).board.Together (second.readied controller).board
      first'.board second'.board)
    (ends : first.EndsAs controller activity first')
    (ends' : second.EndsAs controller activity second')
    (alive : first'.bus.alive = second'.bus.alive)
    (payload : SamePayload first second first' second') :
    first.aborted.board.Together second.aborted.board first'.board second'.board ∧
      SameOutcome first second first' second' := by
  have together := (task.together_readied aborted).trans started
  exact ⟨together, {
    activity := ends.activity.trans ends'.activity.symm
    mode := ends.mode.trans ends'.mode.symm
    watchdog := ends.watchdog_eq ends' task.watchdog
    alive := alive
    board := together.alike aborted
    settings := started.settings task.settings_readied
    payload := payload }⟩

/-! ## The start of the refresh -/

theorem together_launch (first second : Engine)
    (watchdog : first.watchdog.timeout = second.watchdog.timeout) (payload : Payload) :
    first.board.Together second.board (first.launch payload).board
      (second.launch payload).board := by
  have launched := second.exchange_launch payload
  rw [← watchdog] at launched
  exact ⟨_, first.exchange_launch payload, launched⟩

theorem together_launchPanel (first second : Engine) (config : first.config = second.config)
    (watchdog : first.watchdog.timeout = second.watchdog.timeout)
    (backlight : first.display.backlight = second.display.backlight) :
    first.board.Together second.board first.launchPanel.board second.launchPanel.board := by
  have launched := second.exchange_launchPanel
  rw [← config, ← watchdog, ← backlight] at launched
  exact ⟨_, first.exchange_launchPanel, launched⟩

namespace SameTask

/-- A character display that answers one of the engines answers both. -/
theorem answered (task : SameTask (.character address) first second)
    (aborted : first.aborted.board.Alike second.aborted.board) {bus bus' : Bus}
    (answer : Bus.handshake address (first.readied (.character address)).bus = .ok () bus)
    (answer' : Bus.handshake address (second.readied (.character address)).bus = .ok () bus')
    (before : (first.readied (.character address)).board.Together
      (second.readied (.character address)).board bus.board bus'.board)
    (alive : bus.alive = bus'.alive) : ∃ first' second',
    first.onBusError = .ok first' ∧ second.onBusError = .ok second' ∧
      first.aborted.board.Together second.aborted.board first'.board second'.board ∧
      SameOutcome first second first' second' := by
  let answering := (first.readied (.character address)).setBus bus
  let answering' := (second.readied (.character address)).setBus bus'
  let payload := Lcd.setupPayload first.display.backlight
  have handled := onBusError_of_answered task.known answer
  have handled' := onBusError_of_answered task.known' answer'
  rw [← task.backlight] at handled'
  have filled := (frame_launch answering payload).payload
  have filled' := (frame_launch answering' payload).payload
  exact ⟨answering.launch payload, answering'.launch payload, handled, handled',
    task.sameOutcome aborted
      (before.trans (together_launch answering answering' task.watchdog_readied payload))
      (endsAs_launch payload) (endsAs_launch payload) alive
      (.inl ⟨rfl, filled.trans filled'.symm⟩)⟩

/-- A character display that is silent to one of the engines is silent to both. -/
theorem silent (task : SameTask (.character address) first second)
    (aborted : first.aborted.board.Alike second.aborted.board) {error : BusError} {bus bus' : Bus}
    (answer : Bus.handshake address (first.readied (.character address)).bus = .error error bus)
    (answer' : Bus.handshake address (second.readied (.character address)).bus = .error error bus')
    (before : (first.readied (.character address)).board.Together
      (second.readied (.character address)).board bus.board bus'.board)
    (alive : bus.alive = bus'.alive) : ∃ first' second',
    first.onBusError = .ok first' ∧ second.onBusError = .ok second' ∧
      first.aborted.board.Together second.aborted.board first'.board second'.board ∧
      SameOutcome first second first' second' := by
  let stopped := (first.readied (.character address)).setBus bus
  let stopped' := (second.readied (.character address)).setBus bus'
  have handled := onBusError_of_silent task.known answer
  have handled' := onBusError_of_silent task.known' answer'
  have kept : (stopped.giveUp false (.bus error)).payload = first.payload := by
    rw [(frame_giveUp stopped false (.bus error)).payload]
    exact (frame_readied first (.character address)).payload
  have kept' : (stopped'.giveUp false (.bus error)).payload = second.payload := by
    rw [(frame_giveUp stopped' false (.bus error)).payload]
    exact (frame_readied second (.character address)).payload
  have rearmed := together_giveUp stopped stopped' task.watchdog_readied false (.bus error)
  exact ⟨stopped.giveUp false (.bus error), stopped'.giveUp false (.bus error), handled, handled',
    task.sameOutcome aborted (before.trans rearmed) (endsAs_giveUp _) (endsAs_giveUp _) alive
      (.inr ⟨rfl, kept, kept'⟩)⟩

/-- A panel is started without a look at the bus. -/
theorem bitmap (task : SameTask (.bitmap address) first second)
    (aborted : first.aborted.board.Alike second.aborted.board) : ∃ first' second',
    first.onBusError = .ok first' ∧ second.onBusError = .ok second' ∧
      first.aborted.board.Together second.aborted.board first'.board second'.board ∧
      SameOutcome first second first' second' := by
  let ready := first.readied (.bitmap address)
  let ready' := second.readied (.bitmap address)
  have launched := together_launchPanel ready ready' task.config_readied task.watchdog_readied
    task.backlight_readied
  have payload : ready.launchPanel.payload =
      Oled.setupPayload first.config.panel first.display.backlight := rfl
  have payload' : ready'.launchPanel.payload =
      Oled.setupPayload second.config.panel second.display.backlight := rfl
  rw [← task.config, ← task.backlight] at payload'
  have alive : ready.launchPanel.bus.alive = true := rfl
  have alive' : ready'.launchPanel.bus.alive = true := rfl
  exact ⟨ready.launchPanel, ready'.launchPanel, onBusError_of_panel task.known,
    onBusError_of_panel task.known',
    task.sameOutcome aborted launched endsAs_launchPanel endsAs_launchPanel
      (alive.trans alive'.symm) (.inl ⟨rfl, payload.trans payload'.symm⟩)⟩

/-- **Two engines with the same task do the same at a bus error, and end in the same way.** -/
theorem recovers (task : SameTask controller first second)
    (aborted : first.aborted.board.Alike second.aborted.board) : ∃ first' second',
    first.onBusError = .ok first' ∧ second.onBusError = .ok second' ∧
      first.aborted.board.Together second.aborted.board first'.board second'.board ∧
      SameOutcome first second first' second' := by
  cases controller with
  | bitmap => exact task.bitmap aborted
  | character address =>
    have handshake := Bus.looksAhead_handshake address _ _ (task.alike_readied aborted)
    cases answer : Bus.handshake address (first.readied (.character address)).bus with
    | ok _ bus =>
      cases answer' : Bus.handshake address (second.readied (.character address)).bus with
      | ok _ bus' =>
        rw [answer, answer'] at handshake
        cases handshake with
        | ok before alike => exact task.answered aborted answer answer' before alike.alive
      | error =>
        rw [answer, answer'] at handshake
        cases handshake
    | error error bus =>
      cases answer' : Bus.handshake address (second.readied (.character address)).bus with
      | ok =>
        rw [answer, answer'] at handshake
        cases handshake
      | error error' bus' =>
        rw [answer, answer'] at handshake
        cases handshake with
        | error before alike => exact task.silent aborted answer answer' before alike.alive

end SameTask

end StatusDisplay.Engine
