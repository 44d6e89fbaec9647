import StatusDisplay.Proofs.Bus.Opening
import StatusDisplay.Proofs.Engine.FirstBoot
import StatusDisplay.Proofs.Run.Addresses
import StatusDisplay.Proofs.Run.Cargo

/-!
# The cadence of a driver without faults

Left alone by faults, a driver that was brought up goes round for ever. A round is two bus events or
more and then the end of a transfer, and the foreground may write in between. A character display
gets a frame each round; a bitmap panel gets its upper row, its lower row and a new opening in turn.
`Steady` is what holds after any number of rounds: the transfer that is running, the place of the
cursor, the counter, and how far the bus events have opened the transaction. Every event of a round
keeps it (`Steady.step`).
-/

namespace StatusDisplay

/-! ## Rounds -/

/-- What the events so far come to: complete rounds, and the bus events since the last of them. -/
structure Tally where
  rounds : Nat := 0
  told : Nat := 0
  deriving DecidableEq, Repr

namespace Tally

/--
The tally after an event. A round ends with the end of a transfer, which has to come behind at least
two bus events; the foreground may do as it likes; nothing else happens in a round.
-/
def next? (tally : Tally) : Event → Option Tally
  | .interrupt .busEvent => some { tally with told := tally.told + 1 }
  | .interrupt .transferDone => if 2 ≤ tally.told then some ⟨tally.rounds + 1, 0⟩ else none
  | .write .. | .clear | .setBacklight _ => some tally
  | .bringUp | .interrupt .busError | .world .. => none

/-- The tally after all of these events. -/
def after? (tally : Tally) (events : List Event) : Option Tally := events.foldlM next? tally

variable {tally last : Tally} {events : List Event} {event : Event}

theorem after?_concat : tally.after? (events ++ [event]) = some last ↔
    ∃ middle, tally.after? events = some middle ∧ middle.next? event = some last := by
  rw [after?, List.foldlM_append]
  simp only [List.foldlM_cons, List.foldlM_nil, bind_pure]
  exact Option.bind_eq_some_iff

/-- A round is complete only behind two bus events. -/
theorem next?_transferDone : tally.next? (.interrupt .transferDone) = some last ↔
    2 ≤ tally.told ∧ ⟨tally.rounds + 1, 0⟩ = last := by
  rw [next?]
  split
  case isTrue enough => simp [enough]
  case isFalse few => simp [few]

end Tally

/-- The frames that are counted in so many rounds. -/
def Controller.frames : Controller → Nat → Nat
  | .character _, rounds => rounds
  | .bitmap _, rounds => rounds / 3

/-- What the end of a round starts, by the number of the round. -/
def Cargo.ofRound : Controller → Nat → Cargo
  | .character _, _ => .frame
  | .bitmap _, round =>
    if round % 3 = 1 then .row ⟨0, Nat.zero_lt_two⟩
    else if round % 3 = 2 then .row ⟨1, Nat.one_lt_two⟩
    else .opening

/-- The mode of a driver after so many rounds. -/
inductive Mode.Stands : Controller → Nat → Mode → Prop where
  | character {address : UInt8} {rounds : Nat} :
      Stands (.character address) rounds (.character address)
  | bitmap {address : UInt8} {rounds : Nat} {cursor : Oled.Cursor} :
      cursor.value = rounds % 3 → Stands (.bitmap address) rounds (.bitmap address cursor)

/-- How far the transaction is open before any bus event; one that was just requested is not. -/
def Mode.headStart : Mode → Nat
  | .bitmap _ .firstRow => 0
  | _ => 2

theorem Mode.Stands.controller? {controller : Controller} {rounds : Nat} {mode : Mode}
    (h : mode.Stands controller rounds) : mode.controller? = some controller := by
  cases h <;> rfl

/-- The row that the cursor names is the one for the next round. -/
theorem Cargo.ofRound_of_row {cursor : Oled.Cursor} {row : Fin Text.rowCount} {rounds : Nat}
    (address : UInt8) (next : cursor.row? = some row) (place : cursor.value = rounds % 3) :
    ofRound (.bitmap address) (rounds + 1) = .row row ∧
      cursor.advance.value = (rounds + 1) % 3 ∧ (rounds + 1) / 3 = rounds / 3 := by
  cases cursor with
  | firstRow =>
    have first : (rounds + 1) % 3 = 1 := by simp only [Oled.Cursor.value] at place; omega
    cases next
    rw [ofRound, first]
    exact ⟨rfl, rfl, by omega⟩
  | secondRow =>
    have second : (rounds + 1) % 3 = 2 := by simp only [Oled.Cursor.value] at place; omega
    cases next
    rw [ofRound, second]
    exact ⟨rfl, rfl, by omega⟩
  | reopen => cases next

/-- Behind both rows comes an opening, and a frame is counted. -/
theorem Cargo.ofRound_of_reopen {rounds : Nat} (address : UInt8)
    (place : Oled.Cursor.reopen.value = rounds % 3) :
    ofRound (.bitmap address) (rounds + 1) = .opening ∧
      (rounds + 1) % 3 = 0 ∧ (rounds + 1) / 3 = rounds / 3 + 1 := by
  have third : (rounds + 1) % 3 = 0 := by simp only [Oled.Cursor.value] at place; omega
  rw [ofRound, third]
  exact ⟨rfl, rfl, by omega⟩

/-- The counter wraps. -/
theorem toNat_count_succ {count : UInt8} {base frames : Nat}
    (h : count.toNat = (base + frames) % 256) :
    (count + 1).toNat = (base + (frames + 1)) % 256 := by
  rw [UInt8.toNat_add, h]
  show ((base + frames) % 256 + 1) % 256 = _
  omega

/-- A world in which nothing goes wrong on the bus, with a device at the controller's address. -/
structure World.Serves (world : World) (controller : Controller) : Prop where
  quiet : world.statusWords = []
  free : world.stuck = false
  moving : world.holdBytes = false
  ready : world.stopBusy = 0
  device : world.devices.contains (addressOf (controller.address <<< 1)) = true

namespace Engine

variable {engine after : Engine} {controller : Controller} {world : World} {base : Nat}
  {tally : Tally} {scene : Scene}

/-! ## What holds between rounds -/

/-- A driver without faults, on a display whose counter began at `base`. -/
structure Steady (controller : Controller) (world : World) (base : Nat) (tally : Tally)
    (engine : Engine) : Prop where
  activity : engine.activity = .inFlight
  recoveries : engine.statistics.recoveries = 0
  refreshCount : engine.display.refreshCount.toNat =
    (base + controller.frames tally.rounds) % 256
  mode : engine.mode.Stands controller tally.rounds
  /-- The transaction is open, or bus events have got it this far. -/
  opening : ∃ scene, engine.bus.On scene ∧
    Bus.Opening world (tally.told + engine.mode.headStart) scene

/-- Calls that leave the scene alone leave a live bus where it is. -/
theorem on_of_exchange {calls : List Call} (on : engine.bus.On scene)
    (exchange : Exchange engine.board calls after.board)
    (keeps : calls.all Call.keepsScene = true) (alive : after.bus.alive = engine.bus.alive) :
    after.bus.On scene :=
  ⟨alive.trans on.alive, (Board.Makes.of_exchange exchange keeps).scene.trans on.scene⟩

/-- The foreground has only the display in its hands, and leaves the counter alone. -/
theorem Steady.foreground (h : Steady controller world base tally engine) {display : Display}
    (same : display.refreshCount = engine.display.refreshCount) :
    Steady controller world base tally { engine with display } where
  activity := h.activity
  recoveries := h.recoveries
  refreshCount := (congrArg UInt8.toNat same).trans h.refreshCount
  mode := h.mode
  opening := h.opening

/-- A bus event brings the opening of the transaction one step on. -/
theorem Steady.busEvent (h : Steady controller world base tally engine)
    (serves : world.Serves controller) :
    Steady controller world base { tally with told := tally.told + 1 } engine.onBusEvent := by
  have frame := Frame.onBusEvent engine
  obtain ⟨scene, on, opening⟩ := h.opening
  obtain ⟨scene', on', opened⟩ :=
    opening.next serves.quiet serves.free serves.moving on serves.device
  have handled : engine.onBusEvent.bus = engine.bus.onEvent controller.address := by
    rw [onBusEvent, h.mode.controller?]
    rfl
  refine ⟨frame.activity.trans h.activity, ?_, ?_, ?_, scene', ?_, ?_⟩
  · rw [frame.statistics, h.recoveries]
  · rw [frame.display, h.refreshCount]
  · rw [frame.mode]
    exact h.mode
  · rw [handled]
    exact on'
  · rw [frame.mode, Nat.add_right_comm]
    exact opened

/-- At the end of a round the transaction is open. -/
theorem Steady.talking (h : Steady controller world base tally engine)
    (enough : 2 ≤ tally.told) :
    ∃ bytes starts, engine.acknowledged.bus.On (Bus.talking world bytes starts) := by
  obtain ⟨scene, on, opening⟩ := h.opening
  obtain ⟨bytes, starts, rfl⟩ := opening.talking (Nat.le_add_right_of_le enough)
  exact ⟨bytes, starts, on_of_exchange on engine.exchange_acknowledged rfl rfl⟩

section Rounds

variable {address : UInt8} {bytes : List UInt8} {starts : Nat}

/-- A round on a character display counts a frame and starts the next. -/
theorem Steady.nextFrame (h : Steady (.character address) world base tally engine)
    (mode : engine.mode = .character address)
    (talking : engine.acknowledged.bus.On (Bus.talking world bytes starts)) :
    Steady (.character address) world base ⟨tally.rounds + 1, 0⟩
      (engine.acknowledged.countFrame.setPayload engine.currentFrame).startTransfer := by
  have on := on_of_exchange talking (exchange_startTransfer
    (engine.acknowledged.countFrame.setPayload engine.currentFrame)) rfl rfl
  refine ⟨rfl, h.recoveries, toNat_count_succ h.refreshCount, ?_, _, on, ?_⟩
  · show engine.mode.Stands _ _
    rw [mode]
    exact .character
  · show Bus.Opening world (0 + engine.mode.headStart) _
    rw [mode]
    exact .opened 0 bytes starts

/-- A round on a panel that has rows to send starts the next of them. -/
theorem Steady.nextRow {cursor : Oled.Cursor} {row : Fin Text.rowCount}
    (h : Steady (.bitmap address) world base tally engine)
    (mode : engine.mode = .bitmap address cursor) (next : cursor.row? = some row)
    (place : cursor.value = tally.rounds % 3)
    (talking : engine.acknowledged.bus.On (Bus.talking world bytes starts)) :
    Steady (.bitmap address) world base ⟨tally.rounds + 1, 0⟩
      ((engine.acknowledged.setPayload (engine.currentRow row)).setCursor
        cursor.advance).startTransfer := by
  obtain ⟨_, moved, uncounted⟩ := Cargo.ofRound_of_row address next place
  have on := on_of_exchange talking (exchange_startTransfer
    ((engine.acknowledged.setPayload (engine.currentRow row)).setCursor cursor.advance)) rfl rfl
  have passed : engine.mode.withCursor cursor.advance = .bitmap address cursor.advance :=
    congrArg (Mode.withCursor · cursor.advance) mode
  have ahead : (Mode.bitmap address cursor.advance).headStart = 2 := by cases cursor <;> rfl
  refine ⟨rfl, h.recoveries, ?_, ?_, _, on, ?_⟩
  · show engine.display.refreshCount.toNat = (base + (tally.rounds + 1) / 3) % 256
    rw [uncounted]
    exact h.refreshCount
  · show (engine.mode.withCursor cursor.advance).Stands _ _
    rw [passed]
    exact .bitmap moved
  · show Bus.Opening world (0 + (engine.mode.withCursor cursor.advance).headStart) _
    rw [passed, ahead]
    exact .opened 0 bytes starts

/-- Behind both rows a round counts a frame and opens the next transaction. -/
theorem Steady.reopened {bus : Bus} (h : Steady (.bitmap address) world base tally engine)
    (free : world.stuck = false) (mode : engine.mode = .bitmap address .reopen)
    (place : Oled.Cursor.reopen.value = tally.rounds % 3)
    (rested : bus.On (Bus.resting world bytes starts)) :
    Steady (.bitmap address) world base ⟨tally.rounds + 1, 0⟩
      (engine.acknowledged.countFrame.reopen bus).startTransfer := by
  obtain ⟨_, moved, counted⟩ := Cargo.ofRound_of_reopen address place
  obtain ⟨scene, requested, opening⟩ := rested.openAsync free
  have on := on_of_exchange requested (exchange_startTransfer
    (engine.acknowledged.countFrame.reopen bus)) rfl rfl
  have back : engine.mode.withCursor .firstRow = .bitmap address .firstRow :=
    congrArg (Mode.withCursor · .firstRow) mode
  refine ⟨rfl, h.recoveries, ?_, ?_, scene, on, ?_⟩
  · show (engine.display.refreshCount + 1).toNat = (base + (tally.rounds + 1) / 3) % 256
    rw [counted]
    exact toNat_count_succ h.refreshCount
  · show (engine.mode.withCursor .firstRow).Stands _ _
    rw [back]
    exact .bitmap moved.symm
  · show Bus.Opening world (0 + (engine.mode.withCursor .firstRow).headStart) _
    rw [back]
    exact opening

end Rounds

/-- The end of a round starts what its number says, and the next round begins. -/
theorem Steady.transferDone (h : Steady controller world base tally engine)
    (serves : world.Serves controller) (enough : 2 ≤ tally.told)
    (done : engine.TransferDone after) :
    Steady controller world base ⟨tally.rounds + 1, 0⟩ after ∧
      after.payload.bytes = (engine.stream (.ofRound controller (tally.rounds + 1))).flatten := by
  obtain ⟨bytes, starts, talking⟩ := h.talking enough
  obtain ⟨_, next, closed, rested⟩ :=
    Bus.succeeds_close serves.quiet serves.free serves.moving serves.ready _ talking
  have stands := h.mode
  cases done with
  | unknown mode => rw [mode] at stands; cases stands
  | frame mode =>
    rw [mode] at stands
    cases stands
    exact ⟨h.nextFrame mode talking, rfl⟩
  | @row address _ _ mode next =>
    rw [mode] at stands
    cases stands with
    | bitmap place =>
      rw [(Cargo.ofRound_of_row address next place).1]
      exact ⟨h.nextRow mode next place talking, rfl⟩
  | @reopened address bus mode closed' =>
    obtain rfl : next = bus := by
      rw [closed'] at closed
      cases closed
      rfl
    rw [mode] at stands
    cases stands with
    | bitmap place =>
      rw [(Cargo.ofRound_of_reopen address place).1]
      exact ⟨h.reopened serves.free mode place rested, rfl⟩
  | notClosed _ failed =>
    rw [closed] at failed
    cases failed

/-- An event of a round keeps the cadence. -/
theorem Steady.step {event : Event} {next : Tally}
    (h : Steady controller world base tally engine) (serves : world.Serves controller)
    (stepped : engine.Stepped event after) (told : tally.next? event = some next) :
    Steady controller world base next after := by
  cases stepped with
  | broughtUp => cases told
  | busEvent =>
    cases told
    exact h.busEvent serves
  | recovered => cases told
  | transferDone done =>
    obtain ⟨enough, rfl⟩ := Tally.next?_transferDone.1 told
    exact (h.transferDone serves enough done).1
  | world => cases told
  | foreground foreground same =>
    have kept : tally = next := by
      cases event <;> first | exact Option.some.inj told | cases foreground
    rw [← kept]
    exact h.foreground same

/-- Any number of rounds keeps the cadence. -/
theorem Steady.of_run {final : Engine} {steps : List Step} {last : Tally}
    (h : Steady controller world base tally engine) (serves : world.Serves controller)
    (run : Run engine steps final) (told : tally.after? (steps.map Step.event) = some last) :
    Steady controller world base last final := by
  induction run generalizing last with
  | nil =>
    cases told
    exact h
  | snoc step _ ih =>
    rw [List.map_append, List.map_singleton, Tally.after?_concat] at told
    obtain ⟨middle, earlier, told⟩ := told
    exact (ih earlier).step serves step.stepped told

/-- Only the end of a round starts a transfer, and it starts what the number of the round says. -/
theorem Steady.transfers {step : Step} {next : Tally}
    (h : Steady controller world base tally step.before) (serves : world.Serves controller)
    (told : tally.next? step.event = some next) :
    step.transfers =
      if step.event = .interrupt .transferDone then
        [(step.before.stream (.ofRound controller next.rounds)).flatten]
      else [] := by
  obtain ⟨before, event, after, taken⟩ := step
  by_cases ends : event = .interrupt .transferDone
  · subst ends
    obtain ⟨enough, rfl⟩ := Tally.next?_transferDone.1 told
    obtain ⟨after', taken', done⟩ := before.exists_onTransferDone
    obtain rfl : after' = after := Except.ok.inj (taken'.symm.trans taken)
    obtain ⟨steady, payload⟩ := h.transferDone serves enough done
    obtain stopped | sent := done.stopped_or_sent
    · exact absurd steady.activity stopped.activity
    · obtain ⟨calls, exchange, transfers⟩ := sent.transfers
      rw [if_pos rfl, Step.transfers, Step.calls_eq exchange, transfers, payload]
  · rw [if_neg ends]
    obtain none | ⟨cargo, ships, _⟩ := Step.delivers ⟨before, event, after, taken⟩
    · exact none
    · cases ships with
      | setup bringsUp => obtain rfl | rfl := bringsUp <;> cases told
      | panelSetup bringsUp => obtain rfl | rfl := bringsUp <;> cases told
      | frame => exact absurd rfl ends
      | row => exact absurd rfl ends
      | opening => exact absurd rfl ends

/-! ## The first bring-up -/

/-- The look for a display counts neither recoveries nor frames. -/
theorem Identified.counts {identified : Engine} (named : engine.Identified controller identified) :
    identified.statistics.recoveries = engine.statistics.recoveries ∧
      identified.display.refreshCount = engine.display.refreshCount := by
  obtain frame | ⟨_, frame⟩ := named.frame
  · exact ⟨congrArg Statistics.recoveries frame.statistics,
      congrArg Display.refreshCount frame.display⟩
  · have blanked : identified.display = engine.clearText.display := frame.display
    exact ⟨congrArg Statistics.recoveries frame.statistics, by rw [blanked]; rfl⟩

/-- A bring-up that succeeds has started a transfer, and counts neither recoveries nor frames. -/
theorem BroughtUp.launched {first : Bool} (h : engine.BroughtUp (.ok ⟨controller, first⟩) after) :
    after.mode = .ofController controller ∧ after.activity = .inFlight ∧
      after.statistics.recoveries = engine.statistics.recoveries ∧
        after.display.refreshCount = engine.display.refreshCount := by
  cases h with
  | @character address identified bus named =>
    obtain ⟨recoveries, refreshCount⟩ := named.counts
    have adopted := frame_adopt identified (.character address)
    exact ⟨rfl, rfl, (congrArg Statistics.recoveries adopted.statistics).trans recoveries,
      (congrArg Display.refreshCount adopted.display).trans refreshCount⟩
  | @bitmap address identified named =>
    obtain ⟨recoveries, refreshCount⟩ := named.counts
    have adopted := frame_adopt identified (.bitmap address)
    exact ⟨mode_launchPanel _ _, rfl,
      (congrArg Statistics.recoveries adopted.statistics).trans recoveries,
      (congrArg Display.refreshCount adopted.display).trans refreshCount⟩

/-- A display that was found on a fresh board is handed over between two transactions. -/
theorem Identified.on_of_fresh {identified : Engine}
    (named : engine.Identified controller identified) (unknown : engine.mode = .unknown)
    (fresh : engine.board.Fresh)
    (short : ∀ address ∈ engine.config.scanOrder, addressOf (address <<< 1) = address)
    (free : engine.board.world.stuck = false) (moving : engine.board.world.holdBytes = false)
    {address : UInt8} (found : engine.config.firstDevice? engine.board.world = some address) :
    ∃ bytes starts,
      identified.bus.On (Bus.resting engine.board.world.offLines bytes starts) := by
  cases named with
  | known mode => rw [unknown] at mode; cases mode
  | @found bus _ _ scan =>
    obtain ⟨next, bytes, starts, detected, on, _⟩ := detect_of_device fresh short free found moving
    have scan : Bus.detect engine.config engine.scanned = .ok controller bus := scan
    rw [detected] at scan
    cases scan
    exact ⟨bytes, starts, on.alive, on.scene⟩

/-- A panel that is started on a bus between two transactions has requested its opening. -/
theorem on_launchPanel {bytes : List UInt8} {starts : Nat}
    (on : engine.bus.On (Bus.resting world bytes starts)) (free : world.stuck = false) :
    ∃ scene, engine.launchPanel.bus.On scene ∧ Bus.Opening world 0 scene := by
  let fast := engine.modifyBoard fun board => (board.configure .fast).setErrorIrq true
  have configured : Exchange engine.board [.configure .fast, .setErrorIrq true] fast.board :=
    .commands _ _ rfl
  have on : fast.bus.On (Bus.resting world bytes starts) := on_of_exchange on configured rfl rfl
  obtain ⟨scene, requested, opening⟩ := on.openAsync free
  have opened : engine.openPanel.bus.On scene := requested
  have sent : Exchange engine.openPanel.board
      [.setTransferRequests true, .startTransfer engine.openPanel.payload.bytes,
        .armAlarm engine.openPanel.watchdog.timeout] engine.launchPanel.board := .commands _ _ rfl
  exact ⟨scene, on_of_exchange opened sent rfl rfl, opening⟩

/-- A bring-up leaves the transaction of a character display open, and that of a panel requested. -/
theorem BroughtUp.opening {first : Bool} (h : engine.BroughtUp (.ok ⟨controller, first⟩) after)
    (serves : world.Serves controller)
    (rested : ∀ identified, engine.Identified controller identified →
      ∃ bytes starts, identified.bus.On (Bus.resting world bytes starts)) :
    ∃ scene, after.bus.On scene ∧ Bus.Opening world after.mode.headStart scene := by
  cases h with
  | @character address identified bus named answer =>
    obtain ⟨bytes, starts, on⟩ := rested _ named
    have device : world.devices.contains (addressOf (address <<< 1)) = true := serves.device
    obtain ⟨_, _, answered, talking⟩ := Bus.succeeds_handshake serves.quiet serves.free
      serves.moving device _ (on_adopt on (.character address))
    rw [answer] at answered
    cases answered
    have launched := exchange_launch ((identified.adopt (.character address)).setBus bus)
      (Lcd.setupPayload (identified.adopt (.character address)).display.backlight)
    exact ⟨_, on_of_exchange talking launched rfl rfl, .opened 0 _ _⟩
  | @bitmap address identified named =>
    obtain ⟨bytes, starts, on⟩ := rested _ named
    obtain ⟨scene, requested, opening⟩ := on_launchPanel (on_adopt on (.bitmap address)) serves.free
    refine ⟨scene, requested, ?_⟩
    rw [mode_launchPanel]
    exact opening

/-- A first bring-up without faults is where the rounds begin. -/
theorem BroughtUp.steady {first : Bool}
    (h : engine.BroughtUp (.ok ⟨controller, first⟩) after) (unknown : engine.mode = .unknown)
    (fresh : engine.board.Fresh)
    (short : ∀ address ∈ engine.config.scanOrder, addressOf (address <<< 1) = address)
    (serves : engine.board.world.offLines.Serves controller)
    (found : engine.config.firstDevice? engine.board.world = some controller.address)
    (unrecovered : engine.statistics.recoveries = 0) :
    Steady controller engine.board.world.offLines engine.display.refreshCount.toNat {} after := by
  obtain ⟨mode, activity, recoveries, refreshCount⟩ := h.launched
  have bound := engine.display.refreshCount.toNat_lt
  refine ⟨activity, recoveries.trans unrecovered, ?_, ?_, ?_⟩
  · rw [refreshCount]
    cases controller <;> exact (Nat.mod_eq_of_lt bound).symm
  · rw [mode]
    cases controller with
    | character => exact .character
    | bitmap => exact .bitmap rfl
  · obtain ⟨scene, on, opening⟩ := h.opening serves fun _ named =>
      named.on_of_fresh unknown fresh short serves.free serves.moving found
    exact ⟨scene, on, by rwa [Nat.zero_add]⟩

/-- Nothing has happened yet to an engine, and the board under it has devices and no faults. -/
structure Untouched (engine : Engine) (devices : List UInt8) : Prop where
  valid : engine.config.validate = .ok ()
  unknown : engine.mode = .unknown
  unrecovered : engine.statistics.recoveries = 0
  board : engine.board = { world := { devices } }

theorem untouched_of_ofConfig {config : Config} {display : Display} {devices : List UInt8}
    (new : Engine.ofConfig config display { world := { devices } } = .ok engine) :
    engine.Untouched devices := by
  have valid := valid_of_ofConfig new
  obtain rfl := eq_of_ofConfig new
  exact ⟨valid, rfl, rfl, rfl⟩

namespace Untouched

variable {devices : List UInt8} {powerOn : PowerOn}

theorem fresh (h : engine.Untouched devices) : engine.board.Fresh := by
  rw [h.board]
  exact ⟨rfl, rfl, rfl, ⟨rfl, rfl⟩, rfl⟩

theorem short (h : engine.Untouched devices) :
    ∀ address ∈ engine.config.scanOrder, addressOf (address <<< 1) = address :=
  Config.short_of_valid h.valid

/-- The first bring-up comes to what the devices let it come to. -/
theorem bringUp (h : engine.Untouched devices) :
    ∃ started, engine.bringUp = .ok (World.firstBoot { devices } engine.config, started) := by
  obtain ⟨started, given, _⟩ := bringUp_of_fresh h.unknown h.fresh h.valid h.short
  rw [h.board] at given
  exact ⟨started, given⟩

/-- A first bring-up that succeeds is where the rounds begin. -/
theorem steady (h : engine.Untouched devices)
    (up : engine.bringUp = .ok (.ok powerOn, after)) :
    World.Serves { devices } powerOn.controller ∧
      Steady powerOn.controller { devices } engine.display.refreshCount.toNat {} after := by
  obtain ⟨_, given⟩ := h.bringUp
  rw [up] at given
  have boots : World.firstBoot { devices } engine.config = .ok powerOn :=
    (congrArg Prod.fst (Except.ok.inj given)).symm
  have found := World.firstDevice?_of_firstBoot boots
  have device := Config.contains_of_firstDevice? found h.short
  have serves : World.Serves { devices } powerOn.controller := ⟨rfl, rfl, rfl, rfl, device⟩
  obtain ⟨_, _, up', broughtUp⟩ := engine.exists_bringUp
  rw [up] at up'
  cases up'
  have world : engine.board.world = { devices } := congrArg Board.world h.board
  have offLines : engine.board.world.offLines = { devices } := congrArg World.offLines world
  rw [← world] at found
  rw [← offLines] at serves ⊢
  exact ⟨serves, broughtUp.steady h.unknown h.fresh h.short serves found h.unrecovered⟩

end Untouched

end Engine

end StatusDisplay
