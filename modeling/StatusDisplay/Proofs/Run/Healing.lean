import StatusDisplay.Proofs.Engine.Readied
import StatusDisplay.Proofs.Engine.Scene
import StatusDisplay.Proofs.Engine.Transfers
import StatusDisplay.Proofs.Run.Addresses
import StatusDisplay.Proofs.Run.Standing
import StatusDisplay.Proofs.Sync.Character

/-!
# A bus error heals what is whole again

However badly a driver was treated, one bus error gets it going once its display answers and the bus
moves: what is left of the old faults is gone with the reset of the bus master, so the handshake
finds the scene of a bus that nothing ever happened to. What is wrong with the lines plays no part,
since a known display is not looked for.
-/

namespace StatusDisplay.Engine

variable {engine after : Engine} {controller : Controller}

/-- A bus error leaves a scene between transactions, whatever it finds. -/
theorem scene_readied (engine : Engine) (controller : Controller) :
    (engine.readied controller).board.scene =
      Bus.resting engine.board.world.offLines engine.board.wire.addressBytes
        engine.board.scene.starts := by
  have attached : (engine.readied controller).board.scene = engine.aborted.board.scene :=
    (engine.aborted.wake.attach.scene_adopt controller).trans
      (engine.aborted.wake.scene_attach.trans engine.aborted.scene_wake)
  rw [attached]
  rfl

/-- A display that answers on a bus that moves is started again. -/
theorem heals (known : engine.mode.controller? = some controller)
    (quiet : engine.board.world.statusWords = []) (free : engine.board.world.stuck = false)
    (moving : engine.board.world.holdBytes = false)
    (answers : engine.board.world.devices.contains (addressOf (controller.address <<< 1)) = true) :
    ∃ after, engine.onBusError = .ok after ∧ after.activity = .inFlight ∧
      after.bus.alive = true := by
  cases controller with
  | character address =>
    have on : (engine.readied (.character address)).bus.On _ :=
      ⟨engine.alive_readied _, engine.scene_readied (.character address)⟩
    have world : engine.board.world.offLines.statusWords = [] := quiet
    obtain ⟨_, bus, answered, left⟩ := Bus.succeeds_handshake world free moving answers _ on
    exact ⟨_, onBusError_of_answered known answered, rfl, left.alive⟩
  | bitmap address => exact ⟨_, onBusError_of_panel known, rfl, rfl⟩

end StatusDisplay.Engine

namespace StatusDisplay

/--
**A bus error heals what is whole again.** Take a driver in any state that it can get into, after any
faults and failed recoveries, that knows its display. If the display now answers at its address, the
bus is neither stuck nor holds its bytes, and no status words are laid down, then one bus error gets
the refresh going, whatever flags are set and whatever is wrong with the lines: the bus is alive, the
watchdog runs for its full time, and the one transfer that was started sends the first payload of the
display with the backlight of this moment.
-/
theorem bus_error_heals {engine : Engine} {controller : Controller} (reachable : Reachable engine)
    (known : engine.mode.controller? = some controller)
    (answers : controller.address ∈ engine.board.world.devices)
    (free : engine.board.world.stuck = false) (moving : engine.board.world.holdBytes = false)
    (quiet : engine.board.world.statusWords = []) :
    ∃ after calls, engine.onBusError = .ok after ∧ Exchange engine.board calls after.board ∧
      calls.filterMap Call.transfer? = [(engine.firstPayload controller).bytes] ∧
      after.payload = engine.firstPayload controller ∧ after.activity = .inFlight ∧
      after.bus.alive = true ∧ after.mode = .ofController controller ∧
      after.watchdog.armed = true ∧ after.board.alarm = some engine.config.watchdogTimeout := by
  have device : engine.board.world.devices.contains (addressOf (controller.address <<< 1)) = true := by
    rw [reachable.addressOf_known known]
    exact List.contains_iff_mem.2 answers
  obtain ⟨healed, handled, inFlight, alive⟩ := Engine.heals known quiet free moving device
  obtain ⟨after, handled', recovered⟩ := engine.exists_onBusError
  obtain rfl : after = healed := Except.ok.inj (handled'.symm.trans handled)
  have restarted := recovered.restarted known
  have payload := restarted.payload inFlight
  obtain stopped | sent := recovered.stopped_or_sent known
  · exact absurd inFlight stopped.activity
  obtain ⟨calls, exchange, transfers⟩ := sent.transfers
  rw [payload] at transfers
  have step : Reachable after :=
    reachable.of_run (.snoc ⟨engine, .interrupt .busError, _, handled'⟩ (.nil engine))
  have known' : after.mode.controller? = some controller := by
    rw [restarted.mode, Mode.controller?_ofController]
  have live := step.live known'
  refine ⟨after, calls, handled', exchange, transfers, payload, inFlight, alive, restarted.mode,
    live.armed, ?_⟩
  rw [live.alarm, restarted.config]

/-- A driver whose bus died in a recovery, with a peer that now holds the data line. -/
def stricken : Engine :=
  greeted.nextAll [.world { devices := [0x27], stuck := true } .arbitrationLost,
    .interrupt .busError, .world { devices := [0x27], sdaHeld := true, sdaShorted := true } .alert]

/-- Its bus is dead, and comes back to life. -/
theorem bus_error_heals_stricken : stricken.bus.alive = false ∧ ∃ after,
    stricken.onBusError = .ok after ∧ after.bus.alive = true ∧ after.activity = .inFlight := by
  have reachable : Reachable stricken := reachable_greeted.of_run (run_steps _ _)
  have known : stricken.mode.controller? = some (.character 0x27) := by decide +kernel
  obtain ⟨after, _, handled, _, _, _, inFlight, alive, _⟩ :=
    bus_error_heals reachable known (by decide +kernel) (by decide +kernel) (by decide +kernel)
      (by decide +kernel)
  exact ⟨by decide +kernel, after, handled, alive, inFlight⟩

end StatusDisplay
