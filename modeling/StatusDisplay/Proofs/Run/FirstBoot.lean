import StatusDisplay.Proofs.Engine.FirstBoot
import StatusDisplay.Proofs.Run.Addresses

/-!
# The first boot is a function of the world

A new engine on a board that nothing was done to before: what its first bring-up comes to, and what it
sends to the bus on the way, is told by the configuration and by what the world is like.
-/

namespace StatusDisplay

/-- The scene counts the requests for a start condition. -/
theorem Board.starts_scene (board : Board) :
    board.scene.starts = board.trace.count .requestStart := by
  have isStart : Call.isStart = (· == .requestStart) := by
    funext call
    cases call <;> rfl
  rw [List.count, List.countP_eq_length_filter, ← isStart]
  rfl

theorem Exchange.starts_eq {before after : Board} {calls : List Call}
    (exchange : Exchange before calls after) :
    after.scene.starts = calls.count .requestStart + before.scene.starts := by
  rw [Board.starts_scene, Board.starts_scene, exchange.trace_eq, List.count_append,
    List.count_reverse]

/-- Only an address that was found is tried again. -/
theorem World.mem_scanOrder_of_handshakes {world : World} {config : Config} {address : UInt8}
    (mem : address ∈ PowerOn.handshakes (world.firstBoot config)) :
    address ∈ config.scanOrder := by
  cases boots : world.firstBoot config with
  | error error =>
    rw [boots] at mem
    cases mem
  | ok powerOn =>
    obtain ⟨controller, firstBoot⟩ := powerOn
    rw [boots] at mem
    cases controller with
    | character found =>
      obtain rfl := List.mem_singleton.1 mem
      exact List.mem_of_find?_eq_some (World.firstDevice?_of_firstBoot boots)
    | bitmap => cases mem

namespace Engine

variable {engine after : Engine} {result : Except BringUpError PowerOn}

/-- A first bring-up that fails transfers nothing, and one that succeeds the first payload alone. -/
theorem LeftBy.transfers (left : engine.LeftBy after result)
    (given : engine.bringUp = .ok (result, after)) : ∃ calls,
    Exchange engine.board calls after.board ∧
      calls.filterMap Call.transfer? = engine.firstTransfers result := by
  have broughtUp := BroughtUp.of_bringUp given
  cases result with
  | error error =>
    obtain ⟨calls, exchange, silent⟩ := (broughtUp.silent_of_unknown left.2).makes
    exact ⟨calls, exchange, filterMap_transfer?_of_sendsNothing silent⟩
  | ok powerOn =>
    obtain stopped | sent := broughtUp.stopped_or_sent
    · exact absurd left.activity stopped.activity
    obtain ⟨calls, exchange, transfers⟩ := sent.transfers
    rw [left.payload] at transfers
    exact ⟨calls, exchange, transfers⟩

end Engine

/--
**The first boot is a function of the world.** Let a valid configuration make an engine on a board
that nothing was done to before. Its first bring-up comes to what `World.firstBoot` says: on lines
that are low for good it is refused, and the bus master is not put to work; on a stuck bus it times
out after a single start condition was requested; otherwise the first device of the scan decides. Then
the addresses that are tried are those up to the first device, and that of a character display which
is started once more. If a display is started, its setup is the only transfer, and its text is blank;
if not, nothing is transferred.
-/
theorem first_boot {config : Config} {display : Display} {board : Board} {engine : Engine}
    (new : Engine.ofConfig config display board = .ok engine) (fresh : board.Fresh) :
    ∃ after calls, engine.bringUp = .ok (board.world.firstBoot config, after) ∧
      Exchange board calls after.board ∧
      engine.LeftBy after (board.world.firstBoot config) ∧
      calls.filterMap Call.transfer? = engine.firstTransfers (board.world.firstBoot config) ∧
      (board.world.firstBoot config = .error .invalidBus ↔ board.world.linesLow = true) ∧
      (board.world.linesLow = true → ∀ call ∈ calls, call.engages = false) ∧
      (board.world.linesLow = false → board.world.stuck = true →
        calls.count .requestStart = 1) ∧
      (board.world.linesLow = false → board.world.stuck = false →
        after.board.wire.addressesTried = board.wire.addressesTried ++
          (config.probed board.world ++ PowerOn.handshakes (board.world.firstBoot config))) := by
  have valid := Engine.valid_of_ofConfig new
  have short := Config.short_of_valid valid
  have unknown : engine.mode = .unknown := by rw [Engine.eq_of_ofConfig new]
  have config_eq : engine.config = config := by rw [Engine.eq_of_ofConfig new]
  have board_eq : engine.board = board := by
    rw [Engine.eq_of_ofConfig new]
    rfl
  subst config_eq board_eq
  obtain ⟨after, given, left, idle, once, tried⟩ :=
    Engine.bringUp_of_fresh unknown fresh valid short
  obtain ⟨calls, exchange, transfers⟩ := left.transfers given
  refine ⟨after, calls, given, exchange, left, transfers, World.firstBoot_eq_invalidBus_iff,
    fun low call mem => ?_, fun pulled stuck => ?_, fun pulled free => ?_⟩
  · obtain ⟨calls', exchange', all⟩ := idle low
    obtain rfl := exchange.unique exchange'
    simpa using List.all_eq_true.1 all call mem
  · have starts := exchange.starts_eq
    have started := once pulled stuck
    omega
  · refine (tried pulled free).addressesTried fun address mem => short address ?_
    obtain probed | again := List.mem_append.1 mem
    · exact Config.mem_scanOrder_of_probed probed
    · exact World.mem_scanOrder_of_handshakes again

/-- A character display whose peer holds the data line is found all the same. -/
theorem first_boot_held : ∃ engine after,
    Engine.ofConfig {} {} { world := { devices := [0x27], sdaHeld := true } } = .ok engine ∧
      engine.bringUp = .ok (.ok ⟨.character 0x27, true⟩, after) ∧
      engine.Started (.character 0x27) after ∧
      after.board.wire.addressesTried = AddressRange.lcd.toList ++ [0x27] := by
  have fresh : Board.Fresh { world := { devices := [0x27], sdaHeld := true } } :=
    ⟨rfl, rfl, rfl, ⟨rfl, rfl⟩, rfl⟩
  have new : Engine.ofConfig {} {} { world := { devices := [0x27], sdaHeld := true } } = .ok _ := rfl
  have found : World.firstBoot { devices := [0x27], sdaHeld := true } {} =
      .ok ⟨.character 0x27, true⟩ := rfl
  obtain ⟨after, _, given, _, left, _, _, _, _, tried⟩ := first_boot new fresh
  have tried := tried rfl rfl
  rw [found] at given left tried
  refine ⟨_, after, rfl, given, left, ?_⟩
  rw [tried]
  rfl

end StatusDisplay
