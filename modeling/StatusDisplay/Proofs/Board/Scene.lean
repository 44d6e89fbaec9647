import StatusDisplay.Proofs.Board.Wiring

/-!
# The scene of a transaction

What happens in a transaction by hand depends on little: the flags and the phase of the bus master,
and how the world behaves apart from its lines. The scene of a board is just that, with a record of
what the transactions leave behind. Most calls leave it alone (`Makes.scene`), so whatever the driver
does between two transactions, the second one finds the scene of the first.
-/

namespace StatusDisplay

/-- The world without its lines. -/
def World.offLines (world : World) : World :=
  { world with
    sdaHeld := false
    sdaShorted := false
    sclShorted := false
    floating := false
    sclLevels := []
    sdaLevels := [] }

/-- Whether a call requests a start condition. -/
def Call.isStart : Call → Bool
  | .requestStart => true
  | _ => false

/-- What a transaction goes by, and what it leaves behind. -/
structure Scene where
  /-- The lines play no part in it. -/
  world : World
  flags : Status
  phase : Phase
  /-- The bytes sent right after a start condition, the latest first. -/
  addressBytes : List UInt8
  /-- How many start conditions were requested. -/
  starts : Nat

/-- The scene on a board. -/
def Board.scene (board : Board) : Scene where
  world := board.world.offLines
  flags := board.master.flags
  phase := board.master.phase
  addressBytes := board.wire.addressBytes
  starts := (board.trace.filter Call.isStart).length

/-- Calls that leave the scene alone. -/
def Call.keepsScene : Call → Bool
  | .reset | .status _ | .clearErrors _ | .requestStart | .requestStop | .stopPending _
  | .writeData _ | .acknowledgeAddress => false
  | _ => true

theorem Call.keepsScene_of_isWiring (call : Call) (wiring : call.isWiring = true) :
    call.keepsScene = true := by
  cases call <;> first | rfl | cases wiring

namespace Board

theorem scene_perform (board : Board) {call : Call} (keeps : call.keepsScene = true) :
    (board.perform call).scene = board.scene := by
  cases call with
  | setLineMode line => cases line <;> rfl
  | release line => cases line <;> rfl
  | pullLow line => cases line <;> rfl
  | sample line => cases line <;> rfl
  | _ => first | rfl | cases keeps

theorem Makes.scene {before after : Board} (makes : before.Makes Call.keepsScene after) :
    after.scene = before.scene := by
  apply makes.preserves (P := fun board => board.scene = before.scene) rfl
  intro board call _ keeps same
  rw [board.scene_perform keeps, same]

end Board

namespace Scene

/-- The flags that a status read finds if none are laid down for it. -/
def shown (scene : Scene) : Status :=
  if scene.phase = .data ∧ ¬ scene.world.stuck then
    if scene.world.holdBytes then scene.flags ||| Status.dataEmpty
    else scene.flags ||| Status.dataEmpty ||| Status.byteTransferred
  else scene.flags

/-- The scene after a start condition was requested. -/
def started (scene : Scene) : Scene :=
  if scene.world.stuck then { scene with starts := scene.starts + 1 }
  else
    { scene with
      flags := scene.flags ||| Status.startSent
      phase := .started
      starts := scene.starts + 1 }

/-- The scene after an address byte was sent. -/
def addressed (scene : Scene) (byte : UInt8) : Scene :=
  let flags := scene.flags.without .startSent
  if scene.world.devices.contains (addressOf byte) then
    { scene with
      flags := flags ||| Status.addressAcked
      phase := .addressed
      addressBytes := byte :: scene.addressBytes }
  else
    { scene with
      flags := flags ||| Status.ackFailure
      phase := .idle
      addressBytes := byte :: scene.addressBytes }

end Scene

/-! ## What the calls of a transaction do to the scene -/

namespace Board

variable {board : Board}

theorem status_of_quiet (quiet : board.scene.world.statusWords = []) :
    board.status = board.scene.shown := by
  have words : board.world.statusWords = [] := quiet
  unfold status
  rw [words]
  rfl

theorem scene_readStatus (quiet : board.scene.world.statusWords = []) :
    board.readStatus.scene = board.scene := by
  have words : board.world.statusWords = [] := quiet
  have same : { board.scene.world with statusWords := board.world.statusWords.tail } =
      board.scene.world := by
    rw [words, List.tail_nil, ← words]
    rfl
  exact congrArg (fun world => { board.scene with world }) same

theorem scene_requestStart (board : Board) : board.requestStart.scene = board.scene.started := by
  unfold requestStart Scene.started
  have same : board.scene.world.stuck = board.world.stuck := rfl
  rw [same]
  split <;> rfl

theorem scene_requestStop (board : Board) :
    board.requestStop.scene = { board.scene with phase := .idle } := rfl

theorem stopPending_of_scene (ready : board.scene.world.stopBusy = 0) :
    board.stopPending = false := by
  have stops : board.world.stopBusy = 0 := ready
  unfold stopPending
  rw [stops]
  rfl

theorem scene_pollStop (ready : board.scene.world.stopBusy = 0) :
    board.pollStop.scene = board.scene := by
  unfold pollStop
  rw [stopPending_of_scene ready]
  rfl

theorem scene_writeAddress (phase : board.scene.phase = .started) (byte : UInt8) :
    (board.writeData byte).scene = board.scene.addressed byte := by
  have started : board.master.phase = .started := phase
  have same : board.scene.world.devices = board.world.devices := rfl
  unfold writeData sendAddress Scene.addressed
  rw [started, same]
  dsimp only
  split <;> rfl

theorem scene_writeByte (phase : board.scene.phase = .data) (byte : UInt8) :
    (board.writeData byte).scene = board.scene := by
  have started : board.master.phase = .data := phase
  unfold writeData
  rw [started]
  rfl

theorem scene_acknowledgeAddress (board : Board) : board.acknowledgeAddress.scene =
    { board.scene with
      flags := board.scene.flags.without .addressAcked
      phase := .data } := rfl

end Board

end StatusDisplay
