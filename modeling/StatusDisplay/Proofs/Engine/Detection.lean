import StatusDisplay.Proofs.Board.Levels
import StatusDisplay.Proofs.Bus.Detection
import StatusDisplay.Proofs.Engine.Scene

/-!
# The look for a display

A first bring-up frees the lines, checks them and looks for the display. On a board that nothing was
done to before, the check finds what is wrong with the lines for good, and the scan begins between two
transactions. So the scan ends at the first address at which there is a device, unless the bus is
stuck; whether it finds the device there depends on whether the bus moves its bytes.
-/

namespace StatusDisplay

/-- Nothing shows that anything was done to the board before, and nothing is laid down for it. -/
structure Board.Fresh (board : Board) : Prop where
  flags : board.master.flags = .none
  phase : board.master.phase = .idle
  words : board.world.statusWords = []
  levels : board.world.Unforced
  stops : board.world.stopBusy = 0

/-! ## The addresses that are tried -/

/-- From the first board to the second, these addresses were tried, each for writing. -/
def Board.Tried (before after : Board) (addresses : List UInt8) : Prop :=
  after.wire.addressBytes = (addresses.map Bus.addressByte).reverse ++ before.wire.addressBytes

namespace Board.Tried

variable {before middle after : Board} {addresses more : List UInt8}

theorem trans (h : before.Tried middle addresses) (h' : middle.Tried after more) :
    before.Tried after (addresses ++ more) := by
  have grown : after.wire.addressBytes = _ := h'
  have sent : middle.wire.addressBytes = _ := h
  unfold Tried
  rw [grown, sent, List.map_append, List.reverse_append, List.append_assoc]

theorem of_scene (h : before.Tried middle addresses) (same : after.scene = middle.scene) :
    before.Tried after addresses :=
  (congrArg Scene.addressBytes same).trans h

/-- Addresses of seven bits are on record as they are. -/
theorem addressesTried (h : before.Tried after addresses)
    (short : ∀ address ∈ addresses, addressOf (address <<< 1) = address) :
    after.wire.addressesTried = before.wire.addressesTried ++ addresses := by
  have sent : after.wire.addressBytes = _ := h
  have named : (addresses.map Bus.addressByte).map addressOf = addresses := by
    rw [List.map_map]
    exact (List.map_congr_left short).trans (List.map_id addresses)
  rw [Wire.addressesTried, sent, List.map_append, List.map_reverse, named, List.reverse_append,
    List.reverse_reverse]
  rfl

end Board.Tried

namespace Engine

variable {engine : Engine}

/-- The check of the lines finds what cannot be put right, and nothing else. -/
theorem pulledUp_of_unforced (levels : engine.board.world.Unforced) :
    engine.pulledUp = !engine.board.world.linesLow := by
  have powered : (engine.board.setPowered true).world.Unforced := levels
  exact Board.linesPulledUp_releaseLines powered

/-- The bus that the scan begins on. -/
def scanned (engine : Engine) : Bus := engine.checked.attach.bus

section Scan

variable (fresh : engine.board.Fresh)
include fresh

/-- The scan begins between two transactions. -/
theorem on_scanned : engine.scanned.On
    (Bus.resting engine.board.world.offLines engine.board.wire.addressBytes
      engine.board.scene.starts) := by
  have kept : engine.scanned.board.scene = engine.board.scene :=
    engine.checked.scene_attach.trans engine.scene_checked
  have start : engine.board.scene = Bus.resting engine.board.world.offLines
      engine.board.wire.addressBytes engine.board.scene.starts := by
    have flags := fresh.flags
    have phase := fresh.phase
    unfold Board.scene Bus.resting
    rw [flags, phase]
  exact ⟨rfl, kept.trans start⟩

/-- On a stuck bus the first probe is the last, and its start condition does not get out. -/
theorem detect_of_stuck (valid : engine.config.validate = .ok ())
    (stuck : engine.board.world.stuck = true) : ∃ next,
    Bus.detect engine.config engine.scanned = .error (.bus .timeout) next ∧
      next.board.scene.starts = engine.board.scene.starts + 1 ∧
      engine.board.Tried next.board [] := by
  obtain ⟨first, rest, order⟩ := List.exists_cons_of_ne_nil
    (List.ne_nil_of_mem (Config.validate_eq_ok_iff.1 valid).2.1)
  have words : engine.board.world.offLines.statusWords = [] := fresh.words
  obtain ⟨next, scanned, dead, scene⟩ := Bus.scan_of_stuck words (on_scanned fresh) stuck
  refine ⟨next, ?_, congrArg Scene.starts scene, congrArg Scene.addressBytes scene⟩
  rw [Bus.detect, order, scanned]
  dsimp only
  rw [dead]
  rfl

variable (short : ∀ address ∈ engine.config.scanOrder, addressOf (address <<< 1) = address)
  (free : engine.board.world.stuck = false)
include short free

theorem detect_of_absent (nowhere : engine.config.firstDevice? engine.board.world = none) :
    ∃ next, Bus.detect engine.config engine.scanned = .error .noDeviceFound next ∧
      engine.board.Tried next.board (engine.config.probed engine.board.world) := by
  have words : engine.board.world.offLines.statusWords = [] := fresh.words
  obtain ⟨next, failed, tried⟩ := Bus.detect_of_absent words (on_scanned fresh) free short nowhere
  exact ⟨next, failed, tried⟩

variable {address : UInt8} (found : engine.config.firstDevice? engine.board.world = some address)
include found

/-- A bus that holds its bytes dies of the first device. -/
theorem detect_of_held (held : engine.board.world.holdBytes = true) : ∃ next,
    Bus.detect engine.config engine.scanned = .error (.bus .timeout) next ∧
      engine.board.Tried next.board (engine.config.probed engine.board.world) := by
  have words : engine.board.world.offLines.statusWords = [] := fresh.words
  obtain ⟨next, failed, tried⟩ := Bus.detect_of_held words (on_scanned fresh) free short found held
  exact ⟨next, failed, tried⟩

theorem detect_of_device (moving : engine.board.world.holdBytes = false) : ∃ next bytes starts,
    Bus.detect engine.config engine.scanned = .ok (.classify engine.config address) next ∧
      next.On (Bus.resting engine.board.world.offLines bytes starts) ∧
      engine.board.Tried next.board (engine.config.probed engine.board.world) := by
  have words : engine.board.world.offLines.statusWords = [] := fresh.words
  have stops : engine.board.world.offLines.stopBusy = 0 := fresh.stops
  obtain ⟨next, starts, detected, on⟩ :=
    Bus.detect_of_device words (on_scanned fresh) free short found moving stops
  exact ⟨next, _, starts, detected, on, congrArg Scene.addressBytes on.scene⟩

end Scan

end Engine

end StatusDisplay
