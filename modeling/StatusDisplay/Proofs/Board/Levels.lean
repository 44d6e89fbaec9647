import StatusDisplay.Proofs.Board.Wiring

/-!
# What the lines show

If no levels are laid down, a line that the driver lets go of is low only if something else holds it.
A peer that waits for a clock pulse gets one while the lines are freed, unless the clock line is
shorted; so after that a data line that is still low is shorted too, and the check of the lines finds
nothing but shorts and missing pull-ups.
-/

namespace StatusDisplay

namespace World

/-- No levels are laid down for the next samples. -/
structure Unforced (world : World) : Prop where
  scl : world.sclLevels = []
  sda : world.sdaLevels = []

/-- Whether something outside the driver holds a line low. -/
def holds (world : World) : Line → Bool
  | .scl => world.sclShorted
  | .sda => world.sdaShorted || world.sdaHeld

/-- Whether something is wrong with the lines that the driver cannot put right. -/
def linesLow (world : World) : Bool := world.floating || world.sdaShorted || world.sclShorted

end World

namespace Board

variable {board : Board}

@[simp] theorem world_setLineMode (board : Board) (line : Line) (mode : LineMode) :
    (board.setLineMode line mode).world = board.world := by
  cases line <;> rfl

@[simp] theorem world_release (board : Board) (line : Line) :
    (board.release line).world = board.world := by
  cases line <;> rfl

@[simp] theorem world_settle (board : Board) : board.settle.world = board.world := rfl

theorem world_letGo (board : Board) : board.letGo.world = board.world := by
  simp [letGo, setLineModes]

/-- A pulse on the clock line makes a waiting peer let go. -/
theorem world_stopByHand (board : Board) :
    board.stopByHand.world = { board.world with sdaHeld := false } := by
  have pulled : ((board.pullLow .sda).pullLow .scl).world = { board.world with sdaHeld := false } :=
    rfl
  simp [stopByHand, pulled]

/-- The level of a line that nobody drives. -/
theorem ownLevel_of_lines {mode : LineMode} (lines : ∀ line, board.line line = ⟨mode, false⟩)
    (line : Line) : board.ownLevel line =
      (!board.world.holds line && !(board.world.floating && mode == .pullDownInput)) := by
  unfold ownLevel
  rw [lines line]
  cases line <;> rfl

/-! ## Samples -/

theorem level_of_unforced (unforced : board.world.Unforced) (line : Line) :
    board.level line = board.ownLevel line := by
  cases line with
  | scl => rw [level, unforced.scl, List.headD_nil]
  | sda => rw [level, unforced.sda, List.headD_nil]

theorem world_sample (unforced : board.world.Unforced) (line : Line) :
    (board.sample line).world = board.world := by
  cases line with
  | scl =>
    show { board.world with sclLevels := board.world.sclLevels.tail } = board.world
    rw [unforced.scl, List.tail_nil, ← unforced.scl]
  | sda =>
    show { board.world with sdaLevels := board.world.sdaLevels.tail } = board.world
    rw [unforced.sda, List.tail_nil, ← unforced.sda]

/-- Samples show the levels that the lines have by themselves. -/
theorem sampleData_of_unforced (unforced : board.world.Unforced) :
    board.sampleData.1 = (if board.ownLevel .scl then some (board.ownLevel .sda) else none) ∧
      board.sampleData.2.world = board.world := by
  have clock := world_sample unforced .scl
  have later : (board.sample .scl).world.Unforced := by
    rw [clock]
    exact unforced
  unfold sampleData
  rw [level_of_unforced unforced]
  split
  case isTrue =>
    exact ⟨congrArg some (level_of_unforced later .sda), (world_sample later .sda).trans clock⟩
  case isFalse => exact ⟨rfl, clock⟩

/-! ## Freeing and checking the lines -/

/-- Freeing the lines lets a waiting peer finish, unless the clock line is shorted. -/
theorem world_releaseLines (unforced : board.world.Unforced) :
    board.releaseLines.2.world =
      if board.world.sclShorted then board.world else { board.world with sdaHeld := false } := by
  have lines : ∀ line, board.letGo.line line = ⟨.openDrain, false⟩ := by
    intro line
    cases line <;> rfl
  have own (line : Line) : board.letGo.ownLevel line = !board.world.holds line := by
    rw [ownLevel_of_lines lines, world_letGo]
    show (!board.world.holds line && !(board.world.floating && false)) = _
    rw [Bool.and_false, Bool.not_false, Bool.and_true]
  have unforced' : board.letGo.world.Unforced := by
    rw [world_letGo]
    exact unforced
  obtain ⟨shown, world⟩ := sampleData_of_unforced unforced'
  rw [own, own] at shown
  rw [world_letGo] at world
  rw [releaseLines_board, shown]
  cases shorted : board.world.sclShorted with
  | true =>
    have low : board.world.holds .scl = true := shorted
    rw [low]
    exact world
  | false =>
    have high : board.world.holds .scl = false := shorted
    rw [high]
    cases held : board.world.holds .sda with
    | true =>
      have stopped := world_stopByHand board.letGo.sampleData.2
      rw [world] at stopped
      have unforced : board.letGo.sampleData.2.stopByHand.world.Unforced := by
        rw [stopped]
        exact ⟨unforced.scl, unforced.sda⟩
      exact (sampleData_of_unforced unforced).2.trans stopped
    | false =>
      have free : board.world.sdaHeld = false := (Bool.or_eq_false_iff.1 held).2
      have same : { board.world with sdaHeld := false } = board.world := by rw [← free]
      exact world.trans same.symm

/-- The check of the lines finds them high unless something holds them, or nothing pulls them up. -/
theorem linesPulledUp_of_unforced (unforced : board.world.Unforced)
    (free : ∀ line, (board.line line).drivenLow = false) :
    board.linesPulledUp.1 =
      (!board.world.holds .scl && !board.world.holds .sda && !board.world.floating) := by
  let input := (board.setLineModes .pullDownInput).settle
  have world : input.world = board.world := by simp [input, setLineModes]
  have lines : ∀ line, input.line line = ⟨.pullDownInput, false⟩ := by
    intro line
    cases line with
    | scl => exact congrArg (LineState.mk .pullDownInput) (free .scl)
    | sda => exact congrArg (LineState.mk .pullDownInput) (free .sda)
  have own (line : Line) :
      input.ownLevel line = (!board.world.holds line && !board.world.floating) := by
    rw [ownLevel_of_lines lines, world]
    show (!board.world.holds line && !(board.world.floating && true)) = _
    rw [Bool.and_true]
  have unforced' : input.world.Unforced := by
    rw [world]
    exact unforced
  have shown := (sampleData_of_unforced unforced').1
  rw [own, own] at shown
  have checked : board.linesPulledUp.1 = input.sampleData.1.getD false := board.linesPulledUp_level
  rw [checked, shown]
  cases board.world.holds .scl <;> cases board.world.holds .sda <;>
    cases board.world.floating <;> rfl

/-- Lines that were freed are found pulled up unless there is something wrong with them. -/
theorem linesPulledUp_releaseLines (unforced : board.world.Unforced) :
    board.releaseLines.2.linesPulledUp.1 = !board.world.linesLow := by
  have world := world_releaseLines unforced
  have unforced' : board.releaseLines.2.world.Unforced := by
    rw [world]
    split
    case isTrue => exact unforced
    case isFalse => exact ⟨unforced.scl, unforced.sda⟩
  have free : ∀ line, (board.releaseLines.2.line line).drivenLow = false := by
    have settings := board.settings_releaseLines
    intro line
    cases line with
    | scl => exact congrArg (fun settings => settings.scl.drivenLow) settings
    | sda => exact congrArg (fun settings => settings.sda.drivenLow) settings
  rw [linesPulledUp_of_unforced unforced' free, world]
  cases shorted : board.world.sclShorted with
  | true =>
    have low : board.world.holds .scl = true := shorted
    rw [if_pos rfl, low, World.linesLow, shorted, Bool.or_true]
    rfl
  | false =>
    rw [if_neg Bool.noConfusion, World.linesLow, shorted]
    show (!board.world.sclShorted && !(board.world.sdaShorted || false) && !board.world.floating) = _
    rw [shorted]
    cases board.world.sdaShorted <;> cases board.world.floating <;> rfl

end Board

end StatusDisplay
