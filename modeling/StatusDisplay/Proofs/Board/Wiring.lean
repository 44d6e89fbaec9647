import StatusDisplay.Bus.Release
import StatusDisplay.Proofs.Board.Settings

/-!
# Work on the lines

Freeing the lines and checking them drives them by hand: every call of it is wiring. Whatever the
samples find, the driver has let go of both lines in the end, and all other settings are as they
were.
-/

namespace StatusDisplay

/-- Calls that drive or read the lines by hand, and the pauses between them. -/
def Call.isWiring : Call → Bool
  | .setLineMode .. | .release _ | .pullLow _ | .sample .. | .delayMicros _ => true
  | _ => false

/-- Wiring calls that connect a line, if at all, as one that is driven by hand. -/
def Call.isRelease : Call → Bool
  | .setLineMode _ mode => mode == .openDrain
  | call => call.isWiring

theorem Call.isWiring_of_isRelease (call : Call) (release : call.isRelease = true) :
    call.isWiring = true := by
  cases call <;> first | rfl | exact release

/-- Calls that read a line. -/
def Call.isSample : Call → Bool
  | .sample .. => true
  | _ => false

theorem Call.isRelease_of_isSample (call : Call) (sample : call.isSample = true) :
    call.isRelease = true := by
  cases call <;> first | rfl | cases sample

/-- The same settings with both lines connected in one way and driven by nobody. -/
def Settings.withLines (settings : Settings) (mode : LineMode) : Settings :=
  { settings with scl := ⟨mode, false⟩, sda := ⟨mode, false⟩ }

namespace Board

theorem samples_sampleData (board : Board) : board.Makes Call.isSample board.sampleData.2 := by
  have clock : Exchange board [.sample .scl (board.level .scl)] (board.sample .scl) := .single rfl
  unfold sampleData
  dsimp only
  split
  case isTrue =>
    have data : Exchange (board.sample .scl)
        [.sample .sda ((board.sample .scl).level .sda)] ((board.sample .scl).sample .sda) :=
      .single rfl
    exact .of_exchange (clock.append data) rfl
  case isFalse => exact .of_exchange clock rfl

theorem makes_sampleData (board : Board) : board.Makes Call.isRelease board.sampleData.2 :=
  board.samples_sampleData.mono Call.isRelease_of_isSample

theorem exchange_stopByHand (board : Board) :
    Exchange board [.pullLow .sda, .pullLow .scl, .delayMicros settleMicros, .release .scl,
      .delayMicros settleMicros, .release .sda, .delayMicros settleMicros] board.stopByHand :=
  .commands _ _ rfl

/-- The board that has let go of both lines and given them time to settle. -/
def letGo (board : Board) : Board :=
  (((board.setLineModes .openDrain).release .scl).release .sda).settle

theorem exchange_letGo (board : Board) :
    Exchange board [.setLineMode .scl .openDrain, .setLineMode .sda .openDrain, .release .scl,
      .release .sda, .delayMicros settleMicros] board.letGo :=
  .commands _ _ rfl

/-- Freeing the lines samples them, and if the data line is held, makes a stop and samples again. -/
theorem releaseLines_board (board : Board) :
    board.releaseLines.2 =
      if board.letGo.sampleData.1 = some false then
        board.letGo.sampleData.2.stopByHand.sampleData.2
      else board.letGo.sampleData.2 := by
  unfold releaseLines
  dsimp only
  split
  case h_1 held found =>
    have sampled : board.letGo.sampleData = (some false, held) := found
    rw [sampled, if_pos rfl]
    split
    case h_1 free => rw [free]
    case h_2 low => rw [low]
  case h_2 level idle other found =>
    have sampled : board.letGo.sampleData = (level, idle) := found
    rw [sampled, if_neg other]

/-- Freeing the lines leaves the board after one sample of the lines, or after the stop too. -/
theorem releaseLines_cases (board : Board) :
    board.releaseLines.2 = board.letGo.sampleData.2 ∨
      board.releaseLines.2 = board.letGo.sampleData.2.stopByHand.sampleData.2 := by
  rw [releaseLines_board]
  split
  case isTrue => exact .inr rfl
  case isFalse => exact .inl rfl

/-- Once both lines have been let go of, only the samples and the stop are left. -/
theorem makes_releaseLines_of_letGo (board : Board) :
    board.letGo.Makes Call.isRelease board.releaseLines.2 := by
  have sampled := board.letGo.makes_sampleData
  rcases board.releaseLines_cases with once | twice
  · rw [once]
    exact sampled
  · rw [twice]
    exact (sampled.trans (.of_exchange (exchange_stopByHand _) rfl)).trans (makes_sampleData _)

theorem makes_releaseLines (board : Board) : board.Makes Call.isRelease board.releaseLines.2 :=
  .trans (.of_exchange board.exchange_letGo rfl) board.makes_releaseLines_of_letGo

theorem linesPulledUp_board (board : Board) :
    board.linesPulledUp.2 = ((board.setLineModes .pullDownInput).settle).sampleData.2 := by
  unfold linesPulledUp
  split
  case h_1 found => rw [found]
  case h_2 found => rw [found]

/-- A clock line that is low counts as lines that are not pulled up. -/
theorem linesPulledUp_level (board : Board) : board.linesPulledUp.1 =
    ((board.setLineModes .pullDownInput).settle).sampleData.1.getD false := by
  unfold linesPulledUp
  split
  case h_1 found => rw [found]; rfl
  case h_2 found => rw [found]; rfl

theorem exchange_settledInput (board : Board) :
    Exchange board [.setLineMode .scl .pullDownInput, .setLineMode .sda .pullDownInput,
      .delayMicros settleMicros] (board.setLineModes .pullDownInput).settle :=
  .commands _ _ rfl

theorem makes_linesPulledUp (board : Board) : board.Makes Call.isWiring board.linesPulledUp.2 := by
  have settled : board.Makes Call.isWiring (board.setLineModes .pullDownInput).settle :=
    .of_exchange board.exchange_settledInput rfl
  rw [linesPulledUp_board]
  exact settled.trans ((makes_sampleData _).mono Call.isWiring_of_isRelease)

/-! ## What is left behind -/

theorem settings_sampleData (board : Board) : board.sampleData.2.settings = board.settings := by
  unfold sampleData
  dsimp only
  split <;> rfl

/-- After the lines were freed, the driver drives neither of them. -/
theorem settings_releaseLines (board : Board) :
    board.releaseLines.2.settings = board.settings.withLines .openDrain := by
  have letGo : board.letGo.sampleData.2.settings = board.settings.withLines .openDrain := by
    rw [settings_sampleData, board.exchange_letGo.settings_eq]
    rfl
  rcases board.releaseLines_cases with once | twice
  · rw [once, letGo]
  · rw [twice, settings_sampleData, (exchange_stopByHand _).settings_eq, letGo]
    rfl

/-- The check of the lines only changes how they are connected. -/
theorem settings_linesPulledUp (board : Board) :
    board.linesPulledUp.2.settings = { board.settings with
      scl := { board.settings.scl with mode := .pullDownInput }
      sda := { board.settings.sda with mode := .pullDownInput } } := by
  rw [linesPulledUp_board, settings_sampleData, (exchange_settledInput board).settings_eq]
  rfl

end Board

end StatusDisplay
