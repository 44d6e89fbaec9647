import StatusDisplay.Proofs.Board.Wiring

/-!
# What freeing the lines tells

The lines are looked at once they have been let go of, and a second time if the data line was found held:
then a pulse on the clock line and a stop condition come in between. What is told of the lines is told by
these looks alone (`release_tells`). A look that finds the clock line low does not go on to the data line,
and the answer to it is the same as to two lines that are high. So that nobody was found waiting is no
promise that the lines are free (`not_high_of_idle`); all other answers mean what they say.
-/

namespace StatusDisplay

/-- The samples of one look at the lines: a clock line that is low hides the data line. -/
def look : Option Bool → List Call
  | none => [.sample .scl false]
  | some data => [.sample .scl true, .sample .sda data]

/-- Lets go of both lines and gives them time to settle. -/
def lettingGo : List Call :=
  [.setLineMode .scl .openDrain, .setLineMode .sda .openDrain, .release .scl, .release .sda,
    .delayMicros Board.settleMicros]

/-- One clock pulse with the data line low, and a stop condition. The lines settle after each change. -/
def stopping : List Call :=
  [.pullLow .sda, .pullLow .scl, .delayMicros Board.settleMicros, .release .scl,
    .delayMicros Board.settleMicros, .release .sda, .delayMicros Board.settleMicros]

/-- The calls that free the lines, by what is seen at first and, if there was a stop, at last. -/
def freeing (first last : Option Bool) : List Call :=
  lettingGo ++ look first ++ if first = some false then stopping ++ look last else []

/-- What is told of the lines, by what is seen at first and at last. -/
def told (first last : Option Bool) : Release :=
  if first = some false then if last = some true then .released else .stillHeld else .idle

section Looks

variable (first last : Option Bool)

/-- A look finds a line low unless both are high. -/
theorem exists_low_of_look : (∃ line, Call.sample line false ∈ look last) ↔ last ≠ some true := by
  rcases last with _ | _ | _
  · exact iff_of_true ⟨.scl, by decide⟩ (by decide)
  · exact iff_of_true ⟨.sda, by decide⟩ (by decide)
  · exact iff_of_false (by rintro ⟨_ | _, low⟩ <;> revert low <;> decide) (by decide)

theorem count_pullLow_freeing (line : Line) :
    (freeing first last).count (.pullLow line) = if first = some false then 1 else 0 := by
  rcases first with _ | _ | _ <;> rcases last with _ | _ | _ <;> cases line <;> rfl

theorem told_eq_idle_iff :
    told first last = .idle ↔ first = some true ∨ Call.sample .scl false ∈ look first := by
  rcases first with _ | _ | _ <;> rcases last with _ | _ | _ <;> decide

theorem told_eq_released_iff : told first last = .released ↔ first = some false ∧ last = some true := by
  rcases first with _ | _ | _ <;> rcases last with _ | _ | _ <;> decide

theorem told_eq_stillHeld_iff : told first last = .stillHeld ↔
    first = some false ∧ ∃ line, Call.sample line false ∈ look last := by
  rw [exists_low_of_look]
  rcases first with _ | _ | _ <;> rcases last with _ | _ | _ <;> decide

end Looks

namespace Board

variable (board : Board)

/-- What the lines show once they have been let go of. -/
def firstLook : Option Bool := board.letGo.sampleData.1

/-- What the lines show after a stop condition. -/
def lastLook : Option Bool := board.letGo.sampleData.2.stopByHand.sampleData.1

theorem exchange_look : Exchange board (look board.sampleData.1) board.sampleData.2 := by
  have clock : Exchange board [.sample .scl (board.level .scl)] (board.sample .scl) := .single rfl
  unfold sampleData
  dsimp only
  split
  case isTrue high =>
    have data : Exchange (board.sample .scl)
        [.sample .sda ((board.sample .scl).level .sda)] ((board.sample .scl).sample .sda) :=
      .single rfl
    rw [high] at clock
    exact clock.append data
  case isFalse low =>
    rw [Bool.not_eq_true] at low
    rw [low] at clock
    exact clock

theorem exchange_releaseLines :
    Exchange board (freeing board.firstLook board.lastLook) board.releaseLines.2 := by
  have seen := board.exchange_letGo.append board.letGo.exchange_look
  rw [releaseLines_board]
  unfold freeing
  change Exchange board _ (if board.firstLook = some false then _ else _)
  split
  case isTrue => exact seen.append ((exchange_stopByHand _).append (exchange_look _))
  case isFalse =>
    rw [List.append_nil]
    exact seen

theorem releaseLines_result :
    board.releaseLines.1 = told board.firstLook board.lastLook := by
  unfold releaseLines told firstLook lastLook letGo
  dsimp only
  split
  case h_1 held found =>
    rw [found, if_pos rfl]
    split
    case h_1 free => rw [free, if_pos rfl]
    case h_2 shown last low found =>
      rw [found, if_neg]
      exact low
  case h_2 shown last other found =>
    rw [found, if_neg other]

end Board

/--
**What freeing the lines tells, and what it leaves.** For every board, and so for all levels that it may
show, the calls are those that its two looks at the lines demand. The first look finds somebody waiting
if the clock line is high and the data line low; only then is a line driven low, and each of them once.
The answer is then that the peer has let go if both lines are high in the end, and otherwise that a line
is still low. In all other cases it is that nobody was found waiting: both lines were high, or the clock
line was low. Whatever the answer is, both lines are left open and driven by nobody.
-/
theorem release_tells (board : Board) :
    let first := board.firstLook
    let last := board.lastLook
    Exchange board (freeing first last) board.releaseLines.2 ∧
      (∀ line, (freeing first last).count (.pullLow line) = if first = some false then 1 else 0) ∧
      (board.releaseLines.1 = .idle ↔
        first = some true ∨ Call.sample .scl false ∈ look first) ∧
      (board.releaseLines.1 = .released ↔ first = some false ∧ last = some true) ∧
      (board.releaseLines.1 = .stillHeld ↔
        first = some false ∧ ∃ line, Call.sample line false ∈ look last) ∧
      ∀ line, board.releaseLines.2.line line = ⟨.openDrain, false⟩ := by
  intro first last
  rw [board.releaseLines_result]
  refine ⟨board.exchange_releaseLines, count_pullLow_freeing first last, told_eq_idle_iff first last,
    told_eq_released_iff first last, told_eq_stillHeld_iff first last, fun line => ?_⟩
  have settings := board.settings_releaseLines
  cases line with
  | scl => exact congrArg (·.scl) settings
  | sda => exact congrArg (·.sda) settings

/-- A clock line that is shorted to ground passes for a pair of lines that nobody holds. -/
theorem not_high_of_idle :
    ¬ ∀ board : Board, board.releaseLines.1 = .idle → board.firstLook = some true := by
  intro high
  have seen := high { world.sclShorted := true } (by decide)
  exact absurd seen (by decide)

end StatusDisplay
