import StatusDisplay.Proofs.Board.Wiring

/-!
# Boards that differ in their past only

What a board does next is decided by its present: the registers of the bus master, the lines, the
transfer channel, the alarm and the world. Its clock, the bytes that have reached its peers, its
interrupt controller and its trace only tell how it came there. So calls made on two boards that are
alike get the same answers and leave boards that are alike. Work on the lines needs less: there it is
enough that the boards are wired alike.
-/

namespace StatusDisplay

namespace Board

/-- The board without its past. -/
def present (board : Board) : Board :=
  { board with clock := 0, wire := {}, irqs := {}, trace := [] }

/-- The boards differ in their past only. -/
def Alike (first second : Board) : Prop := first.present = second.present

/-- The past plays no part in what a call does. -/
theorem present_perform (board : Board) (call : Call) :
    (board.perform call).present = (board.present.perform call).present := by
  cases call with
  | requestStart =>
    show board.requestStart.present = board.present.requestStart.present
    unfold requestStart
    cases stuck : board.world.stuck <;> simp only [present, stuck] <;> rfl
  | stopPending =>
    show board.pollStop.present = board.present.pollStop.present
    unfold pollStop
    have same : board.present.stopPending = board.stopPending := rfl
    rw [same]
    split <;> rfl
  | writeData byte =>
    show (board.writeData byte).present = (board.present.writeData byte).present
    unfold writeData
    have same : board.present.master.phase = board.master.phase := rfl
    rw [same]
    split
    case h_1 =>
      unfold sendAddress
      have same : board.present.world.devices = board.world.devices := rfl
      rw [same]
      dsimp only
      split <;> rfl
    all_goals rfl
  | setLineMode line => cases line <;> rfl
  | release line => cases line <;> rfl
  | pullLow line => cases line <;> rfl
  | sample line => cases line <;> rfl
  | _ => rfl

variable {first second : Board}

namespace Alike

theorem perform (h : first.Alike second) (call : Call) :
    (first.perform call).Alike (second.perform call) := by
  unfold Alike at h ⊢
  rw [first.present_perform, second.present_perform, h]

theorem master (h : first.Alike second) : first.master = second.master := by
  show first.present.master = second.present.master
  rw [h]

theorem world (h : first.Alike second) : first.world = second.world := by
  show first.present.world = second.present.world
  rw [h]

theorem status (h : first.Alike second) : first.status = second.status := by
  show first.present.status = second.present.status
  rw [h]

theorem stopPending (h : first.Alike second) : first.stopPending = second.stopPending := by
  show first.present.stopPending = second.present.stopPending
  rw [h]

end Alike

/-- The board without its bus master, its channel and its alarm. -/
def bare (board : Board) : Board := { scl := board.scl, sda := board.sda, world := board.world }

/-- The boards drive their lines in the same way, in the same world. -/
def Wired (first second : Board) : Prop := first.bare = second.bare

/-- What a call does to the lines and the world is decided by them. -/
theorem bare_perform (board : Board) (call : Call) :
    (board.perform call).bare = (board.bare.perform call).bare := by
  cases call with
  | requestStart =>
    have kept (board : Board) : board.requestStart.bare = board.bare := by
      unfold requestStart
      split <;> rfl
    exact (kept board).trans (kept board.bare).symm
  | stopPending =>
    show board.pollStop.bare = board.bare.pollStop.bare
    unfold pollStop
    have same : board.bare.stopPending = board.stopPending := rfl
    rw [same]
    split <;> rfl
  | writeData byte =>
    have kept (board : Board) : (board.writeData byte).bare = board.bare := by
      unfold writeData sendAddress
      split
      case h_1 => dsimp only; split <;> rfl
      all_goals rfl
    exact (kept board).trans (kept board.bare).symm
  | setLineMode line => cases line <;> rfl
  | release line => cases line <;> rfl
  | pullLow line => cases line <;> rfl
  | sample line => cases line <;> rfl
  | _ => rfl

theorem Alike.wired (h : first.Alike second) : first.Wired second := by
  show first.present.bare = second.present.bare
  rw [h]

namespace Wired

theorem perform (h : first.Wired second) (call : Call) :
    (first.perform call).Wired (second.perform call) := by
  unfold Wired at h ⊢
  rw [first.bare_perform, second.bare_perform, h]

theorem world (h : first.Wired second) : first.world = second.world := by
  show first.bare.world = second.bare.world
  rw [h]

theorem level (h : first.Wired second) (line : Line) : first.level line = second.level line := by
  have bare (board : Board) : board.bare.level line = board.level line := by
    cases line <;> rfl
  rw [← bare first, ← bare second, h]

end Wired

/-- The same calls lead from the first board on and from the second. -/
def Together (first second first' second' : Board) : Prop :=
  ∃ calls, Exchange first calls first' ∧ Exchange second calls second'

end Board

open Board

/-- The same calls leave boards that are alike as they were. -/
theorem Exchange.alike {first second first' second' : Board} {calls : List Call}
    (h : Exchange first calls first') (h' : Exchange second calls second')
    (alike : first.Alike second) : first'.Alike second' := by
  induction h generalizing second with
  | nil =>
    cases h' with
    | nil => exact alike
  | @cons _ _ call _ _ _ ih =>
    cases h' with
    | cons _ later => exact ih later (alike.perform call)

/-- The same calls leave boards wired alike that were. -/
theorem Exchange.wired {first second first' second' : Board} {calls : List Call}
    (h : Exchange first calls first') (h' : Exchange second calls second')
    (wired : first.Wired second) : first'.Wired second' := by
  induction h generalizing second with
  | nil =>
    cases h' with
    | nil => exact wired
  | @cons _ _ call _ _ _ ih =>
    cases h' with
    | cons _ later => exact ih later (wired.perform call)

namespace Board

variable {first second first' second' first'' second'' : Board}

namespace Together

theorem refl (first second : Board) : first.Together second first second :=
  ⟨[], .nil first, .nil second⟩

theorem trans (h : first.Together second first' second')
    (h' : first'.Together second' first'' second'') :
    first.Together second first'' second'' := by
  obtain ⟨calls, exchange, exchange'⟩ := h
  obtain ⟨more, later, later'⟩ := h'
  exact ⟨calls ++ more, exchange.append later, exchange'.append later'⟩

theorem alike (h : first.Together second first' second') (alike : first.Alike second) :
    first'.Alike second' := by
  obtain ⟨_, exchange, exchange'⟩ := h
  exact exchange.alike exchange' alike

theorem wired (h : first.Together second first' second') (wired : first.Wired second) :
    first'.Wired second' := by
  obtain ⟨_, exchange, exchange'⟩ := h
  exact exchange.wired exchange' wired

/-- The settings stay the same once they are. -/
theorem settings (h : first.Together second first' second')
    (same : first.settings = second.settings) : first'.settings = second'.settings := by
  obtain ⟨_, exchange, exchange'⟩ := h
  rw [exchange.settings_eq, exchange'.settings_eq, same]

end Together

/-! ## The lines -/

theorem together_sample (wired : first.Wired second) (line : Line) :
    first.Together second (first.sample line) (second.sample line) := by
  have sampled (board : Board) :
      Exchange board [.sample line (board.level line)] (board.sample line) := by
    cases line <;> exact .single rfl
  refine ⟨_, sampled first, ?_⟩
  rw [wired.level line]
  exact sampled second

/-- Boards that are wired alike show the same levels. -/
theorem together_sampleData (wired : first.Wired second) :
    first.sampleData.1 = second.sampleData.1 ∧
      first.Together second first.sampleData.2 second.sampleData.2 := by
  have clock := together_sample wired .scl
  have later := clock.wired wired
  unfold sampleData
  rw [wired.level .scl]
  split
  case isTrue =>
    exact ⟨congrArg some (later.level .sda), clock.trans (together_sample later .sda)⟩
  case isFalse => exact ⟨rfl, clock⟩

theorem together_releaseLines (wired : first.Wired second) :
    first.Together second first.releaseLines.2 second.releaseLines.2 := by
  have letGo : first.Together second first.letGo second.letGo :=
    ⟨_, first.exchange_letGo, second.exchange_letGo⟩
  obtain ⟨same, sampled⟩ := together_sampleData (letGo.wired wired)
  have once := letGo.trans sampled
  rw [releaseLines_board, releaseLines_board, same]
  split
  case isTrue =>
    have stopped : first.letGo.sampleData.2.Together second.letGo.sampleData.2
        first.letGo.sampleData.2.stopByHand second.letGo.sampleData.2.stopByHand :=
      ⟨_, exchange_stopByHand _, exchange_stopByHand _⟩
    have twice := once.trans stopped
    exact twice.trans (together_sampleData (twice.wired wired)).2
  case isFalse => exact once

/-- The check of the lines finds the same on boards that are wired alike. -/
theorem together_linesPulledUp (wired : first.Wired second) :
    first.linesPulledUp.1 = second.linesPulledUp.1 ∧
      first.Together second first.linesPulledUp.2 second.linesPulledUp.2 := by
  have settled : first.Together second (first.setLineModes .pullDownInput).settle
      (second.setLineModes .pullDownInput).settle :=
    ⟨_, first.exchange_settledInput, second.exchange_settledInput⟩
  obtain ⟨same, sampled⟩ := together_sampleData (settled.wired wired)
  rw [linesPulledUp_level, linesPulledUp_level, same, linesPulledUp_board, linesPulledUp_board]
  exact ⟨rfl, settled.trans sampled⟩

end Board

end StatusDisplay
