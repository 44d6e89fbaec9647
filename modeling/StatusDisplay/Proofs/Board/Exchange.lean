import StatusDisplay.Board.Lines
import StatusDisplay.Board.Master
import StatusDisplay.Board.Peripherals

/-!
# Exchanges with the board

Whatever the driver does to its board is a list of calls, and the board records each of them.
`Exchange before calls after` says that `calls`, made in this order, take the board from `before`
to `after`, each call carrying the answer that the board gave. What a call does to one part of the
board is said once, about `Board.perform`; `Exchange.preserves` carries it over to every list of
calls.
-/

namespace StatusDisplay

/-- The board after a call. An answer that the call carries plays no part in it. -/
def Board.perform (board : Board) : Call → Board
  | .setPowered on => board.setPowered on
  | .configure speed => board.configure speed
  | .disable => board.disable
  | .reset => board.reset
  | .status _ => board.readStatus
  | .clearErrors _ => board.clearErrors
  | .requestStart => board.requestStart
  | .requestStop => board.requestStop
  | .stopPending _ => board.pollStop
  | .writeData byte => board.writeData byte
  | .acknowledgeAddress => board.acknowledgeAddress
  | .setEventIrq on => board.setEventIrq on
  | .setErrorIrq on => board.setErrorIrq on
  | .setTransferRequests on => board.setTransferRequests on
  | .startTransfer bytes => board.startTransfer bytes
  | .stopTransfer => board.stopTransfer
  | .setLineMode line mode => board.setLineMode line mode
  | .release line => board.release line
  | .pullLow line => board.pullLow line
  | .sample line _ => board.sample line
  | .setPriority irq priority => board.setPriority irq priority
  | .enableIrq irq => board.enableIrq irq
  | .disableIrq irq => board.disableIrq irq
  | .clearPending irq => board.clearPending irq
  | .setPending irq => board.setPending irq
  | .armAlarm micros => board.armAlarm micros
  | .cancelAlarm => board.cancelAlarm
  | .delayMicros micros => board.delayMicros micros
  | .delayNanos nanos => board.delayNanos nanos

/--
The calls, made in this order, take the first board to the second. A call has to be the one that
the board records, so its answer is the board's own.
-/
inductive Exchange : Board → List Call → Board → Prop where
  | nil (board : Board) : Exchange board [] board
  | cons {board after : Board} {call : Call} {calls : List Call} :
      (board.perform call).trace = call :: board.trace →
        Exchange (board.perform call) calls after → Exchange board (call :: calls) after

namespace Exchange

variable {first second third : Board} {calls more : List Call}

/-- A single call. -/
theorem single {board : Board} {call : Call}
    (recorded : (board.perform call).trace = call :: board.trace) :
    Exchange board [call] (board.perform call) :=
  .cons recorded (.nil _)

theorem append (h : Exchange first calls second) (h' : Exchange second more third) :
    Exchange first (calls ++ more) third := by
  induction h with
  | nil => exact h'
  | cons recorded _ ih => exact .cons recorded (ih h')

/-- The trace grows by the calls, latest first. -/
theorem trace_eq (h : Exchange first calls second) :
    second.trace = calls.reverse ++ first.trace := by
  induction h with
  | nil => rfl
  | cons recorded _ ih =>
    rw [ih, recorded, List.reverse_cons, List.append_assoc, List.singleton_append]

/-- The calls between two boards are told by their traces. -/
theorem unique (h : Exchange first calls second) (h' : Exchange first more second) :
    calls = more := by
  have traces := h.trace_eq.symm.trans h'.trace_eq
  exact List.reverse_inj.1 (List.append_cancel_right traces)

/-- What each of the calls preserves holds after them. -/
theorem preserves {P : Board → Prop} {p : Call → Bool} (h : Exchange first calls second)
    (all : calls.all p = true) (start : P first)
    (step : ∀ board call, (board.perform call).trace = call :: board.trace → p call = true →
      P board → P (board.perform call)) : P second := by
  induction h with
  | nil => exact start
  | cons recorded _ ih =>
    rw [List.all_cons, Bool.and_eq_true] at all
    exact ih all.2 (step _ _ recorded all.1 start)

end Exchange

/-! ## Commands -/

/-- Calls that have no answer. -/
def Call.isCommand : Call → Bool
  | .status _ | .clearErrors _ | .stopPending _ | .sample .. => false
  | _ => true

/-- A command is recorded as it was made. -/
theorem Board.trace_perform (board : Board) {call : Call} (command : call.isCommand = true) :
    (board.perform call).trace = call :: board.trace := by
  cases call with
  | requestStart =>
    show board.requestStart.trace = _
    unfold requestStart
    split <;> rfl
  | writeData byte =>
    show (board.writeData byte).trace = _
    unfold writeData sendAddress
    split
    case h_1 => dsimp only; split <;> rfl
    all_goals rfl
  | setLineMode line => cases line <;> rfl
  | release line => cases line <;> rfl
  | pullLow line => cases line <;> rfl
  | _ => first | rfl | cases command

/-- Commands can be made on every board. -/
theorem Exchange.commands (board : Board) (calls : List Call)
    (all : calls.all Call.isCommand = true) : Exchange board calls (calls.foldl Board.perform board) := by
  induction calls generalizing board with
  | nil => exact .nil board
  | cons call calls ih =>
    rw [List.all_cons, Bool.and_eq_true] at all
    exact .cons (board.trace_perform all.1) (ih _ all.2)

/-- Calls of one kind are all of a wider kind. -/
theorem Call.all_mono {p q : Call → Bool} {calls : List Call} (all : calls.all p = true)
    (le : ∀ call, p call = true → q call = true) : calls.all q = true := by
  rw [List.all_eq_true]
  intro call mem
  exact le call (List.all_eq_true.1 all call mem)

/-- From the first board to the second only calls that satisfy `p` were made. -/
def Board.Makes (p : Call → Bool) (before after : Board) : Prop :=
  ∃ calls, Exchange before calls after ∧ calls.all p = true

namespace Board.Makes

variable {p q : Call → Bool} {first second third : Board}

theorem refl (board : Board) : Makes p board board := ⟨[], .nil board, rfl⟩

theorem trans (h : Makes p first second) (h' : Makes p second third) : Makes p first third := by
  obtain ⟨calls, exchange, all⟩ := h
  obtain ⟨more, exchange', all'⟩ := h'
  refine ⟨calls ++ more, exchange.append exchange', ?_⟩
  rw [List.all_append, all, all', Bool.and_self]

theorem of_exchange {calls : List Call} (exchange : Exchange first calls second)
    (all : calls.all p = true) : Makes p first second := ⟨calls, exchange, all⟩

/-- What each of these calls preserves holds in the end. -/
theorem preserves {P : Board → Prop} (h : Makes p first second) (start : P first)
    (step : ∀ board call, (board.perform call).trace = call :: board.trace → p call = true →
      P board → P (board.perform call)) : P second := by
  obtain ⟨calls, exchange, all⟩ := h
  exact exchange.preserves all start step

theorem mono (h : Makes p first second) (le : ∀ call, p call = true → q call = true) :
    Makes q first second := by
  obtain ⟨calls, exchange, all⟩ := h
  exact ⟨calls, exchange, Call.all_mono all le⟩

end Board.Makes

/-! ## Calls that move bytes by hand -/

/--
Calls that drive a transaction by hand: status words, start and stop conditions, bytes, and the
pauses between them. They touch neither the lines nor the transfer channel nor an interrupt.
-/
def Call.isTraffic : Call → Bool
  | .status _ | .clearErrors _ | .requestStart | .requestStop | .stopPending _ | .writeData _
  | .acknowledgeAddress | .delayMicros _ => true
  | _ => false

namespace Exchange

variable (board : Board)

theorem readStatus : Exchange board [.status board.status] board.readStatus := single rfl

theorem clearErrors :
    Exchange board [.clearErrors board.master.flags.errors] board.clearErrors := single rfl

theorem requestStart : Exchange board [.requestStart] board.requestStart :=
  .commands board _ rfl

theorem requestStop : Exchange board [.requestStop] board.requestStop := single rfl

theorem pollStop : Exchange board [.stopPending board.stopPending] board.pollStop := by
  have recorded : (board.perform (.stopPending board.stopPending)).trace =
      .stopPending board.stopPending :: board.trace := by
    show board.pollStop.trace = _
    unfold Board.pollStop
    split
    case isTrue busy => rw [busy]; rfl
    case isFalse free => rw [Bool.not_eq_true] at free; rw [free]; rfl
  exact single recorded

theorem writeData (byte : UInt8) : Exchange board [.writeData byte] (board.writeData byte) :=
  .commands board _ rfl

theorem acknowledgeAddress : Exchange board [.acknowledgeAddress] board.acknowledgeAddress :=
  single rfl

end Exchange

end StatusDisplay
