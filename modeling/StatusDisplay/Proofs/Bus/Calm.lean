import StatusDisplay.Proofs.Bus.Present

/-!
# Transactions leave no flags behind

If no status words are laid down, a transaction by hand that finds no flags leaves none, whatever comes
of it and wherever the one before has stopped: the flag of the start condition goes with the address
byte, an acknowledgement is taken back, and an error flag is removed by the wait that finds it. `Meets`
follows what a board is like through the steps, on the way that succeeds and on the one that fails.
-/

namespace StatusDisplay

/-- No flags are set, and no words are laid down. -/
structure Board.Calm (board : Board) : Prop where
  flags : board.master.flags = .none
  words : board.world.statusWords = []

namespace Bus

/-- The board that is left is like `P` after a success, and like `R` after a failure. -/
def Leaves {ε α : Type} (P R : Board → Prop) : EStateM.Result ε Bus α → Prop
  | .ok _ next => P next.board
  | .error _ next => R next.board

/-- From every board like `P` the steps leave one like `Q` if they succeed, and like `R` if they fail. -/
def Meets {α : Type} (P : Board → Prop) (steps : BusM α) (Q R : Board → Prop) : Prop :=
  ∀ bus : Bus, P bus.board → Leaves Q R (steps bus)

namespace Meets

variable {α β : Type} {P P' Q Q' R S : Board → Prop} {steps : BusM α}

theorem bind {later : α → BusM β} (h : Meets P steps Q R) (h' : ∀ value, Meets Q (later value) S R) :
    Meets P (steps >>= later) S R := by
  intro bus start
  have first := h bus start
  show Leaves S R (EStateM.bind steps later bus)
  unfold EStateM.bind
  cases run : steps bus with
  | ok value next =>
    rw [run] at first
    exact h' value next first
  | error error next =>
    rw [run] at first
    exact first

theorem pure (value : α) : Meets P (Pure.pure value) P R := fun _ start => start

theorem perform {f : Board → Board} (step : ∀ board, P board → Q (f board)) :
    Meets P (Bus.perform f) Q R :=
  fun bus start => step bus.board start

/-- A step for each of `values`, none of which changes what the board is like. -/
theorem forM {step : α → BusM Unit} (values : List α) (h : ∀ value, Meets P (step value) P R) :
    Meets P (values.forM step) P R := by
  induction values with
  | nil => exact pure ()
  | cons value values ih => exact bind (h value) fun _ => ih

theorem mono (h : Meets P steps Q R) (before : ∀ board, P' board → P board)
    (after : ∀ board, Q board → Q' board) : Meets P' steps Q' R := by
  intro bus start
  have ends := h bus (before _ start)
  revert ends
  cases steps bus with
  | ok => exact after _
  | error => exact id

/-- However the steps end, the board is calm. -/
theorem calm (h : Meets P steps Board.Calm Board.Calm) {bus : Bus} (start : P bus.board) :
    (Bus.after (steps bus)).board.Calm := by
  have ends := h bus start
  revert ends
  cases steps bus with
  | ok => exact id
  | error => exact id

end Meets

/-! ## Waits -/

/-- A wait by what one look at the bus can come to. -/
theorem meets_waitFor {P Q R : Board → Prop} {flags : Status}
    (shows : ∀ board, P board → board.status.contains flags = true → Q board.readStatus)
    (faulty : ∀ board, P board → board.status.contains flags = false →
      board.status.hasErrors = true → R board.readStatus.clearErrors)
    (late : ∀ board, P board → board.status.contains flags = false →
      board.status.hasErrors = false → R board.readStatus)
    (goesOn : ∀ board, P board → P board.readStatus) : Meets P (waitFor flags) Q R := by
  intro bus start
  show Leaves Q R (poll flags true bus.board.clock bus)
  generalize bus.board.clock = since
  have main (clears : Bool) (clear : clears = true) : Leaves Q R (poll flags clears since bus) := by
    fun_induction poll flags clears since bus with
    | case1 bus found => exact shows bus.board start found
    | case2 bus hidden errors =>
      subst clear
      exact faulty bus.board start (Bool.not_eq_true _ ▸ hidden) errors
    | case3 bus hidden sound =>
      exact late bus.board start (Bool.not_eq_true _ ▸ hidden) (Bool.not_eq_true _ ▸ sound)
    | case4 bus _ _ _ ih => exact ih (goesOn bus.board start)
  exact main true rfl

end Bus

/-! ## The stages of a transaction -/

namespace Board

/-- A start condition was requested, and has come out unless the bus is stuck. -/
structure Requested (board : Board) : Prop where
  words : board.world.statusWords = []
  out : board.world.stuck = true ∧ board.master.flags = .none ∨
    board.master.phase = .started ∧ board.master.flags = .startSent

/-- A start condition is out. -/
structure Started (board : Board) : Prop where
  words : board.world.statusWords = []
  phase : board.master.phase = .started
  flags : board.master.flags = .startSent

/-- An address was sent, and is acknowledged or not. -/
structure Addressed (board : Board) : Prop where
  words : board.world.statusWords = []
  answer : board.master.phase = .addressed ∧ board.master.flags = .addressAcked ∨
    board.master.phase = .idle ∧ board.master.flags = .ackFailure

/-- Data bytes go to a peer. -/
structure Talking (board : Board) : Prop extends board.Calm where
  phase : board.master.phase = .data

variable {board : Board}

/-- Without data on the way the bus master shows its flags. -/
theorem status_eq_flags (words : board.world.statusWords = [])
    (still : board.master.phase ≠ .data ∨ board.world.stuck = true) :
    board.status = board.master.flags := by
  unfold status ownStatus
  rw [words, List.headD_nil, if_neg]
  rintro ⟨phase, free⟩
  exact still.elim (absurd phase) free

theorem words_readStatus (words : board.world.statusWords = []) :
    board.readStatus.world.statusWords = [] := by
  show board.world.statusWords.tail = []
  rw [words]
  rfl

theorem Calm.requestStart (h : board.Calm) : board.requestStart.Requested := by
  unfold Board.requestStart
  cases stuck : board.world.stuck with
  | true => exact ⟨h.words, .inl ⟨stuck, h.flags⟩⟩
  | false =>
    refine ⟨h.words, .inr ⟨rfl, ?_⟩⟩
    show board.master.flags ||| Status.startSent = .startSent
    rw [h.flags]
    decide

theorem Started.sendAddress (h : board.Started) (byte : UInt8) : (board.writeData byte).Addressed := by
  have acked : (Status.startSent.without .startSent ||| Status.addressAcked) = .addressAcked := by
    decide
  have refused : (Status.startSent.without .startSent ||| Status.ackFailure) = .ackFailure := by
    decide
  unfold Board.writeData Board.sendAddress
  rw [h.phase]
  dsimp only
  rw [h.flags]
  split
  case isTrue => exact ⟨h.words, .inl ⟨rfl, acked⟩⟩
  case isFalse => exact ⟨h.words, .inr ⟨rfl, refused⟩⟩

theorem Talking.writeData (h : board.Talking) (byte : UInt8) : (board.writeData byte).Talking := by
  unfold Board.writeData
  rw [h.phase]
  exact ⟨⟨h.flags, h.words⟩, h.phase⟩

theorem Calm.readStatus (h : board.Calm) : board.readStatus.Calm := ⟨h.flags, words_readStatus h.words⟩

theorem Calm.clearErrors (h : board.Calm) : board.clearErrors.Calm := by
  refine ⟨?_, h.words⟩
  show board.master.flags.without .errorFlags = .none
  rw [h.flags]
  decide

theorem Calm.pollStop (h : board.Calm) : board.pollStop.Calm := by
  unfold Board.pollStop
  split <;> exact ⟨h.flags, h.words⟩

theorem Talking.readStatus (h : board.Talking) : board.readStatus.Talking :=
  ⟨h.toCalm.readStatus, h.phase⟩

end Board

open Board

namespace Bus

/-! ## Transactions by hand -/

theorem meets_startSent : Meets Requested (waitFor .startSent) Started Calm := by
  have shown (board : Board) (requested : board.Requested) : board.status = board.master.flags := by
    refine status_eq_flags requested.words ?_
    obtain ⟨stuck, _⟩ | ⟨phase, _⟩ := requested.out
    · exact .inr stuck
    · exact .inl (by rw [phase]; exact nofun)
  refine meets_waitFor ?_ ?_ ?_ ?_
  · intro board requested shows
    rw [shown board requested] at shows
    obtain ⟨words, ⟨_, flags⟩ | ⟨phase, flags⟩⟩ := requested
    · rw [flags] at shows
      cases shows
    · exact ⟨words_readStatus words, phase, flags⟩
  · intro board requested _ errors
    rw [shown board requested] at errors
    obtain ⟨_, ⟨_, flags⟩ | ⟨_, flags⟩⟩ := requested <;> rw [flags] at errors <;> cases errors
  · intro board requested hidden _
    rw [shown board requested] at hidden
    obtain ⟨words, ⟨_, flags⟩ | ⟨_, flags⟩⟩ := requested
    · exact ⟨flags, words_readStatus words⟩
    · rw [flags] at hidden
      cases hidden
  · rintro board ⟨words, out⟩
    exact ⟨words_readStatus words, out⟩

theorem meets_addressAcked : Meets Addressed (waitFor .addressAcked)
    (fun board => board.world.statusWords = [] ∧ board.master.flags = .addressAcked) Calm := by
  have shown (board : Board) (addressed : board.Addressed) : board.status = board.master.flags := by
    refine status_eq_flags addressed.words (.inl ?_)
    obtain ⟨phase, _⟩ | ⟨phase, _⟩ := addressed.answer <;> rw [phase] <;> exact nofun
  refine meets_waitFor ?_ ?_ ?_ ?_
  · intro board addressed shows
    rw [shown board addressed] at shows
    obtain ⟨words, ⟨_, flags⟩ | ⟨_, flags⟩⟩ := addressed
    · exact ⟨words_readStatus words, flags⟩
    · rw [flags] at shows
      cases shows
  · intro board addressed hidden _
    rw [shown board addressed] at hidden
    obtain ⟨words, ⟨_, flags⟩ | ⟨_, flags⟩⟩ := addressed
    · rw [flags] at hidden
      cases hidden
    · refine ⟨?_, words_readStatus words⟩
      show board.master.flags.without .errorFlags = .none
      rw [flags]
      decide
  · intro board addressed hidden sound
    rw [shown board addressed] at hidden sound
    obtain ⟨_, ⟨_, flags⟩ | ⟨_, flags⟩⟩ := addressed
    · rw [flags] at hidden
      cases hidden
    · rw [flags] at sound
      cases sound
  · rintro board ⟨words, answer⟩
    exact ⟨words_readStatus words, answer⟩

/-- A transaction that is opened has data bytes next; one that is not leaves the board calm. -/
theorem meets_start (address : UInt8) : Meets Calm (start address) Talking Calm := by
  have goOn (board : Board)
      (acked : board.world.statusWords = [] ∧ board.master.flags = .addressAcked) :
      board.acknowledgeAddress.Talking := by
    refine ⟨⟨?_, acked.1⟩, rfl⟩
    show board.master.flags.without .addressAcked = .none
    rw [acked.2]
    decide
  exact .bind (.perform fun _ calm => calm.requestStart) fun _ =>
    .bind meets_startSent fun _ => .bind (.perform fun _ started => started.sendAddress _) fun _ =>
      .bind meets_addressAcked fun _ => .perform goOn

theorem meets_sendByte (value : UInt8) : Meets Talking (sendByte value) Talking Calm :=
  .bind (.perform fun _ talking => talking.writeData value) fun _ =>
    meets_waitFor (fun _ talking _ => talking.readStatus)
      (fun _ talking _ _ => talking.toCalm.readStatus.clearErrors)
      (fun _ talking _ _ => talking.toCalm.readStatus) fun _ talking => talking.readStatus

theorem meets_stop : Meets Calm stop Calm Calm := by
  have request : Meets Calm (perform Board.requestStop) Calm Calm :=
    .perform fun board calm => ⟨calm.flags, calm.words⟩
  refine request.bind fun _ bus start => ?_
  show Leaves Calm Calm (pollStop bus.board.clock bus)
  generalize bus.board.clock = since
  fun_induction pollStop since bus with
  | case1 => exact start.pollStop
  | case2 _ _ _ ih => exact ih start.pollStop
  | case3 => exact start.pollStop

theorem meets_attempt (address : UInt8) : Meets Calm (attempt address) Calm Calm :=
  .bind (meets_start address) fun _ =>
    .bind ((meets_sendByte 0).mono (fun _ => id) fun _ talking => talking.toCalm) fun _ => meets_stop

theorem meets_handshake (address : UInt8) : Meets Calm (handshake address) Calm Calm := by
  have talks : Meets Calm (handshake address) Talking Calm := by
    refine .bind (meets_start address) fun _ => .forM _ fun step => ?_
    refine .bind (.forM _ meets_sendByte) fun _ => ?_
    split
    case isTrue => exact .perform fun _ talking => ⟨⟨talking.flags, talking.words⟩, talking.phase⟩
    case isFalse => exact .pure ()
  exact talks.mono (fun _ => id) fun _ talking => talking.toCalm

/-! ## The scan -/

theorem calm_probe {bus : Bus} (calm : bus.board.Calm) (address : UInt8) :
    (bus.probe address).2.board.Calm := by
  have left := (meets_attempt address).calm calm
  cases run : attempt address bus with
  | ok _ next =>
    rw [run] at left
    rw [probe_of_ok run]
    exact left
  | error error next =>
    rw [run] at left
    rw [probe_of_error run]
    exact left

theorem calm_scan {bus : Bus} (calm : bus.board.Calm) (addresses : List UInt8) :
    (bus.scan addresses).2.board.Calm := by
  induction addresses generalizing bus with
  | nil => exact calm
  | cons address rest ih =>
    have probed := calm_probe calm address
    unfold scan
    split
    case isFalse => exact calm
    case isTrue =>
      split
      case h_1 next found => rw [found] at probed; exact probed
      case h_2 next absent => rw [absent] at probed; exact ih probed

theorem calm_detect {bus : Bus} (calm : bus.board.Calm) (config : Config) :
    (after (detect config bus)).board.Calm := by
  have scanned := calm_scan calm config.scanOrder
  unfold detect
  split
  case h_1 found => rw [found] at scanned; exact scanned
  case h_2 absent => rw [absent] at scanned; exact scanned

end Bus

end StatusDisplay
