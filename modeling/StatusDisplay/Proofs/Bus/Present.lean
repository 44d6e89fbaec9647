import StatusDisplay.Proofs.Board.Present
import StatusDisplay.Proofs.Bus.Traffic

/-!
# Transactions that do not look back

Two buses that differ in the past of their boards only cannot be told apart by a transaction: it
makes the same calls on both, with the same outcome. A wait measures the time since its start, so it
does not tell at what time it began. The property passes through sequencing and loops.
-/

namespace StatusDisplay.Bus

/-- The buses differ in the past of their boards only. -/
structure Alike (first second : Bus) : Prop where
  board : first.board.Alike second.board
  timeout : first.timeout = second.timeout
  alive : first.alive = second.alive

/-- The same calls lead to the same outcome on buses that are alike again. -/
inductive Together {ε α : Type} (first second : Bus) :
    EStateM.Result ε Bus α → EStateM.Result ε Bus α → Prop where
  | ok {value : α} {first' second' : Bus} :
      first.board.Together second.board first'.board second'.board → first'.Alike second' →
      Together first second (.ok value first') (.ok value second')
  | error {error : ε} {first' second' : Bus} :
      first.board.Together second.board first'.board second'.board → first'.Alike second' →
      Together first second (.error error first') (.error error second')

/-- Calls that are made on both buses beforehand. -/
theorem Together.prepend {ε α : Type} {first second first' second' : Bus}
    {result result' : EStateM.Result ε Bus α}
    (before : first.board.Together second.board first'.board second'.board)
    (h : Together first' second' result result') : Together first second result result' := by
  cases h with
  | ok later alike => exact .ok (before.trans later) alike
  | error later alike => exact .error (before.trans later) alike

/-- Steps that do the same on buses that are alike. -/
def LooksAhead {ε α : Type} (steps : EStateM ε Bus α) : Prop :=
  ∀ first second : Bus, first.Alike second → Together first second (steps first) (steps second)

namespace LooksAhead

variable {ε α β : Type}

theorem pure (value : α) : LooksAhead (Pure.pure value : EStateM ε Bus α) :=
  fun _ _ alike => .ok (.refl _ _) alike

theorem bind {steps : EStateM ε Bus α} {next : α → EStateM ε Bus β} (h : LooksAhead steps)
    (h' : ∀ value, LooksAhead (next value)) : LooksAhead (steps >>= next) := by
  intro first second alike
  have together := h first second alike
  show Together first second (EStateM.bind steps next first) (EStateM.bind steps next second)
  unfold EStateM.bind
  cases run : steps first with
  | ok value first' =>
    rw [run] at together
    cases run' : steps second with
    | ok value' second' =>
      rw [run'] at together
      cases together with
      | ok before alike' => exact (h' value first' second' alike').prepend before
    | error => rw [run'] at together; cases together
  | error error first' =>
    rw [run] at together
    cases run' : steps second with
    | ok => rw [run'] at together; cases together
    | error error' second' =>
      rw [run'] at together
      cases together with
      | error before alike' => exact .error before alike'

/-- A step for each of `values`, in their order. -/
theorem forM {step : α → BusM Unit} (values : List α) (h : ∀ value, LooksAhead (step value)) :
    LooksAhead (values.forM step) := by
  induction values with
  | nil => exact pure ()
  | cons value values ih => exact bind (h value) fun _ => ih

/-- A step of the board that is one call. -/
theorem perform {f : Board → Board} {call : Call}
    (exchange : ∀ board, Exchange board [call] (f board)) :
    LooksAhead (Bus.perform f) := by
  intro first second alike
  have together : first.board.Together second.board (f first.board) (f second.board) :=
    ⟨_, exchange first.board, exchange second.board⟩
  exact .ok together ⟨together.alike alike.board, alike.timeout, alike.alive⟩

end LooksAhead

variable {first second : Bus}

/-- Both results are a success, or both a failure. -/
theorem Together.cases {ε α : Type} {result result' : EStateM.Result ε Bus α}
    (h : Together first second result result') :
    (∃ value first' second', result = .ok value first' ∧ result' = .ok value second' ∧
      first.board.Together second.board first'.board second'.board ∧ first'.Alike second') ∨
    ∃ error first' second', result = .error error first' ∧ result' = .error error second' ∧
      first.board.Together second.board first'.board second'.board ∧ first'.Alike second' := by
  obtain ⟨calls, alike⟩ | ⟨calls, alike⟩ := h
  · exact .inl ⟨_, _, _, rfl, rfl, calls, alike⟩
  · exact .inr ⟨_, _, _, rfl, rfl, calls, alike⟩

/-! ## Waits -/

theorem together_readStatus (alike : first.Alike second) :
    first.board.Together second.board first.readStatus.board second.readStatus.board := by
  refine ⟨_, .readStatus first.board, ?_⟩
  rw [alike.board.status]
  exact .readStatus second.board

theorem Alike.readStatus (alike : first.Alike second) : first.readStatus.Alike second.readStatus :=
  ⟨(together_readStatus alike).alike alike.board, alike.timeout, alike.alive⟩

theorem together_faulted (alike : first.Alike second) (clears : Bool) :
    first.board.Together second.board (first.faulted clears).board
      (second.faulted clears).board := by
  cases clears with
  | false => exact .refl _ _
  | true =>
    refine ⟨_, .clearErrors first.board, ?_⟩
    rw [alike.board.master]
    exact .clearErrors second.board

theorem Alike.faulted (alike : first.Alike second) (clears : Bool) :
    (first.faulted clears).Alike (second.faulted clears) := by
  have board := (together_faulted alike clears).alike alike.board
  cases clears with
  | false => exact alike
  | true => exact ⟨board, alike.timeout, alike.alive⟩

/-- Two waits that have been going on for the same time go on in the same way. -/
theorem together_poll (flags : Status) (clears : Bool) (start start' : Nat) (first second : Bus)
    (since : first.board.clock + start' = second.board.clock + start) (alike : first.Alike second) :
    Together first second (poll flags clears start first) (poll flags clears start' second) := by
  have ticks (bus : Bus) : bus.readStatus.board.clock = bus.board.clock + Board.pollMicros := rfl
  fun_induction poll flags clears start first generalizing second with
  | case1 first shows =>
    rw [alike.board.status] at shows
    unfold poll
    rw [if_pos shows]
    exact .ok (together_readStatus alike) alike.readStatus
  | case2 first hides faulty =>
    rw [alike.board.status] at hides faulty
    unfold poll
    rw [if_neg hides, if_pos faulty]
    have read := together_readStatus alike
    exact .error (read.trans (together_faulted alike.readStatus clears))
      (alike.readStatus.faulted clears)
  | case3 first hides sound late =>
    rw [alike.board.status] at hides sound
    have late' : second.timeout < second.readStatus.board.clock - start' := by
      rw [ticks, ← alike.timeout]
      rw [ticks] at late
      omega
    unfold poll
    rw [if_neg hides, if_neg sound, if_pos late']
    exact .error (together_readStatus alike) ⟨alike.readStatus.board, alike.timeout, rfl⟩
  | case4 first hides sound early ih =>
    rw [alike.board.status] at hides sound
    have early' : ¬ second.timeout < second.readStatus.board.clock - start' := by
      rw [ticks, ← alike.timeout]
      rw [ticks] at early
      omega
    have since' : first.readStatus.board.clock + start' = second.readStatus.board.clock + start := by
      rw [ticks, ticks]
      omega
    rw [poll.eq_def flags clears start' second, if_neg hides, if_neg sound, if_neg early']
    exact (ih second.readStatus since' alike.readStatus).prepend (together_readStatus alike)

theorem looksAhead_waitFor (flags : Status) : LooksAhead (waitFor flags) :=
  fun first second alike => together_poll flags true _ _ first second (Nat.add_comm _ _) alike

theorem together_readStop (alike : first.Alike second) :
    first.board.Together second.board first.readStop.board second.readStop.board := by
  refine ⟨_, .pollStop first.board, ?_⟩
  rw [alike.board.stopPending]
  exact .pollStop second.board

theorem Alike.readStop (alike : first.Alike second) : first.readStop.Alike second.readStop :=
  ⟨(together_readStop alike).alike alike.board, alike.timeout, alike.alive⟩

/-- Two waits for a stop condition that have been going on for the same time go on in the same way. -/
theorem together_pollStop (start start' : Nat) (first second : Bus)
    (since : first.board.clock + start' = second.board.clock + start) (alike : first.Alike second) :
    Together first second (pollStop start first) (pollStop start' second) := by
  have ticks (bus : Bus) (pending : bus.board.stopPending = true) :
      bus.readStop.board.clock = bus.board.clock + Board.pollMicros := Board.clock_pollStop pending
  fun_induction pollStop start first generalizing second with
  | case1 first pending late =>
    have pending' : second.board.stopPending = true := alike.board.stopPending ▸ pending
    have late' : second.timeout < second.readStop.board.clock - start' := by
      rw [ticks second pending', ← alike.timeout]
      rw [ticks first pending] at late
      omega
    unfold pollStop
    rw [if_pos pending', if_pos late']
    exact .error (together_readStop alike) ⟨alike.readStop.board, alike.timeout, rfl⟩
  | case2 first pending early ih =>
    have pending' : second.board.stopPending = true := alike.board.stopPending ▸ pending
    have early' : ¬ second.timeout < second.readStop.board.clock - start' := by
      rw [ticks second pending', ← alike.timeout]
      rw [ticks first pending] at early
      omega
    have since' : first.readStop.board.clock + start' = second.readStop.board.clock + start := by
      rw [ticks first pending, ticks second pending']
      omega
    rw [pollStop.eq_def start' second, if_pos pending', if_neg early']
    exact (ih second.readStop since' alike.readStop).prepend (together_readStop alike)
  | case3 first free =>
    have free' : ¬ second.board.stopPending = true := alike.board.stopPending ▸ free
    unfold pollStop
    rw [if_neg free']
    exact .ok (together_readStop alike) alike.readStop

/-! ## Transactions by hand -/

theorem looksAhead_stop : LooksAhead stop :=
  .bind (.perform .requestStop) fun _ first second alike =>
    together_pollStop _ _ first second (Nat.add_comm _ _) alike

theorem looksAhead_close : LooksAhead close :=
  .bind (fun first second alike => together_poll _ _ _ _ first second (Nat.add_comm _ _) alike)
    fun _ => looksAhead_stop

theorem looksAhead_start (address : UInt8) : LooksAhead (start address) :=
  .bind (.perform .requestStart) fun _ =>
    .bind (looksAhead_waitFor _) fun _ =>
      .bind (.perform (.writeData · _)) fun _ =>
        .bind (looksAhead_waitFor _) fun _ => .perform .acknowledgeAddress

theorem looksAhead_sendByte (value : UInt8) : LooksAhead (sendByte value) :=
  .bind (.perform (.writeData · _)) fun _ => looksAhead_waitFor _

theorem looksAhead_handshake (address : UInt8) : LooksAhead (handshake address) := by
  refine .bind (looksAhead_start address) fun _ => .forM _ fun step => ?_
  refine .bind (.forM _ looksAhead_sendByte) fun _ => ?_
  split
  case isTrue =>
    have pause (board : Board) :
        Exchange board [.delayMicros step.settleMicros] (board.delayMicros step.settleMicros) :=
      .single rfl
    exact .perform pause
  case isFalse => exact .pure ()

/-! ## The scan -/

/-- What is tried at one address. -/
def attempt (address : UInt8) : BusM Unit := do
  start address
  sendByte 0
  stop

theorem looksAhead_attempt (address : UInt8) : LooksAhead (attempt address) :=
  .bind (looksAhead_start address) fun _ => .bind (looksAhead_sendByte 0) fun _ => looksAhead_stop

theorem probe_of_ok {address : UInt8} {bus next : Bus} (answered : attempt address bus = .ok () next) :
    bus.probe address = (true, next) := by
  unfold attempt at answered
  unfold probe EStateM.run
  rw [answered]

theorem probe_of_error {address : UInt8} {error : BusError} {bus next : Bus}
    (unanswered : attempt address bus = .error error next) : bus.probe address = (false, next) := by
  unfold attempt at unanswered
  unfold probe EStateM.run
  rw [unanswered]

/-- The same answer, with the same calls, on buses that are alike again. -/
structure AnswersAlike {α : Type} (first second : Bus) (result result' : α × Bus) : Prop where
  answer : result.1 = result'.1
  calls : first.board.Together second.board result.2.board result'.2.board
  alike : result.2.Alike result'.2

/-- Whether anybody answers is told by the outcome of the attempt. -/
theorem answersAlike_probe {address : UInt8}
    (together : Together first second (attempt address first) (attempt address second)) :
    AnswersAlike first second (first.probe address) (second.probe address) := by
  obtain ⟨_, next, next', run, run', calls, alike⟩ | ⟨_, next, next', run, run', calls, alike⟩ :=
    together.cases
  · rw [probe_of_ok run, probe_of_ok run']
    exact ⟨rfl, calls, alike⟩
  · rw [probe_of_error run, probe_of_error run']
    exact ⟨rfl, calls, alike⟩

/-- A scan goes on in the same way behind a probe that was answered in the same way. -/
theorem answersAlike_scan_cons {address : UInt8} {rest : List UInt8} (living : first.alive = true)
    (living' : second.alive = true)
    (probed : AnswersAlike first second (first.probe address) (second.probe address))
    (goesOn : ∀ first second : Bus, first.Alike second →
      AnswersAlike first second (first.scan rest) (second.scan rest)) :
    AnswersAlike first second (first.scan (address :: rest)) (second.scan (address :: rest)) := by
  obtain ⟨answer, calls, alike⟩ := probed
  rw [scan, scan, if_pos living, if_pos living']
  cases run : first.probe address with
  | mk found next =>
    cases run' : second.probe address with
    | mk found' next' =>
      rw [run, run'] at answer calls alike
      obtain rfl : found = found' := answer
      cases found with
      | true => exact ⟨rfl, calls, alike⟩
      | false =>
        have later := goesOn next next' alike
        exact ⟨later.answer, calls.trans later.calls, later.alike⟩

theorem answersAlike_scan (addresses : List UInt8) (first second : Bus) (alike : first.Alike second) :
    AnswersAlike first second (first.scan addresses) (second.scan addresses) := by
  induction addresses generalizing first second with
  | nil => exact ⟨rfl, .refl _ _, alike⟩
  | cons address rest ih =>
    cases living : first.alive with
    | false =>
      have living' : second.alive = false := alike.alive ▸ living
      rw [scan_of_dead living, scan_of_dead living']
      exact ⟨rfl, .refl _ _, alike⟩
    | true =>
      have probed := answersAlike_probe (looksAhead_attempt address first second alike)
      exact answersAlike_scan_cons living (alike.alive ▸ living) probed ih

/-- The result of a search for the display is told by the scan. -/
theorem together_detect (config : Config)
    (scanned : AnswersAlike first second (first.scan config.scanOrder) (second.scan config.scanOrder)) :
    Together first second (detect config first) (detect config second) := by
  obtain ⟨answer, calls, alike⟩ := scanned
  unfold detect
  cases run : first.scan config.scanOrder with
  | mk found next =>
    cases run' : second.scan config.scanOrder with
    | mk found' next' =>
      rw [run, run'] at answer calls alike
      obtain rfl : found = found' := answer
      cases found with
      | some address => exact .ok calls alike
      | none =>
        have alive : next.alive = next'.alive := alike.alive
        dsimp only
        rw [alive]
        exact .error calls alike

end StatusDisplay.Bus
