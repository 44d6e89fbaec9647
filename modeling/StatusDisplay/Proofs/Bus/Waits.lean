import StatusDisplay.Proofs.Bus.Traffic

/-!
# Waits, and how they end

A transaction by hand is a list of moves, calls and waits, that the first failing wait cuts short.
Written down as such a list its waits can be counted, and so can those of a probe, which tells nobody
why it failed. The bus keeps account of one thing only, whether a wait has run out of time
(`alive_transact`); a bus that is dead already makes a scan end before it begins.
-/

namespace StatusDisplay.Bus

/-! ## Whether the bus is alive -/

/-- A result that leaves the bus dead if time ran out, and else as alive as it was. -/
def Accounted {α : Type} (bus : Bus) : EStateM.Result BusError Bus α → Prop
  | .ok _ next | .error .fault next => next.alive = bus.alive
  | .error .timeout next => next.alive = false

/-- Steps that keep account of time, on every bus. -/
def Accounts {α : Type} (steps : BusM α) : Prop := ∀ bus, Accounted bus (steps bus)

namespace Accounts

variable {α β : Type} {steps : BusM α} {bus next : Bus}

theorem of_ok {value : α} (h : Accounts steps) (run : steps bus = .ok value next) :
    next.alive = bus.alive := by
  have account := h bus
  rw [run] at account
  exact account

theorem of_fault (h : Accounts steps) (run : steps bus = .error .fault next) :
    next.alive = bus.alive := by
  have account := h bus
  rw [run] at account
  exact account

theorem of_timeout (h : Accounts steps) (run : steps bus = .error .timeout next) :
    next.alive = false := by
  have account := h bus
  rw [run] at account
  exact account

theorem pure (value : α) : Accounts (Pure.pure value) := fun _ => rfl

theorem bind {later : α → BusM β} (h : Accounts steps) (h' : ∀ value, Accounts (later value)) :
    Accounts (steps >>= later) := by
  intro bus
  have first := h bus
  show Accounted bus (EStateM.bind steps later bus)
  unfold EStateM.bind
  cases run : steps bus with
  | ok value middle =>
    rw [run] at first
    have same : middle.alive = bus.alive := first
    have second := h' value middle
    unfold Accounted at second ⊢
    rw [same] at second
    exact second
  | error error middle =>
    rw [run] at first
    cases error with
    | timeout => exact first
    | fault => exact first

theorem perform (f : Board → Board) : Accounts (Bus.perform f) := fun _ => rfl

/-- A step for each of `values`, in their order. -/
theorem forM {step : α → BusM Unit} (values : List α) (h : ∀ value, Accounts (step value)) :
    Accounts (values.forM step) := by
  induction values with
  | nil => exact pure ()
  | cons value values ih => exact bind (h value) fun _ => ih

end Accounts

theorem alive_faulted (bus : Bus) (clears : Bool) : (bus.faulted clears).alive = bus.alive := by
  cases clears <;> rfl

theorem accounted_poll (flags : Status) (clears : Bool) (start : Nat) (bus : Bus) :
    Accounted bus (poll flags clears start bus) := by
  fun_induction poll flags clears start bus with
  | case1 => rfl
  | case2 bus => exact alive_faulted bus.readStatus clears
  | case3 => rfl
  | case4 _ _ _ _ ih => exact ih

theorem accounted_pollStop (start : Nat) (bus : Bus) : Accounted bus (pollStop start bus) := by
  fun_induction pollStop start bus with
  | case1 => rfl
  | case2 _ _ _ ih => exact ih
  | case3 => rfl

theorem accounts_waitFor (flags : Status) : Accounts (waitFor flags) :=
  fun bus => accounted_poll flags true bus.board.clock bus

theorem accounts_stop : Accounts stop :=
  .bind (.perform Board.requestStop) fun _ bus => accounted_pollStop bus.board.clock bus

theorem accounts_close : Accounts close :=
  .bind (fun bus => accounted_poll .byteTransferred false bus.board.clock bus) fun _ => accounts_stop

/-! ## Moves -/

/-- The waits for the bus. -/
inductive Wait where
  /-- For flags of the bus master. -/
  | flags (flags : Status)
  /-- For the last byte of a transfer, and then for the stop condition behind it. -/
  | close
  /-- For a stop condition. -/
  | stop
  deriving DecidableEq, Repr

/-- A wait, with the request for the stop condition that it may wait for. -/
def Wait.run : Wait → BusM Unit
  | flags awaited => waitFor awaited
  | close => Bus.close
  | stop => Bus.stop

theorem Wait.accounts (wait : Wait) : Accounts wait.run := by
  cases wait with
  | flags awaited => exact accounts_waitFor awaited
  | close => exact accounts_close
  | stop => exact accounts_stop

/-- What a transaction by hand is made of. -/
inductive Move where
  | call (call : Call)
  | wait (wait : Wait)
  deriving DecidableEq, Repr

def Move.run : Move → BusM Unit
  | call made => perform (·.perform made)
  | wait awaited => awaited.run

theorem Move.accounts (move : Move) : Accounts move.run := by
  cases move with
  | call made => exact .perform (·.perform made)
  | wait awaited => exact awaited.accounts

/-- Makes the moves one after the other, until a wait fails. -/
def transact (moves : List Move) : BusM Unit := moves.forM Move.run

/-- How the waits of moves end. One that fails is the last. -/
def outcomes : List Move → Bus → List (Option BusError)
  | [], _ => []
  | .call made :: moves, bus => outcomes moves (bus.modifyBoard (·.perform made))
  | .wait awaited :: moves, bus =>
    match awaited.run bus with
    | .ok _ next => none :: outcomes moves next
    | .error error _ => [some error]

theorem accounts_transact (moves : List Move) : Accounts (transact moves) :=
  .forM moves Move.accounts

theorem transact_wait (wait : Wait) (moves : List Move) (bus : Bus) :
    transact (.wait wait :: moves) bus = match wait.run bus with
      | .ok _ next => transact moves next
      | .error error next => .error error next := by
  show EStateM.bind wait.run _ bus = _
  unfold EStateM.bind
  cases wait.run bus <;> rfl

/-- Moves leave a bus dead that was dead, or on which one of their waits has run out of time. -/
theorem alive_transact (moves : List Move) (bus : Bus) :
    (after (transact moves bus)).alive = false ↔
      bus.alive = false ∨ some .timeout ∈ outcomes moves bus := by
  induction moves generalizing bus with
  | nil => exact (or_iff_left List.not_mem_nil).symm
  | cons move moves ih =>
    cases move with
    | call call => exact ih (bus.modifyBoard (·.perform call))
    | wait wait =>
      rw [transact_wait, outcomes]
      cases run : wait.run bus with
      | ok _ next =>
        have same := wait.accounts.of_ok run
        simp only [ih next, same, List.mem_cons, reduceCtorEq, false_or]
      | error error next =>
        cases error with
        | timeout =>
          have dead : next.alive = false := wait.accounts.of_timeout run
          simp [after, dead]
        | fault =>
          have same : next.alive = bus.alive := wait.accounts.of_fault run
          simp [after, same]

/-- A wait that runs out of time is followed by no other, so there is one at most. -/
theorem count_outcomes_le (moves : List Move) (bus : Bus) :
    (outcomes moves bus).count (some .timeout) ≤ 1 := by
  induction moves generalizing bus with
  | nil => exact Nat.zero_le 1
  | cons move moves ih =>
    cases move with
    | call call => exact ih _
    | wait wait =>
      rw [outcomes]
      split
      case h_1 next _ =>
        rw [List.count_cons_of_ne (by simp)]
        exact ih next
      case h_2 => exact List.count_le_length

/-! ## The moves of transactions -/

/-- The opening of a transaction to `address`. -/
def opening (address : UInt8) : List Move :=
  [.call .requestStart, .wait (.flags .startSent), .call (.writeData (address <<< 1)),
    .wait (.flags .addressAcked), .call .acknowledgeAddress]

/-- A byte, and the wait for it to leave. -/
def sending (value : UInt8) : List Move :=
  [.call (.writeData value), .wait (.flags .byteTransferred)]

def strobing (value : UInt8) : List Move := (Lcd.strobe value).flatMap sending

def probing (address : UInt8) : List Move := opening address ++ sending 0 ++ [.wait .stop]

def pausing (micros : Nat) : List Move := if 0 < micros then [.call (.delayMicros micros)] else []

def shaking (address : UInt8) : List Move :=
  opening address ++ Lcd.handshake.flatMap fun step => strobing step.value ++ pausing step.settleMicros

theorem transact_append (moves more : List Move) :
    transact (moves ++ more) = (transact moves >>= fun _ => transact more) :=
  List.forM_append

theorem transact_flatMap {α : Type} (values : List α) (moves : α → List Move) :
    transact (values.flatMap moves) = values.forM fun value => transact (moves value) := by
  induction values with
  | nil => rfl
  | cons value values ih =>
    rw [List.flatMap_cons, transact_append, ih]
    rfl

theorem transact_single (move : Move) : transact [move] = move.run := bind_pure_unit

theorem start_eq (address : UInt8) : start address = transact (opening address) := by
  have goesOn : transact [.call .acknowledgeAddress] = perform Board.acknowledgeAddress :=
    transact_single _
  unfold opening start
  rw [← goesOn]
  rfl

theorem sendByte_eq (value : UInt8) : sendByte value = transact (sending value) := by
  have waits : transact [.wait (.flags .byteTransferred)] = waitFor .byteTransferred :=
    transact_single _
  unfold sending sendByte
  rw [← waits]
  rfl

theorem sendStrobe_eq (value : UInt8) : sendStrobe value = transact (strobing value) := by
  rw [sendStrobe, strobing, transact_flatMap, funext sendByte_eq]

theorem pause_eq (micros : Nat) :
    (if 0 < micros then perform (·.delayMicros micros) else pure ()) = transact (pausing micros) := by
  unfold pausing
  split
  case isTrue => exact (transact_single (.call (.delayMicros micros))).symm
  case isFalse => rfl

theorem handshake_eq (address : UInt8) : handshake address = transact (shaking address) := by
  rw [shaking, transact_append, transact_flatMap, ← start_eq]
  simp only [transact_append, ← sendStrobe_eq, ← pause_eq]
  rfl

theorem accounts_handshake (address : UInt8) : Accounts (handshake address) := by
  rw [handshake_eq]
  exact accounts_transact _

theorem alive_handshake (address : UInt8) (bus : Bus) :
    (after (handshake address bus)).alive = false ↔
      bus.alive = false ∨ some .timeout ∈ outcomes (shaking address) bus := by
  rw [handshake_eq]
  exact alive_transact _ bus

/-- A probe is the moves of one, until a wait fails. -/
theorem attempt_eq_transact (address : UInt8) :
    (do start address; sendByte 0; stop : BusM Unit) = transact (probing address) := by
  have stops : transact [.wait .stop] = stop := transact_single _
  rw [probing, transact_append, transact_append, stops, ← start_eq, ← sendByte_eq, bind_assoc]

theorem probe_eq (address : UInt8) (bus : Bus) :
    bus.probe address = match transact (probing address) bus with
      | .ok _ next => (true, next)
      | .error _ next => (false, next) := by
  unfold probe
  rw [attempt_eq_transact]
  rfl

theorem after_probe (address : UInt8) (bus : Bus) :
    (bus.probe address).2 = after (transact (probing address) bus) := by
  rw [probe_eq]
  cases transact (probing address) bus <;> rfl

/-- An address that answers leaves the bus as alive as it was. -/
theorem alive_of_probe {address : UInt8} {bus next : Bus} (found : bus.probe address = (true, next)) :
    next.alive = bus.alive := by
  rw [probe_eq] at found
  split at found
  case h_1 run =>
    cases found
    exact (accounts_transact _).of_ok run
  case h_2 => cases found

/-! ## The wait that runs out of time -/

/-- Moves that a transaction by hand is made of. -/
def Move.isTraffic : Move → Bool
  | call made => made.isTraffic && made.isCommand
  | wait _ => true

/-- From the first bus traffic leads to a wait that runs out of time and leaves the second. -/
def EndsLate (bus dead : Bus) : Prop :=
  ∃ (wait : Wait) (before : Bus), bus.board.Makes Call.isTraffic before.board ∧
    before.alive = bus.alive ∧ wait.run before = .error .timeout dead

theorem EndsLate.prepend {first second dead : Bus}
    (traffic : first.board.Makes Call.isTraffic second.board) (alive : second.alive = first.alive)
    (late : EndsLate second dead) : EndsLate first dead := by
  obtain ⟨wait, before, reached, same, run⟩ := late
  exact ⟨wait, before, traffic.trans reached, same.trans alive, run⟩

theorem Wait.isTraffic_run (wait : Wait) : IsTraffic wait.run := by
  cases wait with
  | flags awaited => exact isTraffic_waitFor awaited
  | close => exact isTraffic_close
  | stop => exact isTraffic_stop

/-- Moves that fail for lack of time do so in one of their waits. -/
theorem endsLate_transact {moves : List Move} {bus dead : Bus}
    (all : moves.all Move.isTraffic = true) (late : transact moves bus = .error .timeout dead) :
    EndsLate bus dead := by
  induction moves generalizing bus with
  | nil => cases late
  | cons move moves ih =>
    rw [List.all_cons, Bool.and_eq_true] at all
    cases move with
    | call made =>
      obtain ⟨traffic, command⟩ := Bool.and_eq_true_iff.1 all.1
      have exchange : Exchange bus.board [made] (bus.board.perform made) :=
        .single (bus.board.trace_perform command)
      have step : bus.board.Makes Call.isTraffic (bus.board.perform made) :=
        .of_exchange exchange (by rw [List.all_cons, traffic]; rfl)
      let next := bus.modifyBoard (·.perform made)
      have same : next.alive = bus.alive := rfl
      have later : transact moves next = .error .timeout dead := late
      exact (ih all.2 later).prepend step same
    | wait wait =>
      rw [transact_wait] at late
      cases run : wait.run bus with
      | ok _ next =>
        rw [run] at late
        exact (ih all.2 late).prepend (wait.isTraffic_run.of_ok run).makes (wait.accounts.of_ok run)
      | error error next =>
        rw [run] at late
        cases late
        exact ⟨wait, bus, .refl bus.board, rfl, run⟩

theorem endsLate_handshake {address : UInt8} {bus dead : Bus}
    (late : handshake address bus = .error .timeout dead) : EndsLate bus dead := by
  rw [handshake_eq] at late
  exact endsLate_transact rfl late

/-- A probe that finds the bus alive and leaves it dead has waited in vain. -/
theorem endsLate_probe (address : UInt8) {bus : Bus} (living : bus.alive = true)
    (died : (bus.probe address).2.alive = false) : EndsLate bus (bus.probe address).2 := by
  rw [after_probe] at died ⊢
  have account := accounts_transact (probing address) bus
  cases run : transact (probing address) bus with
  | ok _ next =>
    rw [run] at account died
    exact absurd ((account.symm.trans died).symm.trans living) Bool.noConfusion
  | error error next =>
    cases error with
    | timeout => exact endsLate_transact rfl run
    | fault =>
      rw [run] at account died
      exact absurd ((account.symm.trans died).symm.trans living) Bool.noConfusion

end StatusDisplay.Bus
