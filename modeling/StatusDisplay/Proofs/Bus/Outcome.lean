import StatusDisplay.Proofs.Board.Scene
import StatusDisplay.Proofs.Bus.Traffic

/-!
# How transactions end

If no status words are laid down, a transaction by hand on a live bus has one outcome, and the scene
tells which. `Succeeds` and `Fails` name it, together with the scene that is left; each says that
the steps end, and how. A device that is there answers, one that is not leaves an acknowledge
failure which the wait removes, and on a bus that is stuck, or holds its bytes, the wait runs out
of time.
-/

namespace StatusDisplay.Bus

/-- A live bus on this scene. -/
structure On (bus : Bus) (scene : Scene) : Prop where
  alive : bus.alive = true
  scene : bus.board.scene = scene

/-- From every live bus on the first scene, the steps succeed and leave a live bus on the second. -/
def Succeeds {α : Type} (steps : BusM α) (before after : Scene) : Prop :=
  ∀ bus : Bus, bus.On before → ∃ value next, steps bus = .ok value next ∧ next.On after

/--
From every live bus on the first scene, the steps fail and leave a bus on the second; it is dead if
time ran out.
-/
def Fails {α : Type} (steps : BusM α) (before : Scene) (error : BusError) (after : Scene) : Prop :=
  ∀ bus : Bus, bus.On before → ∃ next, steps bus = .error error next ∧
    next.board.scene = after ∧ (next.alive = true ↔ error = .fault)

variable {α β : Type} {steps : BusM α} {first second third : Scene} {error : BusError}

namespace Succeeds

theorem pure (value : α) (scene : Scene) : Succeeds (Pure.pure value) scene scene :=
  fun bus on => ⟨value, bus, rfl, on⟩

theorem bind {next : α → BusM β} (h : Succeeds steps first second)
    (h' : ∀ value, Succeeds (next value) second third) : Succeeds (steps >>= next) first third := by
  intro bus on
  obtain ⟨value, middle, run, on⟩ := h bus on
  obtain ⟨result, last, run', on⟩ := h' value middle on
  refine ⟨result, last, ?_, on⟩
  show EStateM.bind steps next bus = _
  rw [EStateM.bind, run]
  exact run'

/-- Steps that succeed, and then steps that fail. -/
theorem bind_fails {next : α → BusM β} (h : Succeeds steps first second)
    (h' : ∀ value, Fails (next value) second error third) :
    Fails (steps >>= next) first error third := by
  intro bus on
  obtain ⟨value, middle, run, on⟩ := h bus on
  obtain ⟨last, run', left⟩ := h' value middle on
  refine ⟨last, ?_, left⟩
  show EStateM.bind steps next bus = _
  rw [EStateM.bind, run]
  exact run'

/-- Steps that each leave the scene as they find it, one for each of `values`. -/
theorem forM {step : α → BusM Unit} {scene : Scene} (values : List α)
    (h : ∀ value, Succeeds (step value) scene scene) : Succeeds (values.forM step) scene scene := by
  induction values with
  | nil => exact pure () scene
  | cons value values ih => exact bind (h value) fun _ => ih

theorem perform {f : Board → Board}
    (scene : ∀ board : Board, board.scene = first → (f board).scene = second) :
    Succeeds (Bus.perform f) first second :=
  fun bus on => ⟨(), bus.modifyBoard f, rfl, on.alive, scene bus.board on.scene⟩

end Succeeds

/-- After steps that fail nothing else is done. -/
theorem Fails.bind {next : α → BusM β} (h : Fails steps first error second) :
    Fails (steps >>= next) first error second := by
  intro bus on
  obtain ⟨last, run, left⟩ := h bus on
  refine ⟨last, ?_, left⟩
  show EStateM.bind steps next bus = _
  rw [EStateM.bind, run]

/-! ## Waits -/

section Waits

variable {scene : Scene} (quiet : scene.world.statusWords = []) {word flags : Status}
  (shown : scene.shown = word)
include quiet

theorem On.readStatus {bus : Bus} (on : bus.On scene) : bus.readStatus.On scene := by
  obtain ⟨alive, rfl⟩ := on
  exact ⟨alive, Board.scene_readStatus quiet⟩

include shown

theorem On.status {bus : Bus} (on : bus.On scene) : bus.board.status = word := by
  obtain ⟨_, rfl⟩ := on
  rw [← shown]
  exact Board.status_of_quiet quiet

theorem succeeds_waitFor (shows : word.contains flags = true) :
    Succeeds (waitFor flags) scene scene := by
  intro bus on
  refine ⟨(), bus.readStatus, ?_, on.readStatus quiet⟩
  rw [waitFor, poll, on.status quiet shown, if_pos shows]

/-- An error flag ends the wait and is removed. -/
theorem fails_waitFor_fault (hides : word.contains flags = false) (faulty : word.hasErrors = true) :
    Fails (waitFor flags) scene .fault
      { scene with flags := scene.flags.without .errorFlags } := by
  intro bus on
  refine ⟨bus.readStatus.faulted true, ?_, ?_, ?_⟩
  · rw [waitFor, poll, on.status quiet shown, if_neg (Bool.not_eq_true _ ▸ hides), if_pos faulty]
  · have read := (on.readStatus quiet).scene
    subst read
    rfl
  · exact ⟨fun _ => rfl, fun _ => on.alive⟩

/-- A wait that sees neither its flags nor an error goes on until time runs out. -/
theorem fails_poll_timeout (hides : word.contains flags = false) (sound : word.hasErrors = false)
    (clears : Bool) (start : Nat) (bus : Bus) (on : bus.On scene) :
    ∃ next, poll flags clears start bus = .error .timeout next ∧
      next.board.scene = scene ∧ next.alive = false := by
  fun_induction poll flags clears start bus with
  | case1 bus shows =>
    rw [on.status quiet shown, hides] at shows
    cases shows
  | case2 bus _ faulty =>
    rw [on.status quiet shown, sound] at faulty
    cases faulty
  | case3 bus => exact ⟨_, rfl, (on.readStatus quiet).scene, rfl⟩
  | case4 bus _ _ _ ih => exact ih (on.readStatus quiet)

theorem fails_waitFor_timeout (hides : word.contains flags = false)
    (sound : word.hasErrors = false) : Fails (waitFor flags) scene .timeout scene := by
  intro bus on
  obtain ⟨next, run, left, dead⟩ :=
    fails_poll_timeout quiet shown hides sound true bus.board.clock bus on
  refine ⟨next, run, left, ?_⟩
  rw [dead]
  exact ⟨nofun, nofun⟩

end Waits

/-! ## Transactions by hand -/

/-- A scene between transactions. -/
def resting (world : World) (bytes : List UInt8) (starts : Nat) : Scene :=
  ⟨world, .none, .idle, bytes, starts⟩

/-- A scene within a transaction. -/
def talking (world : World) (bytes : List UInt8) (starts : Nat) : Scene :=
  ⟨world, .none, .data, bytes, starts⟩

section Transactions

variable {world : World} (quiet : world.statusWords = []) {address : UInt8}
  {bytes : List UInt8} {starts : Nat}
include quiet

/-- On a stuck bus the start condition does not get out. -/
theorem fails_start_of_stuck (stuck : world.stuck = true) : Fails (start address)
    (resting world bytes starts) .timeout (resting world bytes (starts + 1)) := by
  have requested : (resting world bytes starts).started = resting world bytes (starts + 1) :=
    if_pos stuck
  have request : Succeeds (perform Board.requestStart) (resting world bytes starts)
      (resting world bytes (starts + 1)) := by
    refine .perform fun board is => ?_
    rw [board.scene_requestStart, is, requested]
  have silent : (resting world bytes (starts + 1)).shown = .none := rfl
  have wait : Fails (waitFor .startSent) (resting world bytes (starts + 1)) .timeout
      (resting world bytes (starts + 1)) := fails_waitFor_timeout quiet silent rfl rfl
  exact request.bind_fails fun _ => wait.bind

section Free

variable (free : world.stuck = false)
include free

omit quiet in
/-- A free bus lets a start condition out. -/
theorem succeeds_requestStart : Succeeds (perform Board.requestStart) (resting world bytes starts)
    ⟨world, .startSent, .started, bytes, starts + 1⟩ := by
  have shown : (Status.none ||| Status.startSent) = .startSent := by decide
  have requested : (resting world bytes starts).started =
      ⟨world, .startSent, .started, bytes, starts + 1⟩ := by
    simp [resting, Scene.started, free, shown]
  refine .perform fun board is => ?_
  rw [board.scene_requestStart, is, requested]

theorem succeeds_start (device : world.devices.contains (addressOf (address <<< 1)) = true) :
    Succeeds (start address) (resting world bytes starts)
      (talking world (address <<< 1 :: bytes) (starts + 1)) := by
  let started : Scene := ⟨world, .startSent, .started, bytes, starts + 1⟩
  let acked : Scene := ⟨world, .addressAcked, .addressed, address <<< 1 :: bytes, starts + 1⟩
  have shown : started.shown = .startSent := rfl
  have shown' : acked.shown = .addressAcked := rfl
  have flags : (Status.startSent.without .startSent ||| Status.addressAcked) = .addressAcked := by
    decide
  have cleared : Status.addressAcked.without .addressAcked = .none := by decide
  have addressed : started.addressed (address <<< 1) = acked := by
    simp only [Scene.addressed, started, device, flags, if_true]
    rfl
  have send : Succeeds (perform (·.writeData (address <<< 1))) started acked := by
    refine .perform fun board is => ?_
    rw [Board.scene_writeAddress (congrArg Scene.phase is), is, addressed]
  have goOn : Succeeds (perform Board.acknowledgeAddress) acked
      (talking world (address <<< 1 :: bytes) (starts + 1)) := by
    refine .perform fun board is => ?_
    rw [board.scene_acknowledgeAddress, is]
    simp only [acked, cleared]
    rfl
  exact (succeeds_requestStart free).bind fun _ =>
    (succeeds_waitFor quiet shown rfl).bind fun _ =>
      send.bind fun _ => (succeeds_waitFor quiet shown' rfl).bind fun _ => goOn

/-- An address that no device has is not acknowledged, and that is cleared away. -/
theorem fails_start_of_absent
    (absent : world.devices.contains (addressOf (address <<< 1)) = false) :
    Fails (start address) (resting world bytes starts) .fault
      (resting world (address <<< 1 :: bytes) (starts + 1)) := by
  let started : Scene := ⟨world, .startSent, .started, bytes, starts + 1⟩
  let refused : Scene := ⟨world, .ackFailure, .idle, address <<< 1 :: bytes, starts + 1⟩
  have shown : started.shown = .startSent := rfl
  have shown' : refused.shown = .ackFailure := rfl
  have flags : (Status.startSent.without .startSent ||| Status.ackFailure) = .ackFailure := by
    decide
  have cleared : Status.ackFailure.without .errorFlags = .none := by decide
  have addressed : started.addressed (address <<< 1) = refused := by
    simp only [Scene.addressed, started, absent, flags, Bool.false_eq_true, if_false]
    rfl
  have send : Succeeds (perform (·.writeData (address <<< 1))) started refused := by
    refine .perform fun board is => ?_
    rw [Board.scene_writeAddress (congrArg Scene.phase is), is, addressed]
  have wait : Fails (waitFor .addressAcked) refused .fault
      (resting world (address <<< 1 :: bytes) (starts + 1)) := by
    have hides : Status.ackFailure.contains .addressAcked = false := rfl
    have wait := fails_waitFor_fault quiet shown' hides rfl
    rw [cleared] at wait
    exact wait
  exact (succeeds_requestStart free).bind_fails fun _ =>
    (succeeds_waitFor quiet shown rfl).bind_fails fun _ => send.bind_fails fun _ => wait.bind

/-- A byte leaves a bus that does not hold it. -/
theorem succeeds_sendByte (moving : world.holdBytes = false) (value : UInt8) :
    Succeeds (sendByte value) (talking world bytes starts) (talking world bytes starts) := by
  have shown : (talking world bytes starts).shown =
      .none ||| Status.dataEmpty ||| Status.byteTransferred := by
    unfold talking Scene.shown
    rw [if_pos ⟨rfl, Bool.not_eq_true _ ▸ free⟩, if_neg (Bool.not_eq_true _ ▸ moving)]
  refine .bind (.perform fun board is => ?_) fun _ => succeeds_waitFor quiet shown rfl
  rw [Board.scene_writeByte (congrArg Scene.phase is), is]

/-- A byte that is held runs into the end of its time. -/
theorem fails_sendByte (held : world.holdBytes = true) (value : UInt8) :
    Fails (sendByte value) (talking world bytes starts) .timeout (talking world bytes starts) := by
  have shown : (talking world bytes starts).shown = .none ||| Status.dataEmpty := by
    unfold talking Scene.shown
    rw [if_pos ⟨rfl, Bool.not_eq_true _ ▸ free⟩, if_pos held]
  have write : Succeeds (perform (·.writeData value)) (talking world bytes starts)
      (talking world bytes starts) := by
    refine .perform fun board is => ?_
    rw [Board.scene_writeByte (congrArg Scene.phase is), is]
  exact write.bind_fails fun _ => fails_waitFor_timeout quiet shown rfl rfl

omit quiet free in
/-- A stop condition that is not held up ends the transaction. -/
theorem succeeds_stop (ready : world.stopBusy = 0) :
    Succeeds stop (talking world bytes starts) (resting world bytes starts) := by
  have request : Succeeds (perform Board.requestStop) (talking world bytes starts)
      (resting world bytes starts) := by
    refine .perform fun board is => ?_
    rw [board.scene_requestStop, is]
    rfl
  have poll : Succeeds (fun bus => bus.pollStop bus.board.clock) (resting world bytes starts)
      (resting world bytes starts) := by
    intro bus on
    have same : bus.board.scene.world.stopBusy = 0 := by
      rw [on.scene]
      exact ready
    refine ⟨(), bus.readStop, ?_, on.alive, (Board.scene_pollStop same).trans on.scene⟩
    show bus.pollStop bus.board.clock = _
    unfold pollStop
    rw [Board.stopPending_of_scene same]
    rfl
  exact request.bind fun _ => poll

/-- A character display that is there answers its handshake. -/
theorem succeeds_handshake (moving : world.holdBytes = false)
    (device : world.devices.contains (addressOf (address <<< 1)) = true) :
    Succeeds (handshake address) (resting world bytes starts)
      (talking world (address <<< 1 :: bytes) (starts + 1)) := by
  refine (succeeds_start quiet free device).bind fun _ => .forM _ fun step => ?_
  refine .bind (.forM _ (succeeds_sendByte quiet free moving)) fun _ => ?_
  split
  case isTrue => exact .perform fun board is => is
  case isFalse => exact .pure () _

end Free

end Transactions

end StatusDisplay.Bus
