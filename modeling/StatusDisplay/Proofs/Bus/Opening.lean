import StatusDisplay.Proofs.Bus.Outcome

/-!
# How bus events open a transaction

A start condition is requested without waiting for it, and the event interrupt does the rest: the
first event finds it sent and answers with the address, the second finds the acknowledgement and
goes on to the data, and later ones find nothing to do. `Opening` counts the events. On a bus
without faults a transaction that was told of twice is open, and one that is open can be closed.
-/

namespace StatusDisplay.Bus

/-- How far the opening of a transaction has come after so many bus events. -/
inductive Opening (world : World) : Nat → Scene → Prop where
  | requested (bytes : List UInt8) (starts : Nat) :
      Opening world 0 ⟨world, .startSent, .started, bytes, starts⟩
  | acknowledged (bytes : List UInt8) (starts : Nat) :
      Opening world 1 ⟨world, .addressAcked, .addressed, bytes, starts⟩
  | opened (told : Nat) (bytes : List UInt8) (starts : Nat) :
      Opening world (told + 2) (talking world bytes starts)

variable {world : World} {scene : Scene} {told : Nat} {bytes : List UInt8} {starts : Nat}
  {address : UInt8} {bus : Bus}

/-- Two events are enough. -/
theorem Opening.talking (h : Opening world told scene) (enough : 2 ≤ told) :
    ∃ bytes starts, scene = Bus.talking world bytes starts := by
  cases h with
  | requested => cases enough
  | acknowledged => exact absurd enough (by decide)
  | opened _ bytes starts => exact ⟨bytes, starts, rfl⟩

/-- A request for a start condition is where an opening begins. -/
theorem On.openAsync (on : bus.On (resting world bytes starts)) (free : world.stuck = false) :
    ∃ scene, bus.openAsync.On scene ∧ Opening world 0 scene := by
  have listening : (bus.modifyBoard (·.setEventIrq true)).On (resting world bytes starts) :=
    ⟨on.alive, on.scene⟩
  obtain ⟨_, next, run, on'⟩ := succeeds_requestStart free _ listening
  cases run
  exact ⟨_, on', .requested bytes (starts + 1)⟩

section Faultless

variable (quiet : world.statusWords = []) (free : world.stuck = false)
  (moving : world.holdBytes = false)
include quiet

/-- The first event sends the address. -/
theorem On.onEvent_requested
    (on : bus.On ⟨world, .startSent, .started, bytes, starts⟩)
    (device : world.devices.contains (addressOf (address <<< 1)) = true) :
    (bus.onEvent address).On
      ⟨world, .addressAcked, .addressed, address <<< 1 :: bytes, starts⟩ := by
  have status : bus.board.status = .startSent := on.status quiet rfl
  have sends : bus.onEvent address =
      bus.modifyBoard fun board => board.readStatus.writeData (address <<< 1) := by
    unfold Bus.onEvent
    rw [status]
    rfl
  have read := (on.readStatus quiet).scene
  have flags : (Status.startSent.without .startSent ||| Status.addressAcked) = .addressAcked := by
    decide
  rw [sends]
  refine ⟨on.alive, ?_⟩
  show (bus.readStatus.board.writeData (address <<< 1)).scene = _
  rw [Board.scene_writeAddress (congrArg Scene.phase read), read, Scene.addressed, if_pos device,
    flags]

/-- The second event goes on from the acknowledgement to the data. -/
theorem On.onEvent_acknowledged
    (on : bus.On ⟨world, .addressAcked, .addressed, bytes, starts⟩) :
    (bus.onEvent address).On (talking world bytes starts) := by
  have status : bus.board.status = .addressAcked := on.status quiet rfl
  have goesOn : bus.onEvent address =
      bus.modifyBoard fun board => board.readStatus.acknowledgeAddress.setEventIrq false := by
    unfold Bus.onEvent
    rw [status]
    rfl
  have read := (on.readStatus quiet).scene
  have cleared : Status.addressAcked.without .addressAcked = .none := by decide
  rw [goesOn]
  refine ⟨on.alive, ?_⟩
  show bus.readStatus.board.acknowledgeAddress.scene = _
  rw [Board.scene_acknowledgeAddress, read, cleared]
  rfl

include free moving

/-- Within a transaction the last byte always shows as sent. -/
theorem On.status_talking (on : bus.On (talking world bytes starts)) :
    bus.board.status = .none ||| Status.dataEmpty ||| Status.byteTransferred := by
  refine on.status quiet ?_
  unfold Bus.talking Scene.shown
  rw [if_pos ⟨rfl, Bool.not_eq_true _ ▸ free⟩, if_neg (Bool.not_eq_true _ ▸ moving)]

/-- Later events find nothing to do. -/
theorem On.onEvent_talking (on : bus.On (talking world bytes starts)) :
    (bus.onEvent address).On (talking world bytes starts) := by
  have looks : bus.onEvent address = bus.readStatus := by
    unfold Bus.onEvent
    rw [on.status_talking quiet free moving]
    rfl
  rw [looks]
  exact on.readStatus quiet

/-- Each event brings an opening one step on. -/
theorem Opening.next (h : Opening world told scene) (on : bus.On scene)
    (device : world.devices.contains (addressOf (address <<< 1)) = true) :
    ∃ scene, (bus.onEvent address).On scene ∧ Opening world (told + 1) scene := by
  cases h with
  | requested bytes starts =>
    exact ⟨_, on.onEvent_requested quiet device, .acknowledged _ starts⟩
  | acknowledged bytes starts =>
    exact ⟨_, on.onEvent_acknowledged quiet, .opened 0 bytes starts⟩
  | opened told bytes starts =>
    exact ⟨_, on.onEvent_talking quiet free moving, .opened (told + 1) bytes starts⟩

/-- A transaction that is open can be closed. -/
theorem succeeds_close (ready : world.stopBusy = 0) :
    Succeeds close (talking world bytes starts) (resting world bytes starts) := by
  have wait : Succeeds (fun bus => bus.poll .byteTransferred false bus.board.clock)
      (talking world bytes starts) (talking world bytes starts) := by
    intro bus on
    have shows : (Status.none ||| Status.dataEmpty ||| Status.byteTransferred).contains
        .byteTransferred = true := by decide
    refine ⟨(), bus.readStatus, ?_, on.readStatus quiet⟩
    show bus.poll .byteTransferred false bus.board.clock = _
    rw [poll, on.status_talking quiet free moving, if_pos shows]
  exact wait.bind fun _ => succeeds_stop ready

end Faultless

end StatusDisplay.Bus
