import StatusDisplay.Proofs.Bus.Outcome
import StatusDisplay.Proofs.Engine.Calls

/-!
# What a bring-up does to the scene

Between two transactions by hand a bring-up works on the lines, the interrupts and the supply, and none
of that shows in the scene. Only the opening of a panel does, which leaves a start condition behind.
-/

namespace StatusDisplay.Engine

variable (engine : Engine)

theorem scene_wake : engine.wake.board.scene = engine.board.scene := by
  have woken : engine.board.Makes Call.keepsScene engine.wake.board :=
    engine.makes_wake_of_wiring rfl Call.keepsScene_of_isWiring
  exact woken.scene

theorem scene_checked : engine.checked.board.scene = engine.board.scene := by
  have checked := engine.makes_checked.mono Call.keepsScene_of_isWiring
  exact checked.scene.trans engine.scene_wake

theorem scene_attach : engine.attach.board.scene = engine.board.scene :=
  (Board.Makes.of_exchange engine.exchange_attach rfl).scene

theorem scene_adopt (controller : Controller) :
    (engine.adopt controller).board.scene = engine.board.scene :=
  (Board.Makes.of_exchange (engine.exchange_adopt controller) rfl).scene

theorem scene_launch (payload : Payload) :
    (engine.launch payload).board.scene = engine.board.scene :=
  (Board.Makes.of_exchange (engine.exchange_launch payload) rfl).scene

theorem scene_giveUp (firstBoot : Bool) (error : BringUpError) :
    (engine.giveUp firstBoot error).board.scene = engine.board.scene := by
  cases firstBoot with
  | true =>
    have shutDown := (engine.recordFailure error.kind).exchange_shutDown
    have makes : engine.board.Makes Call.keepsScene (engine.giveUp true error).board :=
      .of_exchange shutDown rfl
    exact makes.scene
  | false =>
    have rearmed := (engine.recordFailure error.kind).exchange_rearm
    have makes : engine.board.Makes Call.keepsScene (engine.giveUp false error).board :=
      .of_exchange rearmed rfl
    exact makes.scene

/-! ## The opening of a panel -/

/-- The opening of a panel is requested, but no byte of it is sent by hand. -/
theorem addressBytes_openPanel :
    engine.openPanel.board.wire.addressBytes = engine.board.wire.addressBytes := by
  let fast := ((engine.board.configure .fast).setErrorIrq true).setEventIrq true
  have requested : engine.openPanel.board.scene = fast.scene.started := fast.scene_requestStart
  have kept : fast.scene.started.addressBytes = engine.board.wire.addressBytes := by
    unfold Scene.started
    split <;> rfl
  exact (congrArg Scene.addressBytes requested).trans kept

theorem addressBytes_launchPanel :
    engine.launchPanel.board.wire.addressBytes = engine.board.wire.addressBytes := by
  have sent : Exchange engine.openPanel.board
      [.setTransferRequests true, .startTransfer engine.openPanel.payload.bytes,
        .armAlarm engine.openPanel.watchdog.timeout] engine.launchPanel.board := .commands _ _ rfl
  have kept : engine.openPanel.board.Makes Call.keepsScene engine.launchPanel.board :=
    .of_exchange sent rfl
  exact (congrArg Scene.addressBytes kept.scene).trans engine.addressBytes_openPanel

/-! ## A live bus -/

theorem alive_modifyBoard (f : Board → Board) :
    (engine.modifyBoard f).bus.alive = engine.bus.alive := rfl

theorem alive_rearm : engine.rearm.bus.alive = engine.bus.alive := rfl

theorem alive_adopt (controller : Controller) :
    (engine.adopt controller).bus.alive = engine.bus.alive :=
  (alive_rearm _).trans (alive_modifyBoard { engine with mode := .ofController controller } _)

theorem alive_launchPanel : engine.launchPanel.bus.alive = engine.bus.alive := rfl

theorem alive_giveUp (firstBoot : Bool) (error : BringUpError) :
    (engine.giveUp firstBoot error).bus.alive = engine.bus.alive := by
  have shutDown (failed : Engine) : failed.shutDown.bus.alive = failed.bus.alive := by
    let masked := failed.modifyBoard fun board => Irq.all.foldl Board.disableIrq board
    have cancelled : masked.cancelWatchdog.bus.alive = masked.bus.alive := rfl
    exact (alive_modifyBoard _ _).trans (cancelled.trans (alive_modifyBoard failed _))
  cases firstBoot with
  | true => exact shutDown (engine.recordFailure error.kind)
  | false => exact alive_rearm (engine.recordFailure error.kind)

variable {engine}

/-- Taking a display into use leaves the bus as alive as it is. -/
theorem on_adopt {scene : Scene} (on : engine.bus.On scene) (controller : Controller) :
    (engine.adopt controller).bus.On scene :=
  ⟨(engine.alive_adopt controller).trans on.alive, (engine.scene_adopt controller).trans on.scene⟩

end StatusDisplay.Engine
