import StatusDisplay.Proofs.Engine.Refresh

/-!
# What a bring-up leads to

A bring-up always has a result. `BroughtUp` lists them: the lines are not pulled up, the scan
finds nothing, a character display does not answer its handshake, or a display of either kind is
started. Each result names the engine that the driver goes on with, so what is kept and what is
set is read off it. A bus error is a bring-up of an engine whose transfer was aborted.
-/

namespace StatusDisplay.Engine

variable {engine after : Engine}

/-- The engine that has checked its lines. -/
def checked (engine : Engine) : Engine := (engine.wake.askBoard Board.linesPulledUp).2

/-- Whether the check of the lines finds them pulled up. -/
def pulledUp (engine : Engine) : Bool := engine.wake.board.linesPulledUp.1

/-- The engine whose text has been blanked. -/
def clearText (engine : Engine) : Engine := { engine with display := engine.display.clear }

/-- The controller that a bring-up goes on with, and the engine that has just learnt it. -/
inductive Identified (engine : Engine) : Controller → Engine → Prop where
  | known {controller : Controller} : engine.mode.controller? = some controller →
      Identified engine controller engine.wake.attach
  | found {controller : Controller} {bus : Bus} : engine.mode = .unknown →
      engine.pulledUp = true →
      Bus.detect engine.config engine.checked.attach.bus = .ok controller bus →
      Identified engine controller (engine.checked.attach.setBus bus).clearText

/-- The engine that hands over its first payload. -/
def launch (engine : Engine) (payload : Payload) : Engine :=
  ((engine.setPayload payload).modifyBoard (·.setTransferRequests true)).startTransfer

/-- The engine that has opened the first transaction of a bitmap panel. -/
def openPanel (engine : Engine) : Engine :=
  (((engine.modifyBoard fun board => (board.configure .fast).setErrorIrq true).setPayload
    (Oled.setupPayload engine.config.panel engine.display.backlight)).setCursor
    .firstRow).modifyBus Bus.openAsync

/-- The engine that has opened the first transaction of a bitmap panel and sends its setup. -/
def launchPanel (engine : Engine) : Engine :=
  (engine.openPanel.modifyBoard (·.setTransferRequests true)).startTransfer

/-- The results of a bring-up. -/
inductive BroughtUp (engine : Engine) : Except BringUpError PowerOn → Engine → Prop where
  /-- The lines are not pulled up. -/
  | floating : engine.mode = .unknown → engine.pulledUp = false →
      BroughtUp engine (.error .invalidBus) (engine.checked.giveUp true .invalidBus)
  /-- The scan finds no display. -/
  | undetected {error : BringUpError} {bus : Bus} : engine.mode = .unknown →
      engine.pulledUp = true →
      Bus.detect engine.config engine.checked.attach.bus = .error error bus →
      BroughtUp engine (.error error) ((engine.checked.attach.setBus bus).giveUp true error)
  /-- A character display does not answer its handshake. -/
  | unanswered {address : UInt8} {identified : Engine} {error : BusError} {bus : Bus} :
      Identified engine (.character address) identified →
      Bus.handshake address (identified.adopt (.character address)).bus = .error error bus →
      BroughtUp engine (.error (.bus error))
        (((identified.adopt (.character address)).setBus bus).giveUp
          engine.mode.controller?.isNone (.bus error))
  /-- A character display is started. -/
  | character {address : UInt8} {identified : Engine} {bus : Bus} :
      Identified engine (.character address) identified →
      Bus.handshake address (identified.adopt (.character address)).bus = .ok () bus →
      BroughtUp engine (.ok ⟨.character address, engine.mode.controller?.isNone⟩)
        (((identified.adopt (.character address)).setBus bus).launch
          (Lcd.setupPayload (identified.adopt (.character address)).display.backlight))
  /-- A bitmap panel is started. -/
  | bitmap {address : UInt8} {identified : Engine} :
      Identified engine (.bitmap address) identified →
      BroughtUp engine (.ok ⟨.bitmap address, engine.mode.controller?.isNone⟩)
        (identified.adopt (.bitmap address)).launchPanel

/-! ## Starting a display -/

theorem startCharacter_of_ok {address : UInt8} {bus : Bus}
    (answered : Bus.handshake address engine.bus = .ok () bus) :
    engine.startCharacter address =
      .ok (.ok (), (engine.setBus bus).launch (Lcd.setupPayload engine.display.backlight)) := by
  have filled := load_eq (engine.setBus bus)
    (Lcd.setupPayload (engine.setBus bus).display.backlight) rfl
  rw [startCharacter, tryBus_of_ok answered]
  simp only [filled, bind, Except.bind, pure, Except.pure]
  rfl

theorem startCharacter_of_error {address : UInt8} {error : BusError} {bus : Bus}
    (unanswered : Bus.handshake address engine.bus = .error error bus) :
    engine.startCharacter address = .ok (.error error, engine.setBus bus) := by
  rw [startCharacter, tryBus_of_error unanswered]
  rfl

theorem startBitmap_eq (engine : Engine) : engine.startBitmap = .ok engine.launchPanel := by
  have filled (fast : Engine) := load_eq fast (Oled.powerOnPayload fast.config.panel) rfl
  have opened (fast : Engine) := openTransaction_eq
    (fast.setPayload (Oled.powerOnPayload fast.config.panel))
    (Oled.setupPayload fast.config.panel fast.display.backlight) rfl
  simp only [setPayload_setPayload] at opened
  unfold startBitmap
  simp only [filled, opened, bind, Except.bind, pure, Except.pure]
  rfl

/-! ## Naming the controller -/

theorem detect_of_ok {controller : Controller} {bus : Bus}
    (found : Bus.detect engine.config engine.bus = .ok controller bus) :
    engine.detect = (.ok controller, (engine.setBus bus).clearText) := by
  rw [detect, tryBus_of_ok found]
  rfl

theorem detect_of_error {error : BringUpError} {bus : Bus}
    (absent : Bus.detect engine.config engine.bus = .error error bus) :
    engine.detect = (.error error, engine.setBus bus) := by
  rw [detect, tryBus_of_error absent]

theorem mode_eq_unknown_iff : engine.mode = .unknown ↔ engine.mode.controller? = none := by
  cases engine.mode <;> simp [Mode.controller?]

theorem identify_of_known {controller : Controller}
    (known : engine.mode.controller? = some controller) :
    engine.wake.identify engine.mode.controller? = (.ok controller, engine.wake.attach) := by
  rw [known, identify]

theorem identify_of_unknown (unknown : engine.mode = .unknown) :
    engine.wake.identify engine.mode.controller? =
      if engine.pulledUp then engine.checked.attach.detect else (.error .invalidBus, engine.checked) := by
  rw [mode_eq_unknown_iff.1 unknown]
  rfl

/-- A bring-up gets as far as naming the controller, or one of two results ends it. -/
theorem identify_cases (engine : Engine) :
    (∃ controller identified, engine.Identified controller identified ∧
      engine.wake.identify engine.mode.controller? = (.ok controller, identified)) ∨
    (∃ error stopped, engine.wake.identify engine.mode.controller? = (.error error, stopped) ∧
      engine.mode = .unknown ∧ engine.BroughtUp (.error error) (stopped.giveUp true error)) := by
  cases mode : engine.mode.controller? with
  | some controller =>
    exact .inl ⟨controller, _, .known mode, mode ▸ identify_of_known mode⟩
  | none =>
    have unknown : engine.mode = .unknown := mode_eq_unknown_iff.2 mode
    rw [← mode, identify_of_unknown unknown]
    cases pulled : engine.pulledUp with
    | false => exact .inr ⟨_, _, rfl, unknown, .floating unknown pulled⟩
    | true =>
      rw [if_pos rfl]
      cases scan : Bus.detect engine.config engine.checked.attach.bus with
      | ok controller bus =>
        exact .inl ⟨controller, _, .found unknown pulled scan, detect_of_ok scan⟩
      | error error bus =>
        exact .inr ⟨error, _, detect_of_error scan, unknown, .undetected unknown pulled scan⟩

/-! ## The whole bring-up -/

theorem bringUp_of_stopped {error : BringUpError} {stopped : Engine}
    (h : engine.wake.identify engine.mode.controller? = (.error error, stopped)) :
    engine.bringUp =
      .ok (.error error, stopped.giveUp engine.mode.controller?.isNone error) := by
  unfold bringUp attempt
  simp only [h]
  rfl

/-- A bring-up that has named its controller ends as the start of the refresh does. -/
theorem bringUp_of_started {controller : Controller} {identified : Engine}
    (h : engine.wake.identify engine.mode.controller? = (.ok controller, identified))
    (started : (identified.adopt controller).startRefresh controller = .ok (.ok (), after)) :
    engine.bringUp = .ok (.ok ⟨controller, engine.mode.controller?.isNone⟩, after) := by
  unfold bringUp attempt
  simp only [h, started, bind, Except.bind, pure, Except.pure]
  rfl

theorem bringUp_of_unstarted {controller : Controller} {identified : Engine} {error : BringUpError}
    (h : engine.wake.identify engine.mode.controller? = (.ok controller, identified))
    (unstarted : (identified.adopt controller).startRefresh controller =
      .ok (.error error, after)) :
    engine.bringUp = .ok (.error error, after.giveUp engine.mode.controller?.isNone error) := by
  unfold bringUp attempt
  simp only [h, unstarted, bind, Except.bind, pure, Except.pure]
  rfl

theorem startRefresh_of_ok {address : UInt8} {bus : Bus}
    (answered : Bus.handshake address engine.bus = .ok () bus) :
    engine.startRefresh (.character address) =
      .ok (.ok (), (engine.setBus bus).launch (Lcd.setupPayload engine.display.backlight)) := by
  rw [startRefresh, startCharacter_of_ok answered]
  rfl

theorem startRefresh_of_error {address : UInt8} {error : BusError} {bus : Bus}
    (unanswered : Bus.handshake address engine.bus = .error error bus) :
    engine.startRefresh (.character address) =
      .ok (.error (.bus error), engine.setBus bus) := by
  rw [startRefresh, startCharacter_of_error unanswered]
  rfl

theorem startRefresh_bitmap (engine : Engine) (address : UInt8) :
    engine.startRefresh (.bitmap address) = .ok (.ok (), engine.launchPanel) := by
  rw [startRefresh, startBitmap_eq]
  rfl

/-- A bring-up has a result, and it is one of those listed. -/
theorem exists_bringUp (engine : Engine) :
    ∃ result after, engine.bringUp = .ok (result, after) ∧ engine.BroughtUp result after := by
  obtain ⟨controller, identified, named, step⟩ | ⟨error, stopped, step, unknown, result⟩ :=
    engine.identify_cases
  · cases controller with
    | character address =>
      cases answer : Bus.handshake address (identified.adopt (.character address)).bus with
      | ok _ bus =>
        exact ⟨_, _, bringUp_of_started step (startRefresh_of_ok answer),
          .character named answer⟩
      | error error bus =>
        exact ⟨_, _, bringUp_of_unstarted step (startRefresh_of_error answer),
          .unanswered named answer⟩
    | bitmap address =>
      exact ⟨_, _, bringUp_of_started step (startRefresh_bitmap _ address), .bitmap named⟩
  · have first : engine.mode.controller?.isNone = true := by
      rw [mode_eq_unknown_iff.1 unknown]
      rfl
    refine ⟨_, _, bringUp_of_stopped step, ?_⟩
    rw [first]
    exact result

/-- What a bring-up has come to is one of the results that are listed. -/
theorem BroughtUp.of_bringUp {result : Except BringUpError PowerOn}
    (given : engine.bringUp = .ok (result, after)) : engine.BroughtUp result after := by
  obtain ⟨_, _, given', broughtUp⟩ := engine.exists_bringUp
  obtain ⟨rfl, rfl⟩ := Prod.mk.inj (Except.ok.inj (given.symm.trans given'))
  exact broughtUp

/-! ## Bus events and bus errors -/

/-- Without a display there is no transaction to open. -/
theorem onBusEvent_of_unknown (unknown : engine.mode = .unknown) : engine.onBusEvent = engine := by
  rw [onBusEvent, unknown]
  rfl

/-- The engine that has noted a bus error. -/
def noted (engine : Engine) : Engine :=
  (engine.modifyBoard Board.clearErrors).recordFailure engine.errorKind

/-- The engine that has aborted its transfer and is about to bring its display up again. -/
def aborted (engine : Engine) : Engine :=
  ({ engine.noted with
    statistics.recoveries := engine.noted.statistics.recoveries + 1 }.modifyBoard
      fun board => board.reset.stopTransfer).cancelWatchdog

/-- The results of a bus error. -/
inductive Recovered (engine : Engine) : Engine → Prop where
  /-- There is no display to bring up. -/
  | unknown : engine.mode = .unknown → Recovered engine engine.noted
  | broughtUp {controller : Controller} {result : Except BringUpError PowerOn} {after : Engine} :
      engine.mode.controller? = some controller → engine.aborted.BroughtUp result after →
      Recovered engine after

theorem onBusError_of_unknown (unknown : engine.mode = .unknown) :
    engine.onBusError = .ok engine.noted := by
  have noted : engine.noted.mode = .unknown := unknown
  unfold onBusError
  simp only
  split
  case h_1 => rfl
  case h_2 known => exact absurd noted known

theorem Recovered.of_unknown (h : engine.Recovered after) (unknown : engine.mode = .unknown) :
    after = engine.noted := by
  cases h with
  | unknown => rfl
  | broughtUp known =>
    rw [unknown] at known
    cases known

/-- A known display is brought up again, and the bus error ends as that does. -/
theorem onBusError_of_known {controller : Controller} {result : Except BringUpError PowerOn}
    (known : engine.mode.controller? = some controller)
    (attempted : engine.aborted.bringUp = .ok (result, after)) : engine.onBusError = .ok after := by
  unfold onBusError
  simp only
  split
  case h_1 unknown =>
    have noted : engine.mode = .unknown := unknown
    rw [noted] at known
    cases known
  case h_2 =>
    show engine.aborted.bringUp.bind _ = _
    rw [attempted]
    rfl

/-- A bus error has a result, and it is one of those listed. -/
theorem exists_onBusError (engine : Engine) :
    ∃ after, engine.onBusError = .ok after ∧ engine.Recovered after := by
  cases mode : engine.mode.controller? with
  | none =>
    have unknown : engine.mode = .unknown := mode_eq_unknown_iff.2 mode
    exact ⟨engine.noted, onBusError_of_unknown unknown, .unknown unknown⟩
  | some controller =>
    obtain ⟨result, after, attempted, broughtUp⟩ := engine.aborted.exists_bringUp
    exact ⟨after, onBusError_of_known mode attempted, .broughtUp mode broughtUp⟩

end StatusDisplay.Engine
