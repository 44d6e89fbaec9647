import StatusDisplay.Proofs.Bus.Detection
import StatusDisplay.Proofs.Engine.Standing
import StatusDisplay.Proofs.Run.Basic

/-!
# Where a known display was found

A driver knows a display only because a scan found it, so its address is one of those that the
configuration names, and its kind is the one that goes with the address.
-/

namespace StatusDisplay

namespace Engine

variable {engine after : Engine}

/-- A known display is one that the configuration leads to. -/
def Found (engine : Engine) : Prop :=
  ∀ controller, engine.mode.controller? = some controller → engine.config.Names controller

theorem Identified.names {controller : Controller} (h : engine.Identified controller after)
    (found : engine.Found) : engine.config.Names controller := by
  cases h with
  | known mode => exact found controller mode
  | found _ _ scan => exact Bus.names_of_detect scan

/-- An engine that knows no display, or one that the configuration leads to. -/
theorem found_of_mode (same : engine.SameSetup after) {controller : Controller}
    (names : engine.config.Names controller)
    (mode : after.mode = .unknown ∨ after.mode = .ofController controller) : after.Found := by
  intro other known
  rcases mode with mode | mode
  · rw [mode] at known
    cases known
  · rw [mode, Mode.controller?_ofController] at known
    cases known
    rw [same.config]
    exact names

theorem found_of_unknown (mode : engine.mode = .unknown) : engine.Found := by
  intro controller known
  rw [mode] at known
  cases known

theorem BroughtUp.found {result : Except BringUpError PowerOn} (h : engine.BroughtUp result after)
    (found : engine.Found) : after.Found := by
  have same := h.sameSetup
  cases h with
  | floating => exact found_of_unknown (frame_giveUp _ true _).mode
  | undetected => exact found_of_unknown (frame_giveUp _ true _).mode
  | @unanswered address identified error bus named =>
    have givenUp := (frame_giveUp ((identified.adopt (.character address)).setBus bus)
      engine.mode.controller?.isNone (.bus error)).mode
    have adopted := (frame_adopt identified (.character address)).mode
    refine found_of_mode same (named.names found) ?_
    rw [givenUp]
    split
    · exact .inl rfl
    · exact .inr adopted
  | @character address identified bus named =>
    have launched := (frame_launch ((identified.adopt (.character address)).setBus bus)
      (Lcd.setupPayload (identified.adopt (.character address)).display.backlight)).mode
    have adopted := (frame_adopt identified (.character address)).mode
    exact found_of_mode same (named.names found) (.inr (launched.trans adopted))
  | @bitmap address identified named =>
    exact found_of_mode same (named.names found) (.inr (mode_launchPanel identified address))

/-- No event makes up a display. -/
theorem Stepped.found {event : Event} (stepped : engine.Stepped event after)
    (found : engine.Found) : after.Found := by
  have same := stepped.sameSetup
  have kept (controller? : after.mode.controller? = engine.mode.controller?) : after.Found := by
    intro controller known
    rw [controller?] at known
    rw [same.config]
    exact found controller known
  cases stepped with
  | broughtUp result => exact result.found found
  | busEvent => exact kept (congrArg Mode.controller? (Frame.onBusEvent engine).mode)
  | recovered result =>
    cases result with
    | unknown => exact kept (congrArg Mode.controller? engine.frame_noted.mode)
    | broughtUp _ result =>
      refine result.found fun controller known => ?_
      rw [engine.frame_aborted.mode] at known
      rw [engine.frame_aborted.config]
      exact found controller known
  | transferDone result => exact kept result.controller?
  | world => exact kept rfl
  | foreground => exact kept rfl

end Engine

namespace Reachable

variable {engine : Engine}

/-- The configuration of an engine was accepted, and what it knows was found with it. -/
theorem valid_and_found (h : Reachable engine) :
    engine.config.validate = .ok () ∧ engine.Found := by
  obtain ⟨config, display, world, start, steps, new, run⟩ := h
  have start_found : start.config.validate = .ok () ∧ start.Found := by
    have valid := Engine.valid_of_ofConfig new
    obtain rfl := Engine.eq_of_ofConfig new
    exact ⟨valid, Engine.found_of_unknown rfl⟩
  refine run.invariant (P := fun engine => engine.config.validate = .ok () ∧ engine.Found)
    start_found fun step kept => ?_
  rw [step.stepped.sameSetup.config]
  exact ⟨kept.1, step.stepped.found kept.2⟩

/-- The address byte of a known display names its address. -/
theorem addressOf_known (h : Reachable engine) {controller : Controller}
    (known : engine.mode.controller? = some controller) :
    addressOf (controller.address <<< 1) = controller.address :=
  Config.short_of_valid h.valid_and_found.1 _ (h.valid_and_found.2 controller known).address

end Reachable

end StatusDisplay
