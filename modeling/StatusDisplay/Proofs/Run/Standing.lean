import StatusDisplay.Proofs.Engine.Standing
import StatusDisplay.Proofs.Run.Basic

/-!
# A display is in service or switched off

A new engine is parked, and every event leaves an engine parked or live. So whatever happens, in
any order and with any faults, the driver never stands between the two: a display that was found
keeps its watchdog, and a display that was not found leaves nothing switched on.
-/

namespace StatusDisplay

namespace Engine

/-- Parked or live, with a watchdog that is set for the configured time. -/
structure Standing (engine : Engine) : Prop where
  timed : engine.watchdog.timeout = engine.config.watchdogTimeout
  parked_or_live : engine.Parked ∨ engine.Live

variable {engine after : Engine}

/-- A valid configuration makes an engine that is parked. -/
theorem standing_ofConfig {config : Config} {display : Display} {world : World}
    (new : Engine.ofConfig config display { world } = .ok engine) :
    engine.config = config ∧ engine.Standing := by
  obtain rfl := eq_of_ofConfig new
  refine ⟨rfl, rfl, .inl ⟨rfl, ?_, rfl, rfl, rfl, rfl, rfl, ?_⟩⟩
  · intro irq
    cases irq <;> rfl
  · intro line
    cases line <;> rfl

theorem standing_changeWorld (h : engine.Standing) (world : World) (raised : Status) :
    (engine.modifyBoard (·.changeWorld world raised)).Standing := by
  refine ⟨h.timed, ?_⟩
  obtain parked | live := h.parked_or_live
  · exact .inl { parked with }
  · obtain ⟨controller, known, serving, armed⟩ := live_iff.1 live
    exact .inr (live_iff.2 ⟨controller, known, serving, armed⟩)

theorem standing_display (h : engine.Standing) (display : Display) :
    { engine with display }.Standing := by
  refine ⟨h.timed, ?_⟩
  obtain parked | live := h.parked_or_live
  · exact .inl { parked with }
  · obtain ⟨controller, known, serving, armed⟩ := live_iff.1 live
    exact .inr (live_iff.2 ⟨controller, known, serving, armed⟩)

/-- Every event leaves the engine parked or live. -/
theorem Stepped.standing {event : Event} (stepped : engine.Stepped event after)
    (h : engine.Standing) : after.Standing := by
  have same := stepped.sameSetup
  have timed : after.watchdog.timeout = after.config.watchdogTimeout := by
    rw [same.timeout, same.config, h.timed]
  cases stepped with
  | broughtUp result => exact ⟨timed, result.standing h.timed⟩
  | busEvent => exact ⟨timed, standing_onBusEvent h.parked_or_live⟩
  | recovered result => exact ⟨timed, result.standing h.parked_or_live h.timed⟩
  | transferDone result => exact ⟨timed, result.standing h.parked_or_live h.timed⟩
  | world world raised => exact standing_changeWorld h world raised
  | foreground => exact standing_display h _

end Engine

namespace Reachable

variable {engine : Engine}

theorem standing (h : Reachable engine) : engine.Standing := by
  obtain ⟨config, display, world, start, steps, new, run⟩ := h
  exact run.invariant (P := Engine.Standing) (Engine.standing_ofConfig new).2
    fun step kept => step.stepped.standing kept

/-- A driver that knows a display is live. -/
theorem live (h : Reachable engine) {controller : Controller}
    (known : engine.mode.controller? = some controller) : engine.Live := by
  refine h.standing.parked_or_live.resolve_left fun parked => ?_
  rw [parked.mode] at known
  cases known

theorem of_run (h : Reachable engine) {steps : List Step} {final : Engine}
    (run : Run engine steps final) : Reachable final := by
  obtain ⟨config, display, world, start, earlier, new, before⟩ := h
  exact ⟨config, display, world, start, _, new, before.append run⟩

end Reachable

/--
**Whatever happens to a new engine, it is either parked or live, and never both.** The events are
bring-ups, interrupts, changes of the world and the foreground's writes, in any order; each of them
has a result.
-/
theorem parked_xor_live {config : Config} {display : Display} {world : World} {engine : Engine}
    (new : Engine.ofConfig config display { world } = .ok engine) :
    (∀ events, ∃ steps final, Run engine steps final ∧ steps.map Step.event = events) ∧
      ∀ steps final, Run engine steps final → final.config = config ∧
        (final.Parked ∧ ¬ final.Live ∨ final.Live ∧ ¬ final.Parked) := by
  obtain ⟨same, standing⟩ := Engine.standing_ofConfig new
  refine ⟨exists_run engine, ?_⟩
  intro steps final run
  have kept : final.config = config ∧ final.Standing := by
    refine run.invariant (P := fun engine => engine.config = config ∧ engine.Standing)
      ⟨same, standing⟩ fun step h => ?_
    exact ⟨step.stepped.sameSetup.config.trans h.1, step.stepped.standing h.2⟩
  refine ⟨kept.1, ?_⟩
  obtain parked | live := kept.2.parked_or_live
  · exact .inl ⟨parked, fun live => live.not_parked parked⟩
  · exact .inr ⟨live, live.not_parked⟩

/-- The default configuration is valid, and its engine starts parked. -/
theorem parked_xor_live_default : ∃ engine,
    Engine.ofConfig {} {} { world := { devices := [0x27] } } = .ok engine ∧
      ∀ steps final, Run engine steps final → final.config = {} ∧
        (final.Parked ∧ ¬ final.Live ∨ final.Live ∧ ¬ final.Parked) :=
  ⟨_, rfl, (parked_xor_live rfl).2⟩

end StatusDisplay
