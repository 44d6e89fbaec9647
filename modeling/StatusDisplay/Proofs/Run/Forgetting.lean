import StatusDisplay.Proofs.Engine.Present
import StatusDisplay.Proofs.Run.Standing
import StatusDisplay.Proofs.Sync.Character

/-!
# A bus error forgets how it came about

Two drivers may have gone through the most different things; if they know the same display, with the
same configuration and backlight, and now find the same world, then a bus error makes both do the
same and ends in the same way. What no bus error gets rid of is the old payload: it is only replaced
by the payload of a new transfer.
-/

namespace StatusDisplay

namespace Engine

variable {engine after : Engine}

/-- No event changes the longest wait for the bus. -/
theorem Stepped.patience {event : Event} (stepped : engine.Stepped event after) :
    after.bus.timeout = engine.bus.timeout := by
  cases stepped with
  | broughtUp result => exact result.patience
  | busEvent =>
    unfold onBusEvent
    split
    case h_1 => rfl
    case h_2 => rfl
  | recovered result =>
    cases result with
    | unknown => rfl
    | broughtUp _ result => exact result.patience
  | transferDone result =>
    cases result with
    | unknown => rfl
    | frame => rfl
    | row => rfl
    | reopened _ closed => exact (Bus.isTraffic_close.of_ok closed).timeout
    | notClosed _ stuck => exact (Bus.isTraffic_close.of_error stuck).timeout
  | world => rfl
  | foreground => rfl

end Engine

namespace Reachable

variable {engine : Engine}

/-- A driver waits for the bus as long as its configuration says. -/
theorem patience (h : Reachable engine) : engine.bus.timeout = engine.config.busTimeout := by
  obtain ⟨config, display, world, start, steps, new, run⟩ := h
  have patient : start.bus.timeout = start.config.busTimeout := by
    obtain rfl := Engine.eq_of_ofConfig new
    rfl
  refine run.invariant (P := fun engine => engine.bus.timeout = engine.config.busTimeout) patient
    fun step kept => ?_
  rw [step.stepped.patience, step.stepped.sameSetup.config]
  exact kept

end Reachable

/--
**A bus error forgets how it came about.** Take two drivers in any states that they can get into,
with the same configuration, the same known display and the same backlight, on boards that find
themselves in the same world. A bus error makes both of them remove their own error flags and from
there on make the same calls, with the same answers; the engines and boards they end with differ in
nothing that matters for what comes next. That goes for the payload too if a transfer was started;
if none was, because a character display is silent, each of them keeps the payload that it had.
-/
theorem recovery_forgets {first second : Engine} {controller : Controller}
    (reachable : Reachable first) (reachable' : Reachable second)
    (config : first.config = second.config)
    (known : first.mode.controller? = some controller)
    (known' : second.mode.controller? = some controller)
    (backlight : first.display.backlight = second.display.backlight)
    (world : first.board.world = second.board.world) :
    ∃ first' second' cleared cleared' rest,
      first.onBusError = .ok first' ∧ second.onBusError = .ok second' ∧
      Exchange first.board (.clearErrors cleared :: rest) first'.board ∧
      Exchange second.board (.clearErrors cleared' :: rest) second'.board ∧
      Engine.SameOutcome first second first' second' := by
  have task : Engine.SameTask controller first second := by
    refine ⟨config, ?_, ?_, backlight, known, known'⟩
    · rw [reachable.standing.timed, reachable'.standing.timed, config]
    · rw [reachable.patience, reachable'.patience, config]
  have aborted : first.aborted.board.Alike second.aborted.board := by
    unfold Board.Alike
    rw [(reachable.live known).present_aborted, (reachable'.live known').present_aborted, world]
  obtain ⟨first', second', handled, handled', ⟨calls, exchange, exchange'⟩, outcome⟩ :=
    task.recovers aborted
  exact ⟨first', second', _, _, _, handled, handled', first.exchange_aborted.append exchange,
    second.exchange_aborted.append exchange', outcome⟩

/-- One driver still sends the setup, the other a frame; a bus error takes both to the same point. -/
theorem recovery_forgets_greeted : ∃ first' second',
    greeted.onBusError = .ok first' ∧
      (greeted.next (.interrupt .transferDone)).onBusError = .ok second' ∧
      greeted.payload ≠ (greeted.next (.interrupt .transferDone)).payload ∧
      greeted.SameOutcome (greeted.next (.interrupt .transferDone)) first' second' := by
  let later := greeted.next (.interrupt .transferDone)
  have reachable : Reachable later :=
    reachable_greeted.of_run (run_steps greeted [.interrupt .transferDone])
  have known : greeted.mode.controller? = some (.character 0x27) := by decide +kernel
  have known' : later.mode.controller? = some (.character 0x27) := by decide +kernel
  obtain ⟨first', second', _, _, _, handled, handled', _, _, outcome⟩ :=
    recovery_forgets reachable_greeted reachable (by decide +kernel) known known'
      (by decide +kernel) (by decide +kernel)
  exact ⟨first', second', handled, handled', by decide +kernel, outcome⟩

/-- A driver whose bus gets stuck while the setup is on its way. -/
def stuckEarly : Engine := greeted.nextAll [.world { devices := [0x27], stuck := true } .none]

/-- A driver whose bus gets stuck while a frame is on its way. -/
def stuckLate : Engine :=
  greeted.nextAll [.interrupt .transferDone, .world { devices := [0x27], stuck := true } .none]

/-- **A bus error that starts no transfer leaves the payload as it was.** -/
theorem not_same_payload_of_silent : ¬ ∀ (first second first' second' : Engine)
    (controller : Controller), Reachable first → Reachable second →
      first.config = second.config → first.mode.controller? = some controller →
      second.mode.controller? = some controller →
      first.display.backlight = second.display.backlight →
      first.board.world = second.board.world → first.onBusError = .ok first' →
      second.onBusError = .ok second' → first'.payload = second'.payload := by
  intro promise
  have same := promise stuckEarly stuckLate _ _ (.character 0x27)
    (reachable_greeted.of_run (run_steps _ _)) (reachable_greeted.of_run (run_steps _ _))
    (by decide +kernel) (by decide +kernel) (by decide +kernel) (by decide +kernel)
    (by decide +kernel) (stuckEarly.step_eq_next (.interrupt .busError))
    (stuckLate.step_eq_next (.interrupt .busError))
  revert same
  decide +kernel

end StatusDisplay
