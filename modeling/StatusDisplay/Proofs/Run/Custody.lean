import StatusDisplay.Proofs.Engine.Custody
import StatusDisplay.Proofs.Run.Standing

/-!
# The lines stay in one pair of hands

A driver that is only brought up afresh while it knows no display never has two hands on the lines:
whatever happens to it, at every point of its trace the lines are worked by hand with the bus master
off the bus, or they are the bus master's. That is said of the trace and not of the states between
two steps, so it covers what happens within a step.
-/

namespace StatusDisplay

/-- The display is only brought up by the foreground while none is known. -/
def Step.Fresh (step : Step) : Prop := step.event = .bringUp → step.before.mode = .unknown

instance : DecidablePred Step.Fresh := fun step =>
  inferInstanceAs (Decidable (step.event = _ → step.before.mode = _))

/-- Calls that do not reach the bus: flags are removed, and the transfer channel is stopped. -/
def Call.isHousekeeping : Call → Bool
  | .clearErrors _ | .stopTransfer => true
  | _ => false

/-- Everything done to the board so far kept its lines in one pair of hands. -/
structure Board.WellKept (board : Board) : Prop where
  settings : board.settings = Settings.initial.afterAll board.trace.reverse
  keeps : Settings.initial.Keeps board.trace.reverse

namespace Board.WellKept

variable {board after : Board} {earlier later : List Call}

/-- A board that nothing was done to. -/
theorem new (world : World) : ({ world } : Board).WellKept where
  settings := rfl
  keeps := by
    have rest : Settings.initial.AtRest := by
      refine ⟨rfl, rfl, fun line => ?_⟩
      cases line <;> rfl
    exact rest.orderly

theorem of_keeps (h : board.WellKept) (kept : board.Keeps after) : after.WellKept := by
  obtain ⟨calls, exchange, keeps⟩ := kept
  have trace : after.trace.reverse = board.trace.reverse ++ calls := by
    rw [exchange.trace_eq, List.reverse_append, List.reverse_reverse]
  rw [h.settings] at keeps
  constructor
  · rw [exchange.settings_eq, h.settings, trace, Settings.afterAll_append]
  · rw [trace]
    exact Settings.keeps_append.2 ⟨h.keeps, keeps⟩

/-- What the trace tells of each of its points. -/
theorem at_split (h : board.WellKept) (split : board.trace.reverse = earlier ++ later) :
    (Settings.initial.afterAll earlier).Orderly ∧
      ∀ call ∈ later.head?, call.usesMaster = true →
        (Settings.initial.afterAll earlier).Connected := by
  have keeps := h.keeps
  rw [split] at keeps
  exact keeps.at_split

end Board.WellKept

namespace Engine

variable {engine after : Engine}

/-- Every event leaves the lines as they should be, if a display is only brought up afresh. -/
theorem Stepped.wellKept {event : Event} (stepped : engine.Stepped event after)
    (fresh : event = .bringUp → engine.mode = .unknown) (standing : engine.Standing)
    (h : engine.board.WellKept) : after.board.WellKept := by
  cases stepped with
  | broughtUp result =>
    have parked := parked_of_unknown standing.parked_or_live (fresh rfl)
    exact h.of_keeps (result.keeps parked.atRest)
  | busEvent => exact h.of_keeps (keeps_onBusEvent standing.parked_or_live)
  | recovered result => exact h.of_keeps (result.keeps standing.parked_or_live)
  | transferDone result => exact h.of_keeps (result.keeps standing.parked_or_live standing.timed)
  | world => exact ⟨h.settings, h.keeps⟩
  | foreground => exact h

/-- Without a display no interrupt reaches the bus. -/
theorem makes_handle_of_unknown (unknown : engine.mode = .unknown) (irq : Irq) : ∃ after,
    handle irq engine = .ok after ∧
      engine.board.Makes Call.isHousekeeping after.board ∧
      after.board.wire = engine.board.wire ∧ after.mode = .unknown := by
  cases irq with
  | busEvent =>
    refine ⟨engine, ?_, .refl _, rfl, unknown⟩
    rw [handle, onBusEvent_of_unknown unknown]
    rfl
  | busError =>
    exact ⟨engine.noted, onBusError_of_unknown unknown, .of_exchange engine.exchange_noted rfl, rfl,
      unknown⟩
  | transferDone =>
    obtain ⟨after, handled, done⟩ := engine.exists_onTransferDone
    obtain rfl := done.of_unknown unknown
    exact ⟨_, handled, .of_exchange engine.exchange_acknowledged rfl, rfl, unknown⟩

end Engine

/--
**The lines are in one pair of hands at every point of the trace.** Let anything happen to a new
engine, in any order and with any faults, except that the foreground brings the display up while it
knows one. Before and after each call that the driver ever made, a line that is not the bus master's
means that the bus master is off the bus and nothing is transferred, and a line is pulled low only
while it is worked by hand; and each start condition, each byte and each transfer is asked of a bus
master that is powered, enabled and has both lines. While no display is known, an interrupt does no
more than remove error flags and stop the transfer channel.
-/
theorem lines_in_one_pair_of_hands {config : Config} {display : Display} {world : World}
    {engine final : Engine} {steps : List Step}
    (new : Engine.ofConfig config display { world } = .ok engine)
    (run : Run engine steps final) (fresh : ∀ step ∈ steps, step.Fresh) :
    final.board.settings = Settings.initial.afterAll final.board.trace.reverse ∧
      (∀ earlier later, final.board.trace.reverse = earlier ++ later →
        (Settings.initial.afterAll earlier).Orderly ∧
          ∀ call ∈ later.head?, call.usesMaster = true →
            (Settings.initial.afterAll earlier).Connected) ∧
      (final.mode = .unknown → ∀ irq, ∃ after, Engine.handle irq final = .ok after ∧
        final.board.Makes Call.isHousekeeping after.board ∧
        after.board.wire = final.board.wire ∧ after.mode = .unknown) := by
  have standing := (Engine.standing_ofConfig new).2
  have untouched : engine.board.WellKept := by
    obtain rfl := Engine.eq_of_ofConfig new
    exact .new world
  have kept : final.Standing ∧ final.board.WellKept := by
    refine run.invariant_of_forall (P := fun engine => engine.Standing ∧ engine.board.WellKept)
      fresh ⟨standing, untouched⟩ fun step fresh h => ?_
    exact ⟨step.stepped.standing h.1, step.stepped.wellKept fresh h.1 h.2⟩
  refine ⟨kept.2.settings, fun earlier later split => kept.2.at_split split, ?_⟩
  intro unknown irq
  exact Engine.makes_handle_of_unknown unknown irq

/-- A bring-up that finds nothing, one that finds a display, a stuck bus, and a recovery from it. -/
def refoundDisplay : List Event :=
  [.bringUp, .interrupt .busError, .world { devices := [0x27] } .none, .bringUp,
    .interrupt .transferDone, .world { devices := [0x27], stuck := true } .busError,
    .interrupt .busError, .world { devices := [0x27], sdaHeld := true } .none,
    .interrupt .busError]

/-- The lines change hands many times, and are in one pair of hands each time. -/
theorem lines_in_one_pair_of_hands_refound : ∃ engine,
    Engine.ofConfig {} {} {} = .ok engine ∧
      ∀ earlier later, (engine.nextAll refoundDisplay).board.trace.reverse = earlier ++ later →
        (Settings.initial.afterAll earlier).Orderly := by
  obtain ⟨engine, new⟩ : ∃ engine, Engine.ofConfig {} {} {} = .ok engine := ⟨_, rfl⟩
  have fresh : ∀ step ∈ engine.steps refoundDisplay, step.Fresh := by
    obtain rfl := Engine.eq_of_ofConfig new
    decide +kernel
  have kept := lines_in_one_pair_of_hands new (run_steps engine refoundDisplay) fresh
  exact ⟨engine, new, fun earlier later split => (kept.2.1 earlier later split).1⟩

end StatusDisplay
