import StatusDisplay.Proofs.Engine.Retry
import StatusDisplay.Proofs.Run.Addressing
import StatusDisplay.Proofs.Run.FirstBoot
import StatusDisplay.Proofs.Run.Foreground
import StatusDisplay.Proofs.Run.Forgetting

/-!
# A failed first boot leaves nothing behind

As long as no display was found, a driver can be brought up as often as one likes, with interrupts and
changes of the world in between. Each time it fails it is parked again, and without flags. So the next
bring-up is that of a driver that has just been built, on a board that is new.
-/

namespace StatusDisplay

/-- Whether an event lays down what the bus master shows: status words, or flags. -/
def Event.injects : Event → Bool
  | world next raised => !next.statusWords.isEmpty || raised != .none
  | _ => false

namespace Engine

variable {engine after first second : Engine} {event : Event}

theorem exists_ofConfig {config : Config} (valid : config.validate = .ok ()) (display : Display)
    (board : Board) : ∃ engine, Engine.ofConfig config display board = .ok engine := by
  unfold ofConfig
  rw [valid]
  exact ⟨_, rfl⟩

/-! ## Without a display -/

/-- An engine that has not touched its board, on one that is calm. -/
theorem unbooted_ofConfig {config : Config} {display : Display} {board : Board}
    (new : Engine.ofConfig config display board = .ok engine) (calm : board.Calm) :
    engine.Unbooted := by
  obtain rfl := eq_of_ofConfig new
  exact ⟨rfl, calm, rfl, rfl, rfl⟩

/-- No step forgets a display. -/
theorem Stepped.unknown_before (stepped : engine.Stepped event after)
    (unknown : after.mode = .unknown) : engine.mode = .unknown := by
  rw [mode_eq_unknown_iff] at unknown ⊢
  cases known : engine.mode.controller? with
  | none => rfl
  | some controller =>
    rw [stepped.controller?_of_known known] at unknown
    cases unknown

/-- As long as no display is found, a step leaves no flags behind. -/
theorem Stepped.calm (stepped : engine.Stepped event after) (quiet : event.injects = false)
    (unknown : after.mode = .unknown) (calm : engine.board.Calm) : after.board.Calm := by
  have before := stepped.unknown_before unknown
  cases stepped with
  | broughtUp result => exact result.calm unknown calm
  | busEvent =>
    rw [onBusEvent_of_unknown before]
    exact calm
  | recovered result =>
    rw [result.of_unknown before]
    exact calm.clearErrors
  | transferDone result =>
    rw [result.of_unknown before]
    exact ⟨calm.flags, calm.words⟩
  | world world raised =>
    rw [Event.injects, Bool.or_eq_false_iff] at quiet
    have words : world.statusWords = [] := by simpa using quiet.1
    have flags : raised = .none := by simpa using quiet.2
    refine ⟨?_, words⟩
    show engine.board.master.flags ||| raised = .none
    rw [calm.flags, flags]
    rfl
  | foreground => exact ⟨calm.flags, calm.words⟩

/-- As long as no display is found, nothing is recovered. -/
theorem Stepped.recoveries (stepped : engine.Stepped event after) (unknown : after.mode = .unknown) :
    after.statistics.recoveries = engine.statistics.recoveries := by
  have before := stepped.unknown_before unknown
  cases stepped with
  | @broughtUp result _ broughtUp =>
    rw [broughtUp.statistics]
    cases result <;> rfl
  | busEvent => rw [onBusEvent_of_unknown before]
  | recovered result =>
    rw [result.of_unknown before]
    rfl
  | transferDone result =>
    rw [result.of_unknown before]
    rfl
  | world => rfl
  | foreground => rfl

/-- As long as no display is found, it might never have been looked for. -/
theorem Stepped.unbooted (stepped : engine.Stepped event after) (quiet : event.injects = false)
    (unknown : after.mode = .unknown) (h : engine.Unbooted) : after.Unbooted where
  mode := unknown
  calm := stepped.calm quiet unknown h.calm
  recoveries := (stepped.recoveries unknown).trans h.recoveries
  timed := by rw [stepped.sameSetup.timeout, stepped.sameSetup.config, h.timed]
  patience := by rw [stepped.patience, stepped.sameSetup.config, h.patience]

/-- A bring-up that finds no display parks the engine, and it stays parked until one is found. -/
theorem Stepped.parked (stepped : engine.Stepped event after) (unknown : after.mode = .unknown)
    (timed : engine.watchdog.timeout = engine.config.watchdogTimeout)
    (parked : event = .bringUp ∨ engine.Parked) : after.Parked := by
  obtain rfl | parked := parked
  · cases stepped with
    | broughtUp result => exact parked_of_unknown (result.standing timed) unknown
    | foreground other => cases other
  · exact parked_of_unknown (stepped.standing ⟨timed, .inl parked⟩).parked_or_live unknown

end Engine

/-- A run that finds no display, and in which a bring-up was tried. -/
theorem Run.unbooted {engine final : Engine} {steps : List Step} (run : Run engine steps final)
    (quiet : ∀ step ∈ steps, step.event.injects = false) (start : engine.Unbooted)
    (unknown : final.mode = .unknown) : final.Unbooted ∧
      ((∃ step ∈ steps, step.event = .bringUp) → final.Parked) := by
  induction run with
  | nil =>
    refine ⟨start, ?_⟩
    rintro ⟨_, mem, _⟩
    cases mem
  | @snoc steps step _ ih =>
    have earlier : ∀ step ∈ steps, step.event.injects = false := fun step mem =>
      quiet step (List.mem_append_left _ mem)
    obtain ⟨unbooted, parked⟩ := ih earlier (step.stepped.unknown_before unknown)
    refine ⟨step.stepped.unbooted (quiet step (List.mem_concat_self ..)) unknown unbooted, ?_⟩
    rintro ⟨other, mem, event⟩
    -- The last step is itself the bring-up, or the engine was parked by one before it.
    refine step.stepped.parked unknown unbooted.timed ?_
    obtain mem | mem := List.mem_append.1 mem
    · exact .inr (parked ⟨other, mem, event⟩)
    · exact .inl (List.mem_singleton.1 mem ▸ event)

/-! ## The next bring-up -/

namespace Engine

variable {first second after after' : Engine} {result : Except BringUpError PowerOn}

/-- What two bring-ups end with. The failure recorded last is an old one if there was none. -/
structure SameEnd (result : Except BringUpError PowerOn) (after after' : Engine) : Prop where
  activity : after.activity = after'.activity
  mode : after.mode = after'.mode
  watchdog : after.watchdog = after'.watchdog
  alive : after.bus.alive = after'.bus.alive
  recoveries : after.statistics.recoveries = after'.statistics.recoveries
  lastFailure : ∀ error, result = .error error →
    after.statistics.lastFailure = after'.statistics.lastFailure
  /-- Flags and phase of the bus master, transfer channel, lines, alarm and world are the same. -/
  board : ∀ powerOn, result = .ok powerOn → after.board.Alike after'.board
  payload : ∀ powerOn, result = .ok powerOn → after.payload = after'.payload

/-- Whether the watchdog runs is told by whether there is a display. -/
theorem Standing.watchdog_eq (h : first.Standing) (h' : second.Standing)
    (config : first.config = second.config) (mode : first.mode = second.mode) :
    first.watchdog = second.watchdog := by
  have armed (engine : Engine) (standing : engine.Standing) :
      engine.watchdog.armed = engine.mode.controller?.isSome := by
    obtain parked | live := standing.parked_or_live
    · rw [parked.disarmed, parked.mode]
      rfl
    · obtain ⟨controller, known, _⟩ := live.controller
      rw [live.armed, known]
      rfl
  refine Engine.watchdog_eq ?_ ?_
  · rw [h.timed, h'.timed, config]
  · rw [armed first h, armed second h', mode]

namespace SameStart

variable (start : first.SameStart second)
include start

theorem firstPayload_eq (controller : Controller) :
    first.firstPayload controller = second.firstPayload controller := by
  cases controller with
  | character => rw [firstPayload, start.backlight]; rfl
  | bitmap => rw [firstPayload, start.config, start.backlight]; rfl

theorem firstTransfers_eq (result : Except BringUpError PowerOn) :
    first.firstTransfers result = second.firstTransfers result := by
  cases result with
  | error => rfl
  | ok powerOn => rw [firstTransfers, start.firstPayload_eq]; rfl

/-- The calls match, and what is transferred is the same: so the calls are the same. -/
theorem together_bringUp (given : first.bringUp = .ok (result, after))
    (given' : second.bringUp = .ok (result, after')) (left : first.LeftBy after result)
    (left' : second.LeftBy after' result)
    (matched : first.board.Matched second.board after.board after'.board) :
    first.board.Together second.board after.board after'.board := by
  obtain ⟨calls, calls', exchange, exchange', same⟩ := matched
  obtain ⟨_, given, transfers⟩ := left.transfers given
  obtain ⟨_, given', transfers'⟩ := left'.transfers given'
  obtain rfl := exchange.unique given
  obtain rfl := exchange'.unique given'
  rw [← start.firstTransfers_eq] at transfers'
  obtain rfl := Call.eq_of_sansBytes same (transfers.trans transfers'.symm)
  exact ⟨calls, exchange, exchange'⟩

/-- Bring-ups that begin alike and have the same result end alike. -/
theorem sameEnd (broughtUp : first.BroughtUp result after)
    (broughtUp' : second.BroughtUp result after') (alive : after.bus.alive = after'.bus.alive)
    (board : ∀ powerOn, result = .ok powerOn → after.board.Alike after'.board) :
    SameEnd result after after' := by
  have left := broughtUp.leftBy start.unbooted.mode
  have left' := broughtUp'.leftBy start.unbooted'.mode
  obtain ⟨activity, mode⟩ := left.same left'
  have standing : after.Standing :=
    (Stepped.broughtUp broughtUp).standing ⟨start.unbooted.timed, .inl start.parked⟩
  have standing' : after'.Standing :=
    (Stepped.broughtUp broughtUp').standing ⟨start.unbooted'.timed, .inl start.parked'⟩
  have config : after.config = after'.config := by
    rw [broughtUp.sameSetup.config, broughtUp'.sameSetup.config, start.config]
  have recoveries := start.unbooted.recoveries.trans start.unbooted'.recoveries.symm
  refine ⟨activity, mode, standing.watchdog_eq standing' config mode, alive, ?_, ?_, board, ?_⟩
  · rw [broughtUp.statistics, broughtUp'.statistics]
    cases result <;> exact recoveries
  · rintro error rfl
    rw [broughtUp.statistics, broughtUp'.statistics]
  · rintro powerOn rfl
    rw [left.payload, left'.payload, start.firstPayload_eq]

end SameStart

end Engine

/-- A new engine on a new board, in the world that a driver without a display has been left in. -/
theorem Run.exists_sameStart {config : Config} {display : Display} {board : Board}
    {start engine : Engine} {steps : List Step} (run : Run start steps engine)
    (new : Engine.ofConfig config display board = .ok start) (calm : board.Calm)
    (quiet : ∀ step ∈ steps, step.event.injects = false)
    (tried : ∃ step ∈ steps, step.event = .bringUp) (unknown : engine.mode = .unknown)
    {other : Display} (backlight : other.backlight = engine.display.backlight) :
    ∃ fresh, Engine.ofConfig config other { world := engine.board.world } = .ok fresh ∧
      engine.SameStart fresh := by
  obtain ⟨unbooted, parked⟩ := run.unbooted quiet (Engine.unbooted_ofConfig new calm) unknown
  have same : engine.config = config := by
    refine run.invariant (P := fun engine => engine.config = config) ?_ fun step kept => ?_
    · obtain rfl := Engine.eq_of_ofConfig new
      rfl
    · exact step.stepped.sameSetup.config.trans kept
  obtain ⟨fresh, made⟩ := Engine.exists_ofConfig (Engine.valid_of_ofConfig new) other
    { world := engine.board.world }
  have unbooted' := Engine.unbooted_ofConfig made ⟨rfl, unbooted.calm.words⟩
  have standing' := (Engine.standing_ofConfig made).2
  refine ⟨fresh, made, unbooted, unbooted', parked tried,
    Engine.parked_of_unknown standing'.parked_or_live unbooted'.mode, ?_, ?_, ?_⟩
  all_goals obtain rfl := Engine.eq_of_ofConfig made
  · exact same
  · exact backlight.symm
  · rfl

/--
**A failed first boot leaves nothing behind.** Let anything happen to a new engine, as long as no status
words are laid down and no flags are raised, and let a bring-up have been tried without a display being
found. Then the next bring-up is that of an engine that was just built, with the same configuration and
backlight, on a new board in the world as it is now: it has the same result, makes the same calls, and
ends in the same way. If its search finds nothing the text stays, and if it succeeds the text is blank.
-/
theorem first_boot_repeats {config : Config} {display other : Display} {board : Board}
    {start engine : Engine} {steps : List Step}
    (new : Engine.ofConfig config display board = .ok start) (calm : board.Calm)
    (run : Run start steps engine) (quiet : ∀ step ∈ steps, step.event.injects = false)
    (tried : ∃ step ∈ steps, step.event = .bringUp) (unknown : engine.mode = .unknown)
    (backlight : other.backlight = engine.display.backlight) :
    ∃ fresh result after after' calls,
      Engine.ofConfig config other { world := engine.board.world } = .ok fresh ∧
      engine.bringUp = .ok (result, after) ∧ fresh.bringUp = .ok (result, after') ∧
      Exchange engine.board calls after.board ∧ Exchange fresh.board calls after'.board ∧
      Engine.SameEnd result after after' ∧
      (∀ error, result = .error error → engine.finds = false →
        after.display.text = engine.display.text) ∧
      (∀ powerOn, result = .ok powerOn → after.display.text = .empty) := by
  obtain ⟨fresh, made, begins⟩ := run.exists_sameStart new calm quiet tried unknown backlight
  obtain ⟨result, after, after', given, given', matched, alive, board⟩ := begins.bringsUpLike
  have broughtUp := Engine.BroughtUp.of_bringUp given
  have broughtUp' := Engine.BroughtUp.of_bringUp given'
  have left := broughtUp.leftBy begins.unbooted.mode
  have left' := broughtUp'.leftBy begins.unbooted'.mode
  obtain ⟨calls, exchange, exchange'⟩ := begins.together_bringUp given given' left left' matched
  refine ⟨fresh, result, after, after', calls, made, given, given', exchange, exchange',
    begins.sameEnd broughtUp broughtUp' alive board, ?_, ?_⟩
  · intro _ _ missed
    rw [broughtUp.display, Engine.broughtDisplay, missed]
    rfl
  · rintro powerOn rfl
    exact left.text

/-- An engine whose display acknowledges its address and then holds the first byte. -/
def heldEngine : Engine where
  config := { lcdRange := ⟨0x27, 0x27⟩ }
  display := {}
  bus := { board := { world := { devices := [0x27], holdBytes := true } }, timeout := 10000 }
  watchdog := { timeout := 200000 }

/-- A bring-up fails, an interrupt comes late, and then the display lets go. -/
def heldEvents : List Event :=
  [.bringUp, .interrupt .busError, .world { devices := [0x27] } .none]

/--
The first bring-up stops within a transaction and leaves the bus dead. The second one finds the display
as one on a new board does.
-/
theorem first_boot_repeats_held :
    let engine := heldEngine.nextAll heldEvents
    engine.board.master.phase = .data ∧ engine.bus.alive = false ∧ engine.activity = .failed ∧
      ∃ fresh after after' calls,
        Engine.ofConfig heldEngine.config {} { world := { devices := [0x27] } } = .ok fresh ∧
        engine.bringUp = .ok (.ok ⟨.character 0x27, true⟩, after) ∧
        fresh.bringUp = .ok (.ok ⟨.character 0x27, true⟩, after') ∧
        Exchange engine.board calls after.board ∧ Exchange fresh.board calls after'.board ∧
        after.activity = after'.activity ∧ after.mode = after'.mode := by
  intro engine
  have new : Engine.ofConfig heldEngine.config {} heldEngine.board = .ok heldEngine := rfl
  have run : Run heldEngine (heldEngine.steps heldEvents) engine := run_steps _ _
  have left : (engine.board.master.phase, engine.bus.alive, engine.activity, engine.mode,
      engine.board.world) = (.data, false, .failed, .unknown, { devices := [0x27] }) := by
    decide +kernel
  have boots : (engine.bringUp.toOption.map fun outcome => outcome.1.toOption) =
      some (some ⟨.character 0x27, true⟩) := by
    decide +kernel
  have unlit : ({} : Display).backlight = engine.display.backlight := by decide +kernel
  simp only [Prod.mk.injEq] at left
  obtain ⟨phase, dead, failed, unknown, world⟩ := left
  obtain ⟨fresh, result, after, after', calls, made, given, given', exchange, exchange', ends, _⟩ :=
    first_boot_repeats new ⟨rfl, rfl⟩ run (by decide +kernel) (by decide +kernel) unknown unlit
  rw [world] at made
  rw [given] at boots
  have found := Option.some.inj boots
  cases result with
  | error => cases found
  | ok powerOn =>
    obtain rfl := Option.some.inj found
    exact ⟨phase, dead, failed, fresh, after, after', calls, made, given, given', exchange,
      exchange', ends.activity, ends.mode⟩

end StatusDisplay
