import StatusDisplay.Engine.PowerOn
import StatusDisplay.Proofs.Engine.Calls
import StatusDisplay.Proofs.Engine.Frame

/-!
# Runs

A run is any sequence of events at an engine: bring-ups, interrupts in every order and as often as
they like, changes of the world, and what the foreground does in between. A run keeps a record of
each of its steps, with the engine before and after it. Every sequence of events has a run (`run_steps`),
and what holds at first and survives each step holds at the end (`Run.invariant`).
-/

namespace StatusDisplay

/-- The board after a change of what is outside the driver, which may raise flags. -/
def Board.changeWorld (board : Board) (world : World) (raised : Status) : Board :=
  { board with world, master.flags := board.master.flags ||| raised }

/-- What can happen to an engine. -/
inductive Event where
  /-- The foreground brings the display up. -/
  | bringUp
  | interrupt (irq : Irq)
  /-- Peers, wiring and laid-down answers change, and flags are raised. -/
  | world (world : World) (raised : Status)
  | write (col row minWidth : Nat) (text : String)
  | clear
  | setBacklight (on : Bool)
  deriving DecidableEq, Repr

namespace Event

/-- Whether an event is the foreground's, which only has the display in its hands. -/
def isForeground : Event → Bool
  | write .. | clear | setBacklight _ => true
  | _ => false

/-- Whether an event comes without the foreground: an interrupt, or a change of the world. -/
def isOutside : Event → Bool
  | interrupt _ | world .. => true
  | _ => false

theorem not_isOutside {event : Event} (foreground : event.isForeground = true) :
    event.isOutside = false := by
  cases event <;> first | rfl | cases foreground

end Event

namespace Engine

/-- The engine after an event. -/
def step (engine : Engine) : Event → Except Defect Engine
  | .bringUp => do return (← engine.bringUp).2
  | .interrupt irq => handle irq engine
  | .world world raised => return engine.modifyBoard (·.changeWorld world raised)
  | .write col row minWidth text =>
    return { engine with display := engine.display.write col row minWidth text }
  | .clear => return { engine with display := engine.display.clear }
  | .setBacklight on => return engine.setBacklight on

end Engine

/-- One step of a run. -/
structure Step where
  before : Engine
  event : Event
  after : Engine
  taken : before.step event = .ok after

/-- The steps, taken in this order, lead from the first engine to the second. -/
inductive Run : Engine → List Step → Engine → Prop where
  | nil (engine : Engine) : Run engine [] engine
  | snoc {engine : Engine} {steps : List Step} (step : Step) :
      Run engine steps step.before → Run engine (steps ++ [step]) step.after

/-- A valid configuration makes an engine that has not done anything yet. -/
theorem Engine.eq_of_ofConfig {config : Config} {display : Display} {board : Board}
    {engine : Engine} (new : Engine.ofConfig config display board = .ok engine) :
    engine = {
      config, display
      bus := { board, timeout := config.busTimeout }
      watchdog := { timeout := config.watchdogTimeout } } := by
  unfold ofConfig at new
  cases valid : config.validate with
  | error fault =>
    rw [valid] at new
    cases new
  | ok _ =>
    rw [valid] at new
    cases new
    rfl

theorem Engine.valid_of_ofConfig {config : Config} {display : Display} {board : Board}
    {engine : Engine} (new : Engine.ofConfig config display board = .ok engine) :
    config.validate = .ok () := by
  unfold ofConfig at new
  cases valid : config.validate with
  | error fault =>
    rw [valid] at new
    cases new
  | ok => rfl

/-- A new engine on a fresh board leads to this one. -/
def Reachable (engine : Engine) : Prop :=
  ∃ config display world start steps,
    Engine.ofConfig config display { world } = .ok start ∧ Run start steps engine

namespace Engine

variable {engine after : Engine}

/-- The results of an event. -/
inductive Stepped (engine : Engine) : Event → Engine → Prop where
  | broughtUp {result : Except BringUpError PowerOn} {after : Engine} :
      engine.BroughtUp result after → Stepped engine .bringUp after
  | busEvent : Stepped engine (.interrupt .busEvent) engine.onBusEvent
  | recovered {after : Engine} : engine.Recovered after →
      Stepped engine (.interrupt .busError) after
  | transferDone {after : Engine} : engine.TransferDone after →
      Stepped engine (.interrupt .transferDone) after
  | world (world : World) (raised : Status) :
      Stepped engine (.world world raised) (engine.modifyBoard (·.changeWorld world raised))
  | foreground {event : Event} {display : Display} : event.isForeground = true →
      display.refreshCount = engine.display.refreshCount →
      Stepped engine event { engine with display }

/-- Every event has a result, and it is one of those listed. -/
theorem exists_step (engine : Engine) (event : Event) :
    ∃ after, engine.step event = .ok after ∧ engine.Stepped event after := by
  cases event with
  | bringUp =>
    obtain ⟨result, after, equal, broughtUp⟩ := engine.exists_bringUp
    refine ⟨after, ?_, .broughtUp broughtUp⟩
    rw [step, equal]
    rfl
  | interrupt irq =>
    cases irq with
    | busEvent => exact ⟨_, rfl, .busEvent⟩
    | busError =>
      obtain ⟨after, equal, recovered⟩ := engine.exists_onBusError
      exact ⟨after, equal, .recovered recovered⟩
    | transferDone =>
      obtain ⟨after, equal, done⟩ := engine.exists_onTransferDone
      exact ⟨after, equal, .transferDone done⟩
  | world world raised => exact ⟨_, rfl, .world world raised⟩
  | write col row minWidth text => exact ⟨_, rfl, .foreground rfl rfl⟩
  | clear => exact ⟨_, rfl, .foreground rfl rfl⟩
  | setBacklight on => exact ⟨_, rfl, .foreground rfl rfl⟩

/-- No event changes what an engine was set up with. -/
theorem Stepped.sameSetup {event : Event} (stepped : engine.Stepped event after) :
    engine.SameSetup after := by
  cases stepped with
  | broughtUp result => exact result.sameSetup
  | busEvent => exact (Frame.onBusEvent engine).sameSetup
  | recovered result => exact result.sameSetup
  | transferDone result => exact result.sameSetup
  | world => exact (Frame.modifyBoard engine _).sameSetup
  | foreground => exact ⟨rfl, rfl⟩

end Engine

/-- What a step of a run can be. -/
theorem Step.stepped (step : Step) : step.before.Stepped step.event step.after := by
  obtain ⟨after, equal, stepped⟩ := step.before.exists_step step.event
  rw [step.taken] at equal
  cases equal
  exact stepped

namespace Run

variable {engine final : Engine} {steps : List Step}

/-- What holds at first and survives every step of a kind holds after a run of such steps. -/
theorem invariant_of_forall {P : Engine → Prop} {Q : Step → Prop} (run : Run engine steps final)
    (all : ∀ step ∈ steps, Q step) (start : P engine)
    (step : ∀ step : Step, Q step → P step.before → P step.after) : P final := by
  induction run with
  | nil => exact start
  | @snoc steps next _ ih =>
    have earlier : ∀ step ∈ steps, Q step := fun step mem => all step (List.mem_append_left _ mem)
    exact step next (all next (List.mem_concat_self ..)) (ih earlier)

/-- What holds at first and survives every step holds after a run. -/
theorem invariant {P : Engine → Prop} (run : Run engine steps final) (start : P engine)
    (step : ∀ step : Step, P step.before → P step.after) : P final :=
  run.invariant_of_forall (Q := fun _ => True) (fun _ _ => trivial) start fun next _ => step next

theorem append {middle : Engine} {more : List Step} (run : Run engine steps middle)
    (run' : Run middle more final) : Run engine (steps ++ more) final := by
  induction run' with
  | nil => rw [List.append_nil]; exact run
  | snoc next _ ih => rw [← List.append_assoc]; exact .snoc next ih

/-- A run may begin with a step. -/
theorem cons (step : Step) (run : Run step.after steps final) :
    Run step.before (step :: steps) final :=
  append (.snoc step (.nil step.before)) run

end Run

/-! ## The run of a sequence of events -/

namespace Engine

/-- The engine after an event; no event meets a defect. -/
def next (engine : Engine) (event : Event) : Engine :=
  match engine.step event with
  | .ok after => after
  | .error _ => engine

theorem step_eq_next (engine : Engine) (event : Event) :
    engine.step event = .ok (engine.next event) := by
  obtain ⟨after, equal, _⟩ := engine.exists_step event
  rw [next, equal]

/-- The steps of an engine to which these events happen. -/
def steps (engine : Engine) : List Event → List Step
  | [] => []
  | event :: events =>
    ⟨engine, event, engine.next event, engine.step_eq_next event⟩ :: (engine.next event).steps events

/-- The engine to which all these events have happened. -/
def nextAll (engine : Engine) (events : List Event) : Engine := events.foldl next engine

@[simp] theorem map_event_steps (engine : Engine) (events : List Event) :
    (engine.steps events).map Step.event = events := by
  induction events generalizing engine with
  | nil => rfl
  | cons event events ih => rw [steps, List.map_cons, ih]

theorem steps_append (engine : Engine) (events more : List Event) :
    engine.steps (events ++ more) = engine.steps events ++ (engine.nextAll events).steps more := by
  induction events generalizing engine with
  | nil => rfl
  | cons event events ih => exact congrArg (_ :: ·) (ih _)

end Engine

/-- Whatever happens to an engine makes a run. -/
theorem run_steps (engine : Engine) (events : List Event) :
    Run engine (engine.steps events) (engine.nextAll events) := by
  induction events generalizing engine with
  | nil => exact .nil engine
  | cons event events ih => exact .cons ⟨_, event, _, engine.step_eq_next event⟩ (ih _)

theorem exists_run (engine : Engine) (events : List Event) :
    ∃ steps final, Run engine steps final ∧ steps.map Step.event = events :=
  ⟨_, _, run_steps engine events, engine.map_event_steps events⟩

/-! ## Steps without the foreground -/

namespace Step

/-- The end of a transfer is only told while one is running. -/
def Prompt (step : Step) : Prop :=
  step.event = .interrupt .transferDone → step.before.activity = .inFlight

/-- The foreground leaves the display alone, and the end of a transfer is told of a running one. -/
def Undisturbed (step : Step) : Prop := step.event.isOutside = true ∧ step.Prompt

instance : DecidablePred Prompt := fun step =>
  inferInstanceAs (Decidable (step.event = _ → step.before.activity = _))

instance : DecidablePred Undisturbed := fun step =>
  inferInstanceAs (Decidable (step.event.isOutside = true ∧ step.Prompt))

theorem Undisturbed.inside {step : Step} (h : step.Undisturbed) :
    step.event.isForeground = false := by
  apply Bool.eq_false_iff.2
  intro foreground
  exact absurd (h.1.symm.trans (Event.not_isOutside foreground)) (by decide)

end Step

end StatusDisplay
