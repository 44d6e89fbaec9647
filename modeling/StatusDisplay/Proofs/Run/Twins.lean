import StatusDisplay.Proofs.Engine.Twins
import StatusDisplay.Proofs.Run.Addressing
import StatusDisplay.Proofs.Run.Timeline

/-!
# Runs that look the same from the bus

What the display shows is in the bytes of the transfers and nowhere else. So if the same things happen
to two engines that differ in what they show, nobody on the bus can tell the runs apart but by those
bytes: whatever happens to the one, the other makes the same calls with the same answers.
-/

namespace StatusDisplay

namespace Step

/-- A step seen from the bus: what happens, whether a transfer is running, and its calls. -/
def outline (step : Step) : Event × Activity × List Call :=
  (step.event, step.before.activity, step.calls.map Call.sansBytes)

theorem outline_undisturbed {step step' : Step} (same : step'.outline = step.outline)
    (undisturbed : step.Undisturbed) : step'.Undisturbed := by
  obtain ⟨event, rest⟩ := Prod.mk.inj same
  obtain ⟨activity, _⟩ := Prod.mk.inj rest
  obtain ⟨outside, prompt⟩ := undisturbed
  exact ⟨event ▸ outside, fun done => activity ▸ prompt (event ▸ done)⟩

/-- Calls that match look the same. -/
theorem outline_eq {step step' : Step} (event : step'.event = step.event)
    (activity : step'.before.activity = step.before.activity)
    (calls : step.before.board.Matched step'.before.board step.after.board step'.after.board) :
    step'.outline = step.outline := by
  obtain ⟨calls, calls', exchange, exchange', same⟩ := calls
  rw [outline, outline, event, activity, calls_eq exchange, calls_eq exchange', same]

end Step

namespace Engine

/-- Twins that are equally busy. -/
structure TwinRuns (first second : Engine) : Prop where
  twins : first.Twins second
  activity : first.activity = second.activity

/-- A step of a twin that looks the same and leaves the engines twins. -/
def Echoes (step : Step) (second : Engine) : Prop :=
  ∃ step' : Step, step'.before = second ∧ step'.outline = step.outline ∧
    step.after.TwinRuns step'.after

variable {step : Step} {second : Engine} {controller : Controller}

theorem echoes_of_mirrors {after' : Engine} (runs : step.before.TwinRuns second)
    (taken : second.step step.event = .ok after')
    (mirrors : step.before.Mirrors second step.after after')
    (activity : step.after.activity = after'.activity) : Echoes step second :=
  ⟨⟨second, step.event, after', taken⟩, rfl,
    Step.outline_eq rfl runs.activity.symm mirrors.calls, mirrors.twins, activity⟩

/-- What the foreground does to the display, and what happens to the world, is not answered. -/
theorem echoes_of_silence {after' : Engine} (runs : step.before.TwinRuns second)
    (taken : second.step step.event = .ok after')
    (trace : step.after.board.trace = step.before.board.trace)
    (trace' : after'.board.trace = second.board.trace) (after : step.after.TwinRuns after') :
    Echoes step second := by
  refine ⟨⟨second, step.event, after', taken⟩, rfl, ?_, after⟩
  have calls : step.calls = [] := Step.calls_of_trace_eq trace
  have calls' : Step.calls ⟨second, step.event, after', taken⟩ = [] := Step.calls_of_trace_eq trace'
  rw [Step.outline, Step.outline, calls, calls', runs.activity]

/-- Whatever happens to an engine that knows its display, its twin answers in the same way. -/
theorem TwinRuns.echoes (runs : step.before.TwinRuns second)
    (known : step.before.mode.controller? = some controller) : Echoes step second := by
  obtain ⟨before, event, after, taken⟩ := step
  have twins : before.Twins second := runs.twins
  cases event with
  | bringUp =>
    obtain ⟨after₁, after', ⟨_, run⟩, ⟨_, run'⟩, mirrors, activity⟩ := twins.bringUp_of_known known
    have done : before.step .bringUp = .ok after₁ := by rw [step, run]; rfl
    have done' : second.step .bringUp = .ok after' := by rw [step, run']; rfl
    obtain rfl := Except.ok.inj (taken.symm.trans done)
    exact echoes_of_mirrors runs done' mirrors activity
  | interrupt irq =>
    cases irq with
    | busEvent =>
      cases taken
      have activity : before.onBusEvent.activity = second.onBusEvent.activity := by
        rw [(Frame.onBusEvent before).activity, (Frame.onBusEvent second).activity]
        exact runs.activity
      exact echoes_of_mirrors runs rfl twins.onBusEvent activity
    | busError =>
      obtain ⟨after₁, after', done, done', mirrors, activity⟩ := twins.onBusError known
      obtain rfl := Except.ok.inj (taken.symm.trans done)
      exact echoes_of_mirrors runs done' mirrors activity
    | transferDone =>
      obtain ⟨after₁, after', done, done', mirrors, activity⟩ := twins.onTransferDone
      obtain rfl := Except.ok.inj (taken.symm.trans done)
      exact echoes_of_mirrors runs done' mirrors activity
  | world world raised =>
    cases taken
    have board : (before.board.changeWorld world raised).Alike
        (second.board.changeWorld world raised) := by
      have same := twins.bus.board
      unfold Board.Alike at same ⊢
      exact congrArg (Board.changeWorld · world raised) same
    exact echoes_of_silence runs rfl rfl rfl
      ⟨⟨twins.config, twins.watchdog, twins.mode, ⟨board, twins.bus.timeout, twins.bus.alive⟩⟩,
        runs.activity⟩
  | write =>
    cases taken
    exact echoes_of_silence runs rfl rfl rfl
      ⟨⟨twins.config, twins.watchdog, twins.mode, twins.bus⟩, runs.activity⟩
  | clear =>
    cases taken
    exact echoes_of_silence runs rfl rfl rfl
      ⟨⟨twins.config, twins.watchdog, twins.mode, twins.bus⟩, runs.activity⟩
  | setBacklight =>
    cases taken
    exact echoes_of_silence runs rfl rfl rfl
      ⟨⟨twins.config, twins.watchdog, twins.mode, twins.bus⟩, runs.activity⟩

end Engine

/-- A run of an engine that knows its display has a run of its twin that looks the same. -/
theorem Run.twin {first second final : Engine} {steps : List Step} {controller : Controller}
    (run : Run first steps final) (runs : first.TwinRuns second)
    (known : first.mode.controller? = some controller) : ∃ steps' final',
    Run second steps' final' ∧ steps'.map Step.outline = steps.map Step.outline ∧
      final.TwinRuns final' ∧ final.mode.controller? = some controller := by
  induction run with
  | nil => exact ⟨[], second, .nil second, rfl, runs, known⟩
  | snoc step _ ih =>
    obtain ⟨steps', final', run', same, runs', known'⟩ := ih
    obtain ⟨step', rfl, looks, after⟩ := runs'.echoes known'
    refine ⟨steps' ++ [step'], step'.after, .snoc step' run', ?_, after,
      step.stepped.controller?_of_known known'⟩
    rw [List.map_append, List.map_append, same, List.map_singleton, List.map_singleton, looks]

end StatusDisplay
