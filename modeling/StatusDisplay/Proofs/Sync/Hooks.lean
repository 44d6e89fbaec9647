import StatusDisplay.Proofs.Run.Foreground
import StatusDisplay.Proofs.Sync.Character
import StatusDisplay.Proofs.Sync.Counting

/-!
# Hooks that deliver events

While the foreground waits, the driver's interrupts go on; for the wait they are the work of its hook. A
hook of this kind delivers one interrupt each time it runs, and anything may happen in the world before
that. A plan says what is delivered when. Every such hook follows a plan (`DeliversEvents.exists_plan`),
and for every plan there is a hook that follows it (`exists_deliversEvents`): a hook sees the calls that
were made before, so it can tell its runs apart. What the wait counts are the frames that the steps of the
plan count (`exists_runs_of_plan`).
-/

namespace StatusDisplay

/-- One interrupt, with what has become of the world by then. -/
structure Delivery where
  world : World
  raised : Status
  irq : Irq

namespace Delivery

variable {delivery : Delivery} {engine : Engine}

/-- The world has changed by the time of the interrupt. -/
def events (delivery : Delivery) : List Event :=
  [.world delivery.world delivery.raised, .interrupt delivery.irq]

/-- The end of a transfer is only told while one is running. -/
def Prompt (delivery : Delivery) (engine : Engine) : Prop :=
  delivery.irq = .transferDone → engine.activity = .inFlight

/-- The world changes, and that counts nothing; then the interrupt is told. -/
theorem exists_steps (engine : Engine) (delivery : Delivery) : ∃ change told : Step,
    engine.steps delivery.events = [change, told] ∧ change.counts = false :=
  ⟨_, _, rfl, Step.not_counts_of_display rfl⟩

theorem undisturbed (prompt : delivery.Prompt engine) :
    ∀ step ∈ engine.steps delivery.events, step.Undisturbed := by
  intro step mem
  obtain rfl | mem := List.mem_cons.1 mem
  · exact ⟨rfl, nofun⟩
  · obtain rfl := List.mem_singleton.1 mem
    refine ⟨rfl, fun told => ?_⟩
    exact prompt (Event.interrupt.inj told)

end Delivery

/-! ## Plans -/

/-- The events of the first deliveries of a plan. -/
def eventsOf (plan : Nat → Delivery) : Nat → List Event
  | 0 => []
  | n + 1 => eventsOf plan n ++ (plan n).events

namespace Engine

/-- The engine after the first deliveries of a plan. -/
def delivered (engine : Engine) (plan : Nat → Delivery) (n : Nat) : Engine :=
  engine.nextAll (eventsOf plan n)

/-- Each delivery of a plan comes at a time when it may. -/
def Suits (engine : Engine) (plan : Nat → Delivery) : Prop :=
  ∀ n, (plan n).Prompt (engine.delivered plan n)

variable {engine : Engine} {plan : Nat → Delivery}

theorem delivered_succ (n : Nat) :
    engine.delivered plan (n + 1) = (engine.delivered plan n).nextAll (plan n).events := by
  rw [delivered, eventsOf, nextAll, List.foldl_append]
  rfl

theorem steps_succ (n : Nat) : engine.steps (eventsOf plan (n + 1)) =
    engine.steps (eventsOf plan n) ++ (engine.delivered plan n).steps (plan n).events := by
  rw [eventsOf, steps_append]
  rfl

theorem undisturbed_of_suits (suits : engine.Suits plan) (n : Nat) :
    ∀ step ∈ engine.steps (eventsOf plan n), step.Undisturbed := by
  induction n with
  | zero => exact fun _ mem => absurd mem List.not_mem_nil
  | succ n ih =>
    intro step mem
    rw [steps_succ] at mem
    obtain mem | mem := List.mem_append.1 mem
    · exact ih step mem
    · exact (plan n).undisturbed (suits n) step mem

end Engine

/-! ## Hooks -/

/-- Each run of the hook delivers an interrupt at a time when it may come. -/
def DeliversEvents (relax : Engine → Except Defect Engine) : Prop :=
  ∀ engine, ∃ delivery : Delivery, delivery.Prompt engine ∧
    relax engine = .ok (engine.nextAll delivery.events)

/-- The hook delivers what the plan says. -/
def Engine.Follows (engine : Engine) (relax : Engine → Except Defect Engine)
    (plan : Nat → Delivery) : Prop :=
  ∀ n, relax (engine.delivered plan n) = .ok (engine.delivered plan (n + 1))

/-- What a hook delivers from an engine on is a plan. -/
theorem DeliversEvents.exists_plan {relax : Engine → Except Defect Engine}
    (delivers : DeliversEvents relax) (engine : Engine) :
    ∃ plan, engine.Suits plan ∧ engine.Follows relax plan := by
  obtain ⟨next, delivers⟩ := Classical.axiomOfChoice delivers
  let states : Nat → Engine := Nat.rec engine fun _ state => state.nextAll (next state).events
  let plan : Nat → Delivery := fun n => next (states n)
  have reached (n : Nat) : engine.delivered plan n = states n := by
    induction n with
    | zero => rfl
    | succ n ih =>
      rw [Engine.delivered_succ, ih]
  refine ⟨plan, fun n => ?_, fun n => ?_⟩
  · rw [reached]
    exact (delivers (states n)).1
  · rw [reached, reached]
    exact (delivers (states n)).2

section Hooks

variable {engine : Engine} {address : UInt8} {plan : Nat → Delivery}

/-- An interrupt at a character display makes a call. -/
theorem Engine.length_trace_lt (mode : engine.mode = .character address) (delivery : Delivery) :
    engine.board.trace.length < (engine.nextAll delivery.events).board.trace.length := by
  let changed := engine.next (.world delivery.world delivery.raised)
  have known : changed.mode.controller? = some (.character address) :=
    congrArg Mode.controller? mode
  obtain ⟨after, taken, stepped⟩ := changed.exists_step (.interrupt delivery.irq)
  have reached : engine.nextAll delivery.events = after := by
    show changed.next _ = after
    rw [next, taken]
  have longer {calls : List Call} (exchange : Exchange changed.board calls after.board)
      (some : 0 < calls.length) : engine.board.trace.length < after.board.trace.length := by
    rw [exchange.trace_eq, List.length_append, List.length_reverse]
    exact Nat.lt_add_of_pos_left some
  rw [reached]
  generalize delivery.irq = irq at stepped
  cases stepped with
  | busEvent =>
    obtain ⟨calls, exchange, _⟩ := changed.bus.exchange_onEvent address
    have told : changed.onBusEvent = changed.modifyBus (Bus.onEvent address) := by
      unfold onBusEvent
      rw [known]
      rfl
    have looks : Exchange changed.board (.status changed.board.status :: calls)
        changed.onBusEvent.board := by
      rw [told]
      exact exchange
    exact longer looks (Nat.succ_pos _)
  | recovered result =>
    obtain ⟨calls, exchange, stops, _⟩ := result.exchange known
    exact longer exchange (List.length_pos_of_mem stops)
  | transferDone result =>
    have exchange := changed.exchange_nextFrame
    rw [← result.of_character mode] at exchange
    exact longer exchange (Nat.succ_pos _)
  | foreground foreground => cases foreground

/-- A plan leads nowhere twice. -/
theorem Engine.delivered_inj (mode : engine.mode = .character address) (suits : engine.Suits plan)
    {m n : Nat} (same : engine.delivered plan m = engine.delivered plan n) : m = n := by
  have known (n : Nat) : (engine.delivered plan n).mode = .character address :=
    (CharacterRun.of_run (run_steps _ _) mode (undisturbed_of_suits suits n)).mode
  have grows {m n : Nat} (less : m < n) : (engine.delivered plan m).board.trace.length <
      (engine.delivered plan n).board.trace.length := by
    have step (n : Nat) : (engine.delivered plan n).board.trace.length <
        (engine.delivered plan (n + 1)).board.trace.length := by
      rw [delivered_succ]
      exact length_trace_lt (known n) (plan n)
    induction less with
    | refl => exact step m
    | step _ ih => exact Nat.lt_trans ih (step _)
  have lengths := congrArg (fun engine : Engine => engine.board.trace.length) same
  rcases Nat.lt_trichotomy m n with less | equal | more
  · exact absurd lengths (Nat.ne_of_lt (grows less))
  · exact equal
  · exact absurd lengths (Nat.ne_of_gt (grows more))

open Classical in
/-- What the plan delivers to an engine that it leads to; any other engine is told a bus event. -/
noncomputable def Engine.deliveryTo (engine : Engine) (plan : Nat → Delivery) (state : Engine) :
    Delivery :=
  if reached : ∃ n, engine.delivered plan n = state then plan reached.choose
  else ⟨state.board.world, .none, .busEvent⟩

theorem exists_deliversEvents (mode : engine.mode = .character address)
    (suits : engine.Suits plan) : ∃ relax, DeliversEvents relax ∧ engine.Follows relax plan := by
  have planned (n : Nat) : engine.deliveryTo plan (engine.delivered plan n) = plan n := by
    have reached : ∃ m, engine.delivered plan m = engine.delivered plan n := ⟨n, rfl⟩
    rw [Engine.deliveryTo, dif_pos reached, Engine.delivered_inj mode suits reached.choose_spec]
  refine ⟨fun state => .ok (state.nextAll (engine.deliveryTo plan state).events), fun state => ?_,
    fun n => ?_⟩
  · refine ⟨engine.deliveryTo plan state, ?_, rfl⟩
    by_cases reached : ∃ n, engine.delivered plan n = state
    · obtain ⟨n, rfl⟩ := reached
      rw [planned]
      exact suits n
    · rw [Engine.deliveryTo, dif_neg reached]
      exact nofun
  · show Except.ok _ = _
    rw [planned, Engine.delivered_succ]

end Hooks

/-! ## What a wait sees of a plan -/

/-- A step that counts moves the counter on by one. -/
theorem Step.refreshCount_after (step : Step) (inside : step.event.isForeground = false) :
    step.after.display.refreshCount =
      step.before.display.refreshCount + if step.counts then 1 else 0 := by
  obtain same | ⟨_, next⟩ := (step.keepsForeground inside).count
  · have uncounted : step.counts = false := by
      rw [counts, same]
      simp
    rw [same, uncounted]
    exact (UInt8.add_zero _).symm
  · have counted : step.counts = true := by
      rw [counts, next]
      simp
    rw [next, counted]
    rfl

theorem Run.refreshCount_eq {engine final : Engine} {steps : List Step} (run : Run engine steps final)
    (inside : ∀ step ∈ steps, step.event.isForeground = false) : final.display.refreshCount =
      (engine.display.afterFrames (steps.countP Step.counts)).refreshCount := by
  induction run with
  | nil => rfl
  | @snoc steps step _ ih =>
    have earlier := ih fun step mem => inside step (List.mem_append_left _ mem)
    rw [step.refreshCount_after (inside step (List.mem_concat_self ..)), earlier,
      List.countP_append, List.countP_singleton]
    cases step.counts with
    | false => exact UInt8.add_zero _
    | true => rfl

section Plans

variable {engine : Engine} {plan : Nat → Delivery} {relax : Engine → Except Defect Engine}

/-- The frames that each delivery counts. -/
def Engine.framesOf (engine : Engine) (plan : Nat → Delivery) (n : Nat) : Nat :=
  ((engine.delivered plan n).steps (plan n).events).countP Step.counts

theorem Engine.framesWithin_framesOf (n : Nat) : framesWithin (engine.framesOf plan) n =
    (engine.steps (eventsOf plan n)).countP Step.counts := by
  induction n with
  | zero => rfl
  | succ n ih =>
    rw [framesWithin, ih, steps_succ, List.countP_append]
    rfl

theorem relaxes_framesOf (suits : engine.Suits plan) (follows : engine.Follows relax plan) :
    Relaxes relax Engine.display (engine.framesOf plan) (engine.delivered plan) := by
  refine ⟨follows, fun n => ?_⟩
  rw [Engine.delivered_succ]
  refine (run_steps _ _).refreshCount_eq fun step mem => ?_
  exact ((plan n).undisturbed (suits n) step mem).inside

/-- A wait goes on until the plan's steps have counted two frames, or until its patience is over. -/
theorem exists_runs_of_plan (suits : engine.Suits plan) (follows : engine.Follows relax plan)
    (limit : Nat) : ∃ runs ≤ limit, engine.sync relax limit = .ok
      ⟨engine.delivered plan runs, runs, 2 ≤ (engine.steps (eventsOf plan runs)).countP Step.counts⟩ ∧
    (∀ earlier < runs, (engine.steps (eventsOf plan earlier)).countP Step.counts < 2) ∧
    (runs = limit ∨ 2 ≤ (engine.steps (eventsOf plan runs)).countP Step.counts) := by
  have few (n : Nat) : engine.framesOf plan n ≤ 254 := by
    have both : engine.framesOf plan n ≤ 2 := List.countP_le_length
    omega
  have runs := (relaxes_framesOf suits follows).exists_runs few limit
  simp only [Engine.framesWithin_framesOf] at runs
  exact runs

/-- At the end of a wait the second count is the last thing that has happened. -/
theorem exists_last_of_counted {runs : Nat}
    (counted : 2 ≤ (engine.steps (eventsOf plan runs)).countP Step.counts)
    (first : ∀ earlier < runs, (engine.steps (eventsOf plan earlier)).countP Step.counts < 2) :
    ∃ earlier last, engine.steps (eventsOf plan runs) = earlier ++ [last] ∧
      earlier.countP Step.counts = 1 ∧ last.counts = true := by
  cases runs with
  | zero => exact absurd counted (Nat.not_succ_le_zero 1)
  | succ runs =>
    have before := first runs (Nat.lt_succ_self runs)
    obtain ⟨change, told, both, uncounted⟩ := (plan runs).exists_steps (engine.delivered plan runs)
    rw [Engine.steps_succ, both] at counted ⊢
    have unchanged : (engine.steps (eventsOf plan runs) ++ [change]).countP Step.counts =
        (engine.steps (eventsOf plan runs)).countP Step.counts := by
      rw [List.countP_append, List.countP_singleton, uncounted]
      rfl
    rw [List.append_cons, List.countP_append, unchanged, List.countP_singleton] at counted
    have last : told.counts = true := by
      apply Bool.of_not_eq_false
      intro idle
      rw [idle] at counted
      exact absurd counted (Nat.not_le_of_lt before)
    rw [last] at counted
    refine ⟨_, told, List.append_cons .., ?_, last⟩
    rw [unchanged]
    exact Nat.le_antisymm (Nat.le_of_lt_succ before) (Nat.le_of_succ_le_succ counted)

end Plans

end StatusDisplay
