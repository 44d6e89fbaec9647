import StatusDisplay.Proofs.Run.Backlight
import StatusDisplay.Proofs.Run.Cadence
import StatusDisplay.Proofs.Sync.Hooks

/-!
# Lighting a display that was set up

A character display that was found just now is set up in the dark: its setup is on its way when the
bring-up ends, and the display is lit after two counts. A recovery in between aborts the setup, or the
frame behind it, and starts the setup again; it counts nothing. So each count is the end of the latest
setup, or of a frame that was started once that had completed (`SetupRun.snoc`), and the latest setup has
completed when the wait ends (`power_on_flushes_setup`).
-/

namespace StatusDisplay

/-- The setup of a character display is started. -/
def Sign.StartsSetup (sign : Sign) : Prop :=
  ∃ lit, sign = .call (.startTransfer (Lcd.setup lit).flatten)

/-- The setup that was started last has completed. -/
def Flushed (signs : List Sign) : Prop :=
  ∃ earlier start between later, signs = earlier ++ start :: between ++ .completed :: later ∧
    start.StartsSetup ∧ (∀ sign ∈ between, ¬ sign.EndsTransfer) ∧
      ∀ sign ∈ later, ¬ sign.StartsSetup

/-- The setup that was started last is on its way. -/
def SettingUp (signs : List Sign) : Prop := Opened Sign.StartsSetup Sign.EndsTransfer signs

section Signs

variable {signs more : List Sign}

theorem Flushed.append (h : Flushed signs) (none : ∀ sign ∈ more, ¬ sign.StartsSetup) :
    Flushed (signs ++ more) := by
  obtain ⟨earlier, start, between, later, rfl, starts, clean, last⟩ := h
  refine ⟨earlier, start, between, later ++ more, by simp, starts, clean, fun sign mem => ?_⟩
  obtain mem | mem := List.mem_append.1 mem
  · exact last sign mem
  · exact none sign mem

theorem SettingUp.flushed (h : SettingUp signs) (none : ∀ sign ∈ more, ¬ sign.StartsSetup) :
    Flushed (signs ++ .completed :: more) := by
  obtain ⟨earlier, start, since, rfl, starts, clean⟩ := h
  exact ⟨earlier, start, since, more, rfl, starts, clean, none⟩

end Signs

/--
How far a character display has been set up: what is on its way is the latest setup, or that has
completed.
-/
structure SetupRun (address : UInt8) (signs : List Sign) (engine : Engine) : Prop where
  mode : engine.mode = .character address
  progress : engine.activity = .inFlight → SettingUp signs ∨ Flushed signs

/-- A setup that was handed over is on its way. -/
theorem settingUp_of_sent {step : Step} {lit : Bool} (sent : step.before.Sent step.after)
    (setup : step.after.payload = Lcd.setupPayload lit) (signs : List Sign) :
    SettingUp (signs ++ step.signs) := by
  obtain ⟨earlier, start, since, split, rfl, clean⟩ := Step.opened_of_sent sent signs
  exact ⟨earlier, _, since, split, ⟨lit, by rw [setup]; rfl⟩, clean⟩

namespace SetupRun

variable {address : UInt8} {signs : List Sign} {step : Step}

/-- A bring-up that finds a character display starts its setup. -/
theorem of_bringUp (step : Step) {first : Bool} {result : Except BringUpError PowerOn}
    (given : step.before.bringUp = .ok (result, step.after))
    (found : result = .ok ⟨.character address, first⟩) :
    SetupRun address step.signs step.after := by
  subst found
  have broughtUp := Engine.BroughtUp.of_bringUp given
  obtain ⟨mode, inFlight, _, _⟩ := broughtUp.launched
  refine ⟨mode, fun _ => .inl ?_⟩
  obtain stopped | sent := broughtUp.stopped_or_sent
  · exact absurd inFlight stopped.activity
  · obtain ⟨controller, same, payload⟩ := broughtUp.first_payload inFlight
    obtain rfl : controller = .character address := by
      cases controller <;> cases mode.symm.trans same
      rfl
    exact settingUp_of_sent sent payload []

/-- One undisturbed step. At a count the latest setup has completed. -/
theorem snoc (h : SetupRun address signs step.before) (undisturbed : step.Undisturbed) :
    SetupRun address (signs ++ step.signs) step.after ∧
      (step.counts = true → Flushed (signs ++ step.signs)) := by
  have known : step.before.mode.controller? = some (.character address) :=
    congrArg Mode.controller? h.mode
  obtain quiet | ⟨_, result⟩ | ⟨completes, _, result⟩ := undisturbed.cases
  · have clean := quiet.not_endsTransfer
    have none : ∀ sign ∈ step.signs, ¬ sign.StartsSetup := by
      rintro sign mem ⟨lit, rfl⟩
      exact clean _ mem trivial
    refine ⟨⟨quiet.frame.mode.trans h.mode, fun inFlight => ?_⟩, fun counted => ?_⟩
    · rw [quiet.frame.activity] at inFlight
      refine (h.progress inFlight).imp (fun setting => ?_) (Flushed.append · none)
      exact (opened_append none).2 ⟨setting, clean⟩
    · rw [quiet.not_counts] at counted
      cases counted
  · have restarted := result.restarted known
    refine ⟨⟨restarted.mode, fun inFlight => .inl ?_⟩, fun counted => ?_⟩
    · obtain stopped | sent := result.stopped_or_sent known
      · exact absurd inFlight stopped.activity
      · exact settingUp_of_sent sent (restarted.payload inFlight) signs
    · rw [Step.not_counts_of_display restarted.display] at counted
      cases counted
  · have signs_eq := Step.signs_of_nextFrame h.mode completes result
    have noSetup (lit : Bool) : step.before.currentFrame.bytes ≠ (Lcd.setup lit).flatten :=
      (Lcd.setup_ne_frame lit _ _).symm
    have none : ∀ sign ∈ step.signs, ¬ sign.StartsSetup := by
      rintro sign mem ⟨lit, rfl⟩
      rw [signs_eq] at mem
      simp [(noSetup lit).symm] at mem
    have flushed : Flushed (signs ++ step.signs) := by
      obtain setting | flushed := h.progress (Step.inFlight_of_completes completes)
      · rw [signs_eq] at none ⊢
        exact setting.flushed fun sign mem => none sign (List.mem_cons_of_mem _ mem)
      · exact flushed.append none
    refine ⟨⟨?_, fun _ => .inr flushed⟩, fun _ => flushed⟩
    rw [result.of_character h.mode]
    exact h.mode

theorem of_run {engine final : Engine} {steps : List Step} (h : SetupRun address signs engine)
    (run : Run engine steps final) (undisturbed : ∀ step ∈ steps, step.Undisturbed) :
    SetupRun address (signs ++ timeline steps) final := by
  induction run with
  | nil =>
    rw [timeline, List.flatMap_nil, List.append_nil]
    exact h
  | @snoc steps step _ ih =>
    have earlier := ih fun step mem => undisturbed step (List.mem_append_left _ mem)
    rw [timeline_concat, ← List.append_assoc]
    exact (earlier.snoc (undisturbed step (List.mem_concat_self ..))).1

/-- A run that ends with a count ends with the latest setup completed. -/
theorem flushed {engine final : Engine} {steps earlier : List Step} {last : Step}
    (h : SetupRun address signs engine) (run : Run engine steps final)
    (undisturbed : ∀ step ∈ steps, step.Undisturbed) (split : steps = earlier ++ [last])
    (counted : last.counts = true) : Flushed (signs ++ timeline steps) := by
  cases run with
  | nil => exact absurd split.symm (List.append_ne_nil_of_right_ne_nil _ (List.cons_ne_nil _ _))
  | snoc step run =>
    obtain ⟨rfl, same⟩ := List.append_inj' split rfl
    obtain rfl := List.singleton_inj.1 same
    have before := h.of_run run fun step mem => undisturbed step (List.mem_append_left _ mem)
    rw [timeline_concat, ← List.append_assoc]
    exact (before.snoc (undisturbed step (List.mem_concat_self ..))).2 counted

end SetupRun

/-! ## The wait -/

/--
What becomes of a character display that was found just now while a wait follows a plan. There is no
answer if the wait would still go on.
-/
structure FlushesSetup (up : Step) (plan : Nat → Delivery) (limit : Nat) (answer : Option Bool)
    (waited : Waited Engine) (steps : List Step) (final : Engine) : Prop where
  run : Run up.after steps final
  events : steps.map Step.event = eventsOf plan waited.ticks
  undisturbed : ∀ step ∈ steps, step.Undisturbed
  dark : ∀ step ∈ up :: steps, step.after.display.backlight = up.before.display.backlight
  /-- At the end the flag is set, and nothing else is changed. -/
  done : waited.done = true → answer = some true ∧ waited.state.display.backlight = true ∧
    waited.state = { final with display.backlight := true } ∧
    (∃ earlier last, steps = earlier ++ [last] ∧ earlier.countP Step.counts = 1 ∧
      last.counts = true) ∧ Flushed (timeline (up :: steps))
  late : waited.done = false → answer = none ∧ waited.state = final ∧ waited.ticks = limit ∧
    steps.countP Step.counts < 2

/-- A wait that follows a plan lights the display at its end. -/
theorem exists_flushesSetup (up : Step) {address : UInt8} {plan : Nat → Delivery}
    {relax : Engine → Except Defect Engine} (event : up.event = .bringUp)
    (found : up.before.bringUp = .ok (.ok ⟨.character address, true⟩, up.after))
    (suits : up.after.Suits plan) (follows : up.after.Follows relax plan) (limit : Nat) :
    ∃ answer waited steps final,
      up.after.finishPowerOn (.ok ⟨.character address, true⟩) relax limit = .ok (answer, waited) ∧
      FlushesSetup up plan limit answer waited steps final := by
  obtain ⟨runs, _, wait, first, ends⟩ := exists_runs_of_plan suits follows limit
  have run : Run up.after (up.after.steps (eventsOf plan runs)) (up.after.delivered plan runs) :=
    run_steps _ _
  have undisturbed := Engine.undisturbed_of_suits suits runs
  have lit := (up.keepsForeground (by rw [event]; rfl)).backlight
  have kept := run.backlight_eq fun step mem => (undisturbed step mem).inside
  have dark : ∀ step ∈ up :: up.after.steps (eventsOf plan runs),
      step.after.display.backlight = up.before.display.backlight := by
    intro step mem
    obtain rfl | mem := List.mem_cons.1 mem
    · exact lit
    · exact (kept.2 step mem).trans lit
  by_cases counted : 2 ≤ (up.after.steps (eventsOf plan runs)).countP Step.counts
  · rw [decide_eq_true counted] at wait
    obtain ⟨earlier, last, split, once, counts⟩ := exists_last_of_counted counted first
    have flushed := (SetupRun.of_bringUp up found rfl).flushed run undisturbed split counts
    refine ⟨some true, ⟨(up.after.delivered plan runs).setBacklight true, runs, true⟩, _, _, ?_,
      run, Engine.map_event_steps .., undisturbed, dark,
      fun _ => ⟨rfl, rfl, rfl, ⟨earlier, last, split, once, counts⟩, flushed⟩, nofun⟩
    rw [Engine.finishPowerOn, wait]
    rfl
  · rw [decide_eq_false counted] at wait
    refine ⟨none, ⟨up.after.delivered plan runs, runs, false⟩, _, _, ?_,
      run, Engine.map_event_steps .., undisturbed, dark, nofun, fun _ => ⟨rfl, rfl, ?_, ?_⟩⟩
    · rw [Engine.finishPowerOn, wait]
      rfl
    · exact ends.resolve_right counted
    · exact Nat.lt_of_not_le counted

/-- Nothing is waited for unless a character display was found just now. -/
theorem exists_finishPowerOn (engine : Engine) {result : Except BringUpError PowerOn}
    (other : ∀ address, result ≠ .ok ⟨.character address, true⟩) : ∃ success : Bool,
    (success = true ↔ ∃ found, result = .ok found) ∧ ∀ hook patience,
      engine.finishPowerOn result hook patience = .ok (some success, ⟨engine, 0, true⟩) := by
  cases result with
  | error => exact ⟨false, iff_of_false nofun nofun, fun _ _ => rfl⟩
  | ok found =>
    refine ⟨true, iff_of_true rfl ⟨found, rfl⟩, fun hook patience => ?_⟩
    obtain ⟨controller, firstBoot⟩ := found
    cases controller with
    | bitmap => rfl
    | character address =>
      cases firstBoot with
      | false => rfl
      | true => exact absurd rfl (other address)

/--
**A display that was found just now is lit when its setup is through.** Let any engine be powered on, with
a hook that delivers one interrupt each time it runs, in any order and with any change of the world, the
end of a transfer only while one is running. A result comes back, and it tells whether the bring-up has
succeeded. If the bring-up fails, or finds a bitmap panel, or brings a known display up again, the hook
does not run and the backlight flag stays as it was; so it would be with any hook. If a character display
was found just now, the hook follows a plan, and there is a hook for each plan. The flag stays as it was
as long as the hook runs. The wait ends with the second count, however many recoveries there are before
it; at that moment the setup that was started last has completed, and only then the flag is set and
nothing else is changed.
-/
theorem power_on_flushes_setup (engine : Engine) {relax : Engine → Except Defect Engine}
    (delivers : DeliversEvents relax) (limit : Nat) :
    ∃ (up : Step) (result : Except BringUpError PowerOn) (answer : Option Bool)
      (waited : Waited Engine),
      up.before = engine ∧ up.event = .bringUp ∧ engine.bringUp = .ok (result, up.after) ∧
      engine.powerOn relax limit = .ok (answer, waited) ∧
      (∀ success, answer = some success → (success = true ↔ ∃ found, result = .ok found)) ∧
      ((∀ address, result ≠ .ok ⟨.character address, true⟩) →
        answer.isSome = true ∧ up.after.display.backlight = engine.display.backlight ∧
          ∀ hook patience, engine.powerOn hook patience = .ok (answer, ⟨up.after, 0, true⟩)) ∧
      ∀ address, result = .ok ⟨.character address, true⟩ →
        (∃ plan steps final, up.after.Suits plan ∧ up.after.Follows relax plan ∧
          FlushesSetup up plan limit answer waited steps final) ∧
        ∀ plan, up.after.Suits plan → ∃ hook, DeliversEvents hook ∧ up.after.Follows hook plan := by
  obtain ⟨result, after, given, _⟩ := engine.exists_bringUp
  have taken : engine.step .bringUp = .ok after := by
    rw [Engine.step, given]
    rfl
  have powered (hook : Engine → Except Defect Engine) (patience : Nat) :
      engine.powerOn hook patience = after.finishPowerOn result hook patience := by
    rw [Engine.powerOn, given]
    rfl
  let up : Step := ⟨engine, .bringUp, after, taken⟩
  by_cases fresh : ∃ address, result = .ok ⟨.character address, true⟩
  · obtain ⟨address, rfl⟩ := fresh
    obtain ⟨plan, suits, follows⟩ := delivers.exists_plan after
    obtain ⟨answer, waited, steps, final, finished, flushes⟩ :=
      exists_flushesSetup up rfl given suits follows limit
    have mode := (SetupRun.of_bringUp up given rfl).mode
    refine ⟨up, _, answer, waited, rfl, rfl, given, (powered relax limit).trans finished,
      fun success told => ?_, fun other => absurd rfl (other address), fun _ _ =>
        ⟨⟨plan, steps, final, suits, follows, flushes⟩, fun _ => exists_deliversEvents mode⟩⟩
    cases done : waited.done with
    | true =>
      obtain ⟨lit, _⟩ := flushes.done done
      cases lit.symm.trans told
      exact iff_of_true rfl ⟨_, rfl⟩
    | false =>
      obtain ⟨unanswered, _⟩ := flushes.late done
      cases unanswered.symm.trans told
  · have other : ∀ address, result ≠ .ok ⟨.character address, true⟩ :=
      fun address found => fresh ⟨address, found⟩
    obtain ⟨success, means, finished⟩ := exists_finishPowerOn after other
    have lit : after.display.backlight = engine.display.backlight := (up.keepsForeground rfl).backlight
    refine ⟨up, result, some success, ⟨after, 0, true⟩, rfl, rfl, given,
      (powered relax limit).trans (finished relax limit), fun told same => ?_,
      fun _ => ⟨rfl, lit, fun hook patience => (powered hook patience).trans (finished hook patience)⟩,
      fun address found => absurd found (other address)⟩
    cases same
    exact means

/-- A new engine on a board with a character display at the last of its usual addresses. -/
def unlit : Engine where
  config := {}
  display := {}
  bus := { board.world.devices := [0x27], timeout := 10000 }
  watchdog := { timeout := 200000 }

/-- Tells the end of each transfer, but once a frame was counted it tells a bus error first. -/
def troubled (engine : Engine) : Delivery where
  world := engine.board.world
  raised := .none
  irq :=
    if engine.activity = .inFlight then
      if engine.display.refreshCount = 1 ∧ engine.statistics.recoveries = 0 then .busError
      else .transferDone
    else .busEvent

/-- The frame that was started after the setup is aborted, and the setup is sent once more. -/
theorem power_on_flushes_setup_troubled :
    let relax := fun engine => .ok (engine.nextAll (troubled engine).events)
    DeliversEvents relax ∧ unlit.display.backlight = false ∧ ∃ up plan waited steps final,
      unlit.powerOn relax 5 = .ok (some true, waited) ∧ waited.ticks = 3 ∧
        waited.state.display.backlight = true ∧
        FlushesSetup up plan 5 (some true) waited steps final := by
  intro relax
  have delivers : DeliversEvents relax := by
    intro engine
    refine ⟨troubled engine, fun told => ?_, rfl⟩
    unfold troubled at told
    dsimp only at told
    split at told
    case isTrue running => exact running
    case isFalse => cases told
  have found : unlit.bringUp.toOption.map (·.1.toOption) =
      some (some ⟨.character 0x27, true⟩) := by decide +kernel
  have lit : (unlit.powerOn relax 5).toOption.map (fun powered => (powered.1, powered.2.ticks)) =
      some (some true, 3) := by decide +kernel
  obtain ⟨up, result, answer, waited, _, _, given, powered, _, _, fresh⟩ :=
    power_on_flushes_setup unlit delivers 5
  rw [given] at found
  rw [powered] at lit
  obtain ⟨rfl, ticks⟩ := Prod.mk.inj (Option.some.inj lit)
  cases result with
  | error => cases found
  | ok powerOn =>
    cases found
    obtain ⟨⟨plan, steps, final, _, _, flushes⟩, _⟩ := fresh 0x27 rfl
    have through : waited.done = true := by
      rw [← Bool.not_eq_false]
      intro late
      cases (flushes.late late).1
    obtain ⟨_, shines, _⟩ := flushes.done through
    exact ⟨delivers, rfl, up, plan, waited, steps, final, powered, ticks, shines, flushes⟩

end StatusDisplay
