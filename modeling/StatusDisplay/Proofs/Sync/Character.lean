import StatusDisplay.Proofs.Run.Timeline

/-!
# What a wait on a character display has seen

A character display counts whatever transfer completes, and each completion starts the next frame.
So a frame of the present text has completed exactly if two frames were counted with no recovery in
between: the first count is where it started. A recovery in between aborts it, and what is counted
next is the setup.
-/

namespace StatusDisplay

/-- The step is a bus error, after which the driver recovers. -/
def Step.Recovers (step : Step) : Prop := step.event = .interrupt .busError

instance : DecidablePred Step.Recovers := fun step =>
  inferInstanceAs (Decidable (step.event = .interrupt .busError))

/-- Two frames were counted one after the other, with no recovery in between. -/
def CountsTwice (steps : List Step) : Prop :=
  Followed (·.counts = true) Step.Recovers (·.counts = true) steps

theorem two_le_countP_of_countsTwice {steps : List Step} (h : CountsTwice steps) :
    2 ≤ steps.countP Step.counts := by
  obtain ⟨earlier, first, between, second, later, rfl, counted, again, _⟩ := h
  simp only [List.countP_append, List.countP_cons, counted, again, if_true]
  omega

/-- Without any recovery, two counts are enough. -/
theorem countsTwice_iff {steps : List Step} (calm : ∀ step ∈ steps, ¬ step.Recovers) :
    CountsTwice steps ↔ 2 ≤ steps.countP Step.counts := by
  refine ⟨two_le_countP_of_countsTwice, ?_⟩
  intro counts
  have some : 0 < steps.countP Step.counts := by omega
  obtain ⟨x, mem, counted⟩ := List.countP_pos_iff.1 some
  obtain ⟨earlier, later, rfl⟩ := List.append_of_mem mem
  simp only [List.countP_append, List.countP_cons, counted, if_true] at counts
  have other : 0 < earlier.countP Step.counts ∨ 0 < later.countP Step.counts := by omega
  -- The other count stands before this one or behind it.
  rcases other with before | behind
  · obtain ⟨y, mem, again⟩ := List.countP_pos_iff.1 before
    obtain ⟨start, between, rfl⟩ := List.append_of_mem mem
    refine ⟨start, y, between, x, later, by simp, again, counted, ?_⟩
    intro z inside
    apply calm
    simp [inside]
  · obtain ⟨y, mem, again⟩ := List.countP_pos_iff.1 behind
    obtain ⟨between, rest, rfl⟩ := List.append_of_mem mem
    refine ⟨earlier, x, between, y, rest, by simp, counted, again, ?_⟩
    intro z inside
    apply calm
    simp [inside]

/-- The end of a transfer is told before the next frame is started. -/
theorem Step.signs_of_nextFrame {step : Step} {address : UInt8}
    (mode : step.before.mode = .character address) (completes : step.completes = true)
    (result : step.before.TransferDone step.after) :
    step.signs = .completed :: [.call .stopTransfer,
      .call (.startTransfer step.before.currentFrame.bytes),
      .call (.armAlarm step.before.watchdog.timeout)] := by
  have exchange := step.before.exchange_nextFrame
  rw [← result.of_character mode] at exchange
  rw [signs, completes, calls_eq exchange]
  rfl

/--
How far a run on a character display has come: which display it is, which frame it sends, and how
the counts of its steps tell of that frame.
-/
structure CharacterRun (engine : Engine) (address : UInt8) (steps : List Step) (final : Engine) :
    Prop where
  mode : final.mode = .character address
  frame : final.currentFrame = engine.currentFrame
  completes : Completes engine.currentFrame.bytes (timeline steps) ↔ CountsTwice steps
  opened : Opened (· = .call (.startTransfer engine.currentFrame.bytes)) Sign.EndsTransfer
    (timeline steps) ↔ Opened (·.counts = true) Step.Recovers steps

namespace CharacterRun

variable {engine : Engine} {address : UInt8} {steps : List Step} {step : Step}

/-- Before anything has happened nothing has been counted, and nothing started. -/
theorem start (mode : engine.mode = .character address) :
    CharacterRun engine address [] engine := by
  refine ⟨mode, rfl, iff_of_false ?_ ?_, iff_of_false ?_ ?_⟩
  · rintro ⟨earlier, x, between, y, later, split, _⟩
    simp [timeline] at split
  · rintro ⟨earlier, x, between, y, later, split, _⟩
    simp at split
  · rintro ⟨earlier, x, since, split, _⟩
    simp [timeline] at split
  · rintro ⟨earlier, x, since, split, _⟩
    simp at split

/-- A step that does not count adds no second count. -/
theorem countsTwice_of_not_counts (uncounted : step.counts = false) :
    CountsTwice (steps ++ [step]) ↔ CountsTwice steps := by
  refine followed_concat.trans (or_iff_left ?_)
  rintro ⟨_, counted⟩
  rw [uncounted] at counted
  cases counted

/-- A quiet step changes nothing. -/
theorem quiet (h : CharacterRun engine address steps step.before) (quiet : step.Quiet) :
    CharacterRun engine address (steps ++ [step]) step.after := by
  have uncounted := quiet.not_counts
  have clean := quiet.not_endsTransfer
  have incomplete : ∀ sign ∈ step.signs, ¬ sign = .completed := by
    rintro sign mem rfl
    exact clean _ mem trivial
  have noFrame : ∀ sign ∈ step.signs,
      ¬ sign = .call (.startTransfer engine.currentFrame.bytes) := by
    rintro sign mem rfl
    exact clean _ mem trivial
  have goesOn : ¬ step.Recovers := quiet.event
  refine ⟨quiet.frame.mode.trans h.mode, ?_, ?_, ?_⟩
  · rw [← h.frame, Engine.currentFrame, quiet.frame.display]
    rfl
  · rw [timeline_concat, countsTwice_of_not_counts uncounted, ← h.completes]
    exact followed_append incomplete
  · rw [timeline_concat, opened_append noFrame, opened_concat, h.opened, and_iff_left clean,
      and_iff_left goesOn, or_iff_right]
    rw [uncounted]
    exact Bool.false_ne_true

/-- The end of a transfer counts; it completes what was open and opens the next frame. -/
theorem counted (h : CharacterRun engine address steps step.before)
    (completes : step.completes = true) (result : step.before.TransferDone step.after) :
    CharacterRun engine address (steps ++ [step]) step.after := by
  have after := result.of_character h.mode
  have signs := Step.signs_of_nextFrame h.mode completes result
  rw [h.frame] at signs
  have counts : step.counts = true := by
    have next : step.after.display.refreshCount = step.before.display.refreshCount + 1 := by
      rw [after]
      rfl
    rw [Step.counts, next]
    simp
  refine ⟨?_, ?_, ?_, ?_⟩
  · rw [after]
    exact h.mode
  · rw [← h.frame, after]
    rfl
  · -- The end of the transfer stands before the new start, so it completes what was open so far.
    have completed : Completes engine.currentFrame.bytes (timeline (steps ++ [step])) ↔
        Completes engine.currentFrame.bytes (timeline steps) ∨
          Opened (· = .call (.startTransfer engine.currentFrame.bytes)) Sign.EndsTransfer
            (timeline steps) ∧ Sign.completed = .completed := by
      rw [timeline_concat, signs, List.append_cons]
      exact (followed_append (by simp)).trans followed_concat
    rw [completed, CountsTwice, followed_concat, h.completes, h.opened, counts]
    simp [CountsTwice]
  · refine iff_of_true ?_ (opened_concat.2 (.inl counts))
    rw [timeline_concat, signs]
    refine ⟨timeline steps ++ [.completed, .call .stopTransfer], _,
      [.call (.armAlarm step.before.watchdog.timeout)], by simp, rfl, ?_⟩
    intro sign mem
    rw [List.mem_singleton.1 mem]
    exact id

/-- A recovery aborts what was open and starts no frame. -/
theorem recovered (h : CharacterRun engine address steps step.before)
    (event : step.event = .interrupt .busError) (result : step.before.Recovered step.after) :
    CharacterRun engine address (steps ++ [step]) step.after := by
  have known : step.before.mode.controller? = some (.character address) := by
    rw [h.mode]
    rfl
  have restarted := result.restarted known
  obtain ⟨calls, exchange, stops, sends⟩ := result.exchange known
  have signs : step.signs = calls.map .call := Step.signs_eq exchange (by simp [Step.completes, event])
  have uncounted : step.counts = false := by
    rw [Step.counts, restarted.display]
    simp
  have incomplete : ∀ sign ∈ step.signs, ¬ sign = .completed := by
    rw [signs]
    simp
  have noFrame : ∀ sign ∈ step.signs,
      ¬ sign = .call (.startTransfer engine.currentFrame.bytes) := by
    rw [signs]
    rintro sign mem rfl
    obtain ⟨call, mem, equal⟩ := List.mem_map.1 mem
    cases equal
    exact Lcd.setup_ne_frame _ _ _ (sends _ mem).symm
  refine ⟨restarted.mode, ?_, ?_, ?_⟩
  · rw [← h.frame, Engine.currentFrame, restarted.display]
    rfl
  · rw [timeline_concat, countsTwice_of_not_counts uncounted, ← h.completes]
    exact followed_append incomplete
  · rw [timeline_concat, opened_append noFrame, opened_concat]
    -- The abort is bad for an open frame, and the recovery for an open count.
    apply iff_of_false
    · rintro ⟨_, clean⟩
      refine clean (.call .stopTransfer) ?_ trivial
      rw [signs]
      exact List.mem_map.2 ⟨_, stops, rfl⟩
    · rintro (counted | ⟨_, goesOn⟩)
      · rw [uncounted] at counted
        cases counted
      · exact goesOn event

/-- Every undisturbed run on a character display keeps count of its frame. -/
theorem of_run {final : Engine} (run : Run engine steps final)
    (mode : engine.mode = .character address) (undisturbed : ∀ step ∈ steps, step.Undisturbed) :
    CharacterRun engine address steps final := by
  induction run with
  | nil => exact start mode
  | @snoc steps step _ ih =>
    have earlier : ∀ step ∈ steps, step.Undisturbed := fun step mem =>
      undisturbed step (List.mem_append_left _ mem)
    have last := undisturbed step (List.mem_append_right _ (List.mem_singleton_self step))
    obtain quiet | ⟨event, result⟩ | ⟨completes, _, result⟩ := last.cases
    · exact (ih earlier).quiet quiet
    · exact (ih earlier).recovered event result
    · exact (ih earlier).counted completes result

end CharacterRun

/--
**A frame of the present text completes exactly if two frames are counted with no recovery in
between.** So two counts alone do not tell a waiting foreground that its text is on the glass.
-/
theorem frame_completes_iff {engine final : Engine} {address : UInt8} {steps : List Step}
    (mode : engine.mode = .character address) (run : Run engine steps final)
    (undisturbed : ∀ step ∈ steps, step.Undisturbed) :
    Completes engine.currentFrame.bytes (timeline steps) ↔ CountsTwice steps :=
  (CharacterRun.of_run run mode undisturbed).completes

/-! ## Two counts without a frame -/

/-- A character display at the last of its usual addresses, brought up and written to. -/
def greeted : Engine :=
  { config := {}
    display := {}
    bus := { board := { world := { devices := [0x27] } }, timeout := 10000 }
    watchdog := { timeout := 200000 } : Engine }.nextAll [.bringUp, .write 0 0 16 "HELLO"]

theorem reachable_greeted : Reachable greeted :=
  ⟨{}, {}, { devices := [0x27] }, _, _, rfl, run_steps _ _⟩

theorem mode_greeted : greeted.mode = .character 0x27 := by decide +kernel

/-- Without a recovery the text is on the glass after two counts. -/
theorem frame_completes_greeted : Completes greeted.currentFrame.bytes
    (timeline (greeted.steps [.interrupt .transferDone, .interrupt .transferDone])) := by
  have undisturbed : ∀ step ∈ greeted.steps [.interrupt .transferDone, .interrupt .transferDone],
      step.Undisturbed := by decide +kernel
  have calm : ∀ step ∈ greeted.steps [.interrupt .transferDone, .interrupt .transferDone],
      ¬ step.Recovers := by decide +kernel
  rw [frame_completes_iff mode_greeted (run_steps _ _) undisturbed, countsTwice_iff calm]
  decide +kernel

/-- A recovery between two counts keeps them from being one after the other. -/
theorem not_countsTwice_of_recovers {first second third : Step} (recovers : second.Recovers)
    (uncounted : second.counts = false) : ¬ CountsTwice [first, second, third] := by
  intro h
  obtain early | ⟨opened, _⟩ := (followed_concat (l := [first, second])).1 h
  · have counts := two_le_countP_of_countsTwice early
    have once : [first].countP Step.counts ≤ 1 := List.countP_le_length
    have skipped : [first, second].countP Step.counts = [first].countP Step.counts := by
      simp [List.countP_cons, uncounted]
    omega
  · obtain counted | ⟨_, goesOn⟩ := (opened_concat (l := [first])).1 opened
    · rw [uncounted] at counted
      cases counted
    · exact goesOn recovers

/--
**Two counts do not put the text on the glass.** The first of them is the frame that was on its way,
the second the setup that a recovery has sent; the frame in between was aborted.
-/
theorem not_completes_of_two_counts : ¬ ∀ (engine final : Engine) (address : UInt8)
    (steps : List Step), Reachable engine → engine.mode = .character address →
      Run engine steps final → (∀ step ∈ steps, step.Undisturbed) → 2 ≤ steps.countP Step.counts →
        Completes engine.currentFrame.bytes (timeline steps) := by
  intro promise
  let events : List Event :=
    [.interrupt .transferDone, .interrupt .busError, .interrupt .transferDone]
  have undisturbed : ∀ step ∈ greeted.steps events, step.Undisturbed := by decide +kernel
  have counts : 2 ≤ (greeted.steps events).countP Step.counts := by decide +kernel
  have completes := promise greeted _ 0x27 _ reachable_greeted mode_greeted (run_steps greeted events)
    undisturbed counts
  rw [(CharacterRun.of_run (run_steps _ _) mode_greeted undisturbed).completes] at completes
  simp only [events, Engine.steps] at completes
  refine not_countsTwice_of_recovers ?_ ?_ completes
  · exact Eq.refl (Event.interrupt .busError)
  · decide +kernel

end StatusDisplay
