import StatusDisplay.Proofs.Run.Timeline

/-!
# What a wait on a bitmap panel has seen

A bitmap panel counts a frame only when both rows are out and the transaction is to be closed. So
between two counts both rows were drawn from the text of that time, one after the other in one
transaction, whatever recoveries and failed closes came in between: `BitmapRun` follows the cursor
from the first count on, and at the second count both rows have completed.
-/

namespace StatusDisplay

/-- The transaction that a transfer is part of may be over at this sign. -/
def Sign.EndsTransaction : Sign → Prop
  | .call .requestStart | .call .requestStop | .call .reset | .call .disable
  | .call (.configure _) => True
  | sign => sign.EndsTransfer

/-- Two transfers complete one right after the other, in one transaction. -/
def PairCompletes (first second : List UInt8) (timeline : List Sign) : Prop :=
  ∃ earlier during during' later,
    timeline = earlier ++ .call (.startTransfer first) :: during ++
      .completed :: .call .stopTransfer :: .call (.startTransfer second) :: during' ++
        .completed :: later ∧
      ∀ sign ∈ during ++ during', ¬ sign.EndsTransaction

/-- The first transfer of a pair has completed, and the second is on its way. -/
def SecondOpened (first second : List UInt8) (timeline : List Sign) : Prop :=
  ∃ earlier during during',
    timeline = earlier ++ .call (.startTransfer first) :: during ++
      .completed :: .call .stopTransfer :: .call (.startTransfer second) :: during' ∧
      ∀ sign ∈ during ++ during', ¬ sign.EndsTransaction

/-- The first transfer of a pair is on its way. -/
def FirstOpened (first : List UInt8) (timeline : List Sign) : Prop :=
  Opened (· = .call (.startTransfer first)) Sign.EndsTransaction timeline

section Pairs

variable {first second : List UInt8} {signs more : List Sign}

theorem PairCompletes.append (h : PairCompletes first second signs) :
    PairCompletes first second (signs ++ more) := by
  obtain ⟨earlier, during, during', later, rfl, clean⟩ := h
  exact ⟨earlier, during, during', later ++ more, by simp, clean⟩

theorem SecondOpened.completes (h : SecondOpened first second signs) :
    PairCompletes first second (signs ++ .completed :: more) := by
  obtain ⟨earlier, during, during', rfl, clean⟩ := h
  exact ⟨earlier, during, during', more, rfl, clean⟩

theorem SecondOpened.append (h : SecondOpened first second signs)
    (clean : ∀ sign ∈ more, ¬ sign.EndsTransaction) : SecondOpened first second (signs ++ more) := by
  obtain ⟨earlier, during, during', rfl, clean'⟩ := h
  refine ⟨earlier, during, during' ++ more, by simp, ?_⟩
  intro sign mem
  rw [← List.append_assoc] at mem
  obtain mem | mem := List.mem_append.1 mem
  · exact clean' sign mem
  · exact clean sign mem

theorem FirstOpened.append (h : FirstOpened first signs)
    (clean : ∀ sign ∈ more, ¬ sign.EndsTransaction) : FirstOpened first (signs ++ more) := by
  obtain ⟨earlier, x, since, rfl, holds, clean'⟩ := h
  refine ⟨earlier, x, since ++ more, by simp, holds, ?_⟩
  intro sign mem
  obtain mem | mem := List.mem_append.1 mem
  · exact clean' sign mem
  · exact clean sign mem

theorem FirstOpened.start (micros : Nat) : FirstOpened first
    (signs ++ [.completed, .call .stopTransfer, .call (.startTransfer first),
      .call (.armAlarm micros)]) := by
  refine ⟨signs ++ [.completed, .call .stopTransfer], _, [.call (.armAlarm micros)], by simp, rfl,
    fun sign mem => ?_⟩
  rw [List.mem_singleton.1 mem]
  exact id

theorem FirstOpened.next (h : FirstOpened first signs) (micros : Nat) :
    SecondOpened first second
      (signs ++ [.completed, .call .stopTransfer, .call (.startTransfer second),
        .call (.armAlarm micros)]) := by
  obtain ⟨earlier, x, since, rfl, rfl, clean⟩ := h
  refine ⟨earlier, since, [.call (.armAlarm micros)], by simp, ?_⟩
  intro sign mem
  obtain mem | mem := List.mem_append.1 mem
  · exact clean sign mem
  · rw [List.mem_singleton.1 mem]
    exact id

end Pairs

namespace Engine

variable {engine after : Engine}

/-- The bytes of the upper row as it would be drawn at this moment. -/
def upperRow (engine : Engine) : List UInt8 := (engine.currentRow ⟨0, Nat.zero_lt_two⟩).bytes

/-- The bytes of the lower row as it would be drawn at this moment. -/
def lowerRow (engine : Engine) : List UInt8 := (engine.currentRow ⟨1, Nat.one_lt_two⟩).bytes

/-- The same text is drawn with the same font. -/
structure SameRows (before after : Engine) : Prop where
  font : after.config.font = before.config.font
  text : after.display.text = before.display.text

theorem SameRows.upperRow (h : engine.SameRows after) : after.upperRow = engine.upperRow := by
  unfold Engine.upperRow currentRow
  rw [h.font, h.text]

theorem SameRows.lowerRow (h : engine.SameRows after) : after.lowerRow = engine.lowerRow := by
  unfold Engine.lowerRow currentRow
  rw [h.font, h.text]

theorem SameRows.trans {first second third : Engine} (h : first.SameRows second)
    (h' : second.SameRows third) : first.SameRows third :=
  ⟨h'.font.trans h.font, h'.text.trans h.text⟩

theorem Frame.sameRows (h : engine.Frame after) : engine.SameRows after :=
  ⟨congrArg Config.font h.config, congrArg Display.text h.display⟩

theorem Restarted.sameRows {controller : Controller} (h : engine.Restarted controller after) :
    engine.SameRows after :=
  ⟨congrArg Config.font h.config, congrArg Display.text h.display⟩

theorem TransferDone.sameRows (h : engine.TransferDone after) : engine.SameRows after := by
  cases h <;> exact ⟨rfl, rfl⟩

end Engine

/--
Where a panel stands after its first count. Nothing is in flight, or an opening is, or the upper
row is, or the lower row is and the upper one has completed before it.
-/
inductive Stage (upper lower : List UInt8) (signs : List Sign) (engine : Engine) :
    Oled.Cursor → Prop where
  | stopped {cursor : Oled.Cursor} : engine.activity ≠ .inFlight → Stage upper lower signs engine cursor
  | opening : Stage upper lower signs engine .firstRow
  | upper : FirstOpened upper signs → Stage upper lower signs engine .secondRow
  | lower : SecondOpened upper lower signs → Stage upper lower signs engine .reopen

/--
How far a run on a bitmap panel has come: both rows have completed, or at most one frame was
counted, and since then the cursor tells what is on its way.
-/
structure BitmapRun (engine : Engine) (address : UInt8) (steps : List Step) (final : Engine) :
    Prop where
  rows : engine.SameRows final
  progress : ∃ cursor, final.mode = .bitmap address cursor ∧
    (PairCompletes engine.upperRow engine.lowerRow (timeline steps) ∨
      steps.countP Step.counts ≤ 1 ∧ (steps.countP Step.counts = 1 →
        Stage engine.upperRow engine.lowerRow (timeline steps) final cursor))

namespace BitmapRun

variable {engine : Engine} {address : UInt8} {steps : List Step} {step : Step}

theorem start {cursor : Oled.Cursor} (mode : engine.mode = .bitmap address cursor) :
    BitmapRun engine address [] engine :=
  ⟨⟨rfl, rfl⟩, cursor, mode, .inr ⟨Nat.zero_le 1, nofun⟩⟩

theorem countP_concat_of_not (uncounted : step.counts = false) :
    (steps ++ [step]).countP Step.counts = steps.countP Step.counts := by
  rw [List.countP_append, List.countP_singleton, uncounted]
  rfl

/-- A step that does not count keeps the panel where the stage says it is. -/
theorem uncounted (h : BitmapRun engine address steps step.before) {cursor : Oled.Cursor}
    (rows : step.before.SameRows step.after) (mode : step.after.mode = .bitmap address cursor)
    (uncounted : step.counts = false)
    (stage : ∀ old, step.before.mode = .bitmap address old →
      Stage engine.upperRow engine.lowerRow (timeline steps) step.before old →
        Stage engine.upperRow engine.lowerRow (timeline (steps ++ [step])) step.after cursor) :
    BitmapRun engine address (steps ++ [step]) step.after := by
  obtain ⟨old, before, progress⟩ := h.progress
  refine ⟨h.rows.trans rows, cursor, mode, ?_⟩
  rw [countP_concat_of_not uncounted]
  obtain completes | ⟨few, staged⟩ := progress
  · rw [timeline_concat]
    exact .inl completes.append
  · exact .inr ⟨few, fun once => stage old before (staged once)⟩

/-- A quiet step leaves the panel at its stage. -/
theorem quiet (h : BitmapRun engine address steps step.before) (quiet : step.Quiet) :
    BitmapRun engine address (steps ++ [step]) step.after := by
  obtain ⟨cursor, mode, _⟩ := h.progress
  have clean : ∀ sign ∈ step.signs, ¬ sign.EndsTransaction := by
    intro sign mem
    obtain ⟨call, rfl, addressing⟩ := quiet.signs sign mem
    cases call <;> first | exact id | cases addressing
  apply h.uncounted quiet.frame.sameRows (quiet.frame.mode.trans mode) quiet.not_counts
  intro old before stage
  rw [mode] at before
  cases before
  rw [timeline_concat]
  cases stage with
  | stopped idle => exact .stopped (quiet.frame.activity ▸ idle)
  | opening => exact .opening
  | upper opened => exact .upper (opened.append clean)
  | lower opened => exact .lower (opened.append clean)

/-- A recovery goes back to the opening of a frame. -/
theorem recovered (h : BitmapRun engine address steps step.before)
    (result : step.before.Recovered step.after) :
    BitmapRun engine address (steps ++ [step]) step.after := by
  obtain ⟨cursor, mode, _⟩ := h.progress
  have known : step.before.mode.controller? = some (.bitmap address) := by
    rw [mode]
    rfl
  have restarted := result.restarted known
  exact h.uncounted restarted.sameRows restarted.mode
    (Step.not_counts_of_display restarted.display) fun _ _ _ => .opening

/-- A count is the first, or it finds both rows completed. -/
theorem counted (h : BitmapRun engine address steps step.before) {cursor : Oled.Cursor}
    (completes : step.completes = true) (rows : step.before.SameRows step.after)
    (reopening : step.before.mode = .bitmap address .reopen)
    (mode : step.after.mode = .bitmap address cursor)
    (stage : Stage engine.upperRow engine.lowerRow (timeline (steps ++ [step])) step.after cursor) :
    BitmapRun engine address (steps ++ [step]) step.after := by
  obtain ⟨old, before, progress⟩ := h.progress
  rw [reopening] at before
  cases before
  refine ⟨h.rows.trans rows, cursor, mode, ?_⟩
  have atMost : (steps ++ [step]).countP Step.counts ≤ steps.countP Step.counts + 1 := by
    rw [List.countP_append]
    exact Nat.add_le_add_left List.countP_le_length _
  obtain done | ⟨few, staged⟩ := progress
  · rw [timeline_concat]
    exact .inl done.append
  · -- At a second count only the lower row can be what has just ended.
    by_cases once : steps.countP Step.counts = 1
    · cases staged once with
      | stopped idle => exact absurd (Step.inFlight_of_completes completes) idle
      | lower opened =>
        rw [timeline_concat, Step.signs_of_completes completes]
        exact .inl opened.completes
    · exact .inr ⟨by omega, fun _ => stage⟩

/-- The end of a transfer moves on to the next row, or closes the frame. -/
theorem transferDone (h : BitmapRun engine address steps step.before)
    (completes : step.completes = true) (result : step.before.TransferDone step.after) :
    BitmapRun engine address (steps ++ [step]) step.after := by
  obtain ⟨cursor, mode, _⟩ := h.progress
  obtain ⟨row, next, after⟩ | ⟨rfl, closed⟩ := result.of_bitmap mode
  · have exchange := step.before.exchange_nextRow row cursor.advance
    rw [← after] at exchange
    have signs : step.signs = [.completed, .call .stopTransfer,
        .call (.startTransfer (step.before.currentRow row).bytes),
        .call (.armAlarm step.before.watchdog.timeout)] := by
      rw [Step.signs_of_completes completes, Step.calls_eq exchange]
      rfl
    have moved : step.after.mode = .bitmap address cursor.advance := by
      rw [after]
      exact congrArg (Mode.withCursor · cursor.advance) mode
    have display : step.after.display = step.before.display := by
      rw [after]
      rfl
    apply h.uncounted result.sameRows moved (Step.not_counts_of_display display)
    intro old before stage
    rw [mode] at before
    cases before
    rw [timeline_concat, signs]
    cases stage with
    | stopped idle => exact absurd (Step.inFlight_of_completes completes) idle
    | opening =>
      cases next
      rw [← h.rows.upperRow]
      exact .upper (.start _)
    | upper opened =>
      cases next
      rw [← h.rows.lowerRow]
      exact .lower (opened.next _)
    | lower => cases next
  · obtain again | ⟨stuck, idle⟩ := closed
    · exact h.counted completes result.sameRows mode again .opening
    · exact h.counted completes result.sameRows mode stuck (.stopped idle)

/-- Every undisturbed run on a bitmap panel is followed by its stages. -/
theorem of_run {final : Engine} {cursor : Oled.Cursor} (run : Run engine steps final)
    (mode : engine.mode = .bitmap address cursor)
    (undisturbed : ∀ step ∈ steps, step.Undisturbed) : BitmapRun engine address steps final := by
  induction run with
  | nil => exact start mode
  | @snoc steps step _ ih =>
    have earlier : ∀ step ∈ steps, step.Undisturbed := fun step mem =>
      undisturbed step (List.mem_append_left _ mem)
    have last := undisturbed step (List.mem_append_right _ (List.mem_singleton_self step))
    obtain quiet | ⟨_, result⟩ | ⟨completes, _, result⟩ := last.cases
    · exact (ih earlier).quiet quiet
    · exact (ih earlier).recovered result
    · exact (ih earlier).transferDone completes result

end BitmapRun

/--
**Two counts put the text on the glass.** If two frames are counted on a bitmap panel, whatever
recoveries and failed closes there are, then both rows of the present text have been sent since the
beginning of the run, the lower right after the upper and in one transaction, and both completed.
-/
theorem rows_complete_of_two_counts {engine final : Engine} {address : UInt8}
    {cursor : Oled.Cursor} {steps : List Step} (mode : engine.mode = .bitmap address cursor)
    (run : Run engine steps final) (undisturbed : ∀ step ∈ steps, step.Undisturbed)
    (counts : 2 ≤ steps.countP Step.counts) :
    PairCompletes engine.upperRow engine.lowerRow (timeline steps) := by
  obtain ⟨_, _, completes | ⟨few, _⟩⟩ := (BitmapRun.of_run run mode undisturbed).progress
  · exact completes
  · omega

/-- A bitmap panel, brought up and written to. -/
def greetedPanel : Engine :=
  { config := {}
    display := {}
    bus := { board := { world := { devices := [0x3c] } }, timeout := 10000 }
    watchdog := { timeout := 200000 } : Engine }.nextAll [.bringUp, .write 0 0 16 "HELLO"]

/-- One frame of a panel: its opening is moved along twice, and three transfers end. -/
def panelFrame : List Event :=
  [.interrupt .busEvent, .interrupt .busEvent, .interrupt .transferDone, .interrupt .transferDone,
    .interrupt .transferDone]

/-- After two frames without a fault the greeting is on the glass. -/
theorem rows_complete_greeted : PairCompletes greetedPanel.upperRow greetedPanel.lowerRow
    (timeline (greetedPanel.steps (panelFrame ++ panelFrame))) := by
  have mode : greetedPanel.mode = .bitmap 0x3c .firstRow := by decide +kernel
  have undisturbed : ∀ step ∈ greetedPanel.steps (panelFrame ++ panelFrame),
      step.Undisturbed := by decide +kernel
  have counts : 2 ≤ (greetedPanel.steps (panelFrame ++ panelFrame)).countP Step.counts := by
    decide +kernel
  exact rows_complete_of_two_counts mode (run_steps _ _) undisturbed counts

end StatusDisplay
