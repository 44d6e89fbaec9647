import StatusDisplay.Display
import StatusDisplay.Sync

/-!
# What a wait has counted

A wait looks at the counter between the runs of its hook, and it sees the counter modulo 256. Frames
that were completed in the meantime may bring the counter back to where it was, so a wait never ends too
early but it may miss its end. It does not miss it if no run of the hook completes more than 254 frames:
before each run less than two have been completed, so the difference that the wait looks at is the number
of frames itself (`wait_counts_across_wrap`).
-/

namespace StatusDisplay

/-! ## Frames -/

/-- The display after so many more frames have gone out. -/
def Display.afterFrames (display : Display) : Nat → Display
  | 0 => display
  | frames + 1 => (display.afterFrames frames).frameCompleted

theorem Display.refreshCount_afterFrames (display : Display) (frames : Nat) :
    (display.afterFrames frames).refreshCount = display.refreshCount + UInt8.ofNat frames := by
  induction frames with
  | zero => exact (UInt8.add_zero _).symm
  | succ frames ih =>
    show (display.afterFrames frames).refreshCount + 1 = _
    rw [ih, UInt8.add_assoc, UInt8.ofNat_add]
    rfl

/-- Frames completed in the first `runs` runs of a hook, by the number that each run completes. -/
def framesWithin (frames : Nat → Nat) : Nat → Nat
  | 0 => 0
  | runs + 1 => framesWithin frames runs + frames runs

/-! ## Runs of the hook -/

section Waits

variable {σ ε : Type} {relax : σ → Except ε σ} {states : Nat → σ}

/--
A wait runs its hook until the counter is two frames on or its patience is over, and not once more.
-/
theorem exists_runs_of_waitSince (count : σ → UInt8) (start : UInt8)
    (step : ∀ n, relax (states n) = .ok (states (n + 1))) (limit : Nat) : ∃ runs ≤ limit,
    waitSince count relax start limit (states 0) =
      .ok ⟨states runs, runs, framesToWait ≤ count (states runs) - start⟩ ∧
    (∀ earlier < runs, ¬ framesToWait ≤ count (states earlier) - start) ∧
    (runs = limit ∨ framesToWait ≤ count (states runs) - start) := by
  induction limit generalizing states with
  | zero => exact ⟨0, Nat.le_refl 0, rfl, fun _ less => absurd less (Nat.not_lt_zero _), .inl rfl⟩
  | succ limit ih =>
    by_cases enough : framesToWait ≤ count (states 0) - start
    · refine ⟨0, Nat.zero_le _, ?_, fun _ less => absurd less (Nat.not_lt_zero _), .inr enough⟩
      rw [waitSince, if_pos enough, decide_eq_true enough]
      rfl
    · obtain ⟨runs, within, rest, early, ends⟩ := ih fun n => step (n + 1)
      refine ⟨runs + 1, Nat.succ_le_succ within, ?_, fun earlier less => ?_, ?_⟩
      · rw [waitSince, if_neg enough, step 0]
        simp only [bind, Except.bind]
        rw [rest]
        rfl
      · cases earlier with
        | zero => exact enough
        | succ earlier => exact early earlier (Nat.lt_of_succ_lt_succ less)
      · exact ends.imp (congrArg (· + 1)) id

/--
What a hook leads through: its next run takes each of the states to the one behind it, and completes the
next number of frames.
-/
structure Relaxes (relax : σ → Except ε σ) (display : σ → Display) (frames : Nat → Nat)
    (states : Nat → σ) : Prop where
  step : ∀ n, relax (states n) = .ok (states (n + 1))
  counted : ∀ n, (display (states (n + 1))).refreshCount =
    ((display (states n)).afterFrames (frames n)).refreshCount

variable {display : σ → Display} {frames : Nat → Nat}

theorem Relaxes.refreshCount (h : Relaxes relax display frames states) (n : Nat) :
    (display (states n)).refreshCount =
      (display (states 0)).refreshCount + UInt8.ofNat (framesWithin frames n) := by
  induction n with
  | zero => exact (UInt8.add_zero _).symm
  | succ n ih =>
    rw [h.counted, Display.refreshCount_afterFrames, ih, framesWithin, UInt8.ofNat_add,
      UInt8.add_assoc]

/-- The difference that a wait looks at is the number of frames modulo 256. -/
theorem Relaxes.waited_iff (h : Relaxes relax display frames states) (n : Nat) :
    framesToWait ≤ (display (states n)).refreshCount - (display (states 0)).refreshCount ↔
      2 ≤ framesWithin frames n % 256 := by
  have bound := (display (states 0)).refreshCount.toNat_lt
  rw [h.refreshCount n, UInt8.le_iff_toNat_le, UInt8.toNat_sub, UInt8.toNat_add, UInt8.toNat_ofNat']
  show 2 ≤ _ ↔ _
  omega

/-- What a wait sees has been completed. -/
theorem Relaxes.completed (h : Relaxes relax display frames states) {n : Nat} (waited : framesToWait ≤
    (display (states n)).refreshCount - (display (states 0)).refreshCount) :
    2 ≤ framesWithin frames n :=
  Nat.le_trans ((h.waited_iff n).1 waited) (Nat.mod_le _ _)

/-- The first run with which two frames have been completed is seen if no run completes too many. -/
theorem Relaxes.waited_of_first (h : Relaxes relax display frames states)
    (few : ∀ n, frames n ≤ 254) {n : Nat} (enough : 2 ≤ framesWithin frames n)
    (first : ∀ earlier < n, framesWithin frames earlier < 2) :
    framesToWait ≤ (display (states n)).refreshCount - (display (states 0)).refreshCount := by
  rw [h.waited_iff]
  cases n with
  | zero => exact absurd enough (Nat.not_succ_le_zero 1)
  | succ n =>
    have before := first n (Nat.lt_succ_self n)
    have last := few n
    rw [framesWithin] at enough ⊢
    omega

/--
A hook that completes few frames in each run leads a wait to its end: the wait goes on until two frames
have been completed, and not longer.
-/
theorem Relaxes.exists_runs (h : Relaxes relax display frames states) (few : ∀ n, frames n ≤ 254)
    (limit : Nat) : ∃ runs ≤ limit,
    waitForFrames (fun state => (display state).refreshCount) relax limit (states 0) =
      .ok ⟨states runs, runs, 2 ≤ framesWithin frames runs⟩ ∧
    (∀ earlier < runs, framesWithin frames earlier < 2) ∧
    (runs = limit ∨ 2 ≤ framesWithin frames runs) := by
  obtain ⟨runs, patient, wait, early, ends⟩ := exists_runs_of_waitSince
    (fun state => (display state).refreshCount) (display (states 0)).refreshCount h.step limit
  have first : ∀ earlier < runs, framesWithin frames earlier < 2 := by
    intro earlier less
    induction earlier using Nat.strongRecOn with
    | ind earlier ih =>
      apply Nat.lt_of_not_le
      intro enough
      refine early earlier less (h.waited_of_first few enough fun sooner below => ?_)
      exact ih sooner below (Nat.lt_trans below less)
  have seen : framesToWait ≤
      (display (states runs)).refreshCount - (display (states 0)).refreshCount ↔
        2 ≤ framesWithin frames runs :=
    ⟨h.completed, fun enough => h.waited_of_first few enough first⟩
  rw [decide_eq_decide.2 seen] at wait
  exact ⟨runs, patient, wait, first, ends.imp_right seen.1⟩

theorem framesWithin_mono (frames : Nat → Nat) {first last : Nat} (le : first ≤ last) :
    framesWithin frames first ≤ framesWithin frames last := by
  induction le with
  | refl => exact Nat.le_refl _
  | step _ ih =>
    rw [framesWithin]
    exact Nat.le_add_right_of_le ih

/--
**A wait counts exactly across the wrap.** Let a hook lead through any states and complete any number of
frames in each run, from any value of the counter on. However long the patience is, the wait comes to an
end: it has either seen its frames, and then two have been completed since it began, or it has run the
hook to the end of its patience. If no run completes more than 254 frames, the wait sees its frames
exactly after the first run with which two have been completed; as long as there is no such run, it goes
on.
-/
theorem wait_counts_across_wrap (relaxes : Relaxes relax display frames states) :
    (∀ limit, ∃ waited,
      waitForFrames (fun state => (display state).refreshCount) relax limit (states 0) = .ok waited ∧
        waited.state = states waited.ticks ∧
        (waited.done = true → waited.ticks ≤ limit ∧ 2 ≤ framesWithin frames waited.ticks) ∧
        (waited.done = false → waited.ticks = limit)) ∧
    ((∀ n, frames n ≤ 254) → ∀ limit,
      (∀ n ≤ limit, 2 ≤ framesWithin frames n →
        (∀ earlier < n, framesWithin frames earlier < 2) →
        waitForFrames (fun state => (display state).refreshCount) relax limit (states 0) =
          .ok ⟨states n, n, true⟩) ∧
      (framesWithin frames limit < 2 →
        waitForFrames (fun state => (display state).refreshCount) relax limit (states 0) =
          .ok ⟨states limit, limit, false⟩)) := by
  refine ⟨fun limit => ?_, fun few limit => ⟨fun n within enough first => ?_, fun none => ?_⟩⟩
  · obtain ⟨runs, patient, wait, _, ends⟩ := exists_runs_of_waitSince
      (fun state => (display state).refreshCount) (display (states 0)).refreshCount relaxes.step limit
    refine ⟨_, wait, rfl, fun done => ?_, fun late => ?_⟩
    · exact ⟨patient, relaxes.completed (of_decide_eq_true done)⟩
    · exact ends.resolve_right (of_decide_eq_false late)
  · obtain ⟨runs, patient, wait, early, ends⟩ := relaxes.exists_runs few limit
    have same : runs = n := by
      rcases Nat.lt_trichotomy runs n with less | same | more
      · have one := first runs less
        omega
      · exact same
      · have one := early n more
        omega
    subst same
    rw [decide_eq_true enough] at wait
    exact wait
  · obtain ⟨runs, patient, wait, _, ends⟩ := relaxes.exists_runs few limit
    have unseen : ¬ 2 ≤ framesWithin frames runs := by
      have mono := framesWithin_mono frames patient
      omega
    obtain rfl := ends.resolve_right unseen
    rw [decide_eq_false unseen] at wait
    exact wait

end Waits

/-! ## A hook for any numbers of frames -/

/-- A hook that keeps a tally of its runs and completes in each of them the next number of frames. -/
def paced (frames : Nat → Nat) (state : Nat × Display) : Except Defect (Nat × Display) :=
  .ok (state.1 + 1, state.2.afterFrames (frames state.1))

/-- What such a hook leads through. -/
def pacedFrom (frames : Nat → Nat) (display : Display) : Nat → Nat × Display
  | 0 => (0, display)
  | n + 1 => (n + 1, (pacedFrom frames display n).2.afterFrames (frames n))

theorem relaxes_paced (frames : Nat → Nat) (display : Display) :
    Relaxes (paced frames) Prod.snd frames (pacedFrom frames display) := by
  refine ⟨fun n => ?_, fun n => rfl⟩
  have tally : (pacedFrom frames display n).1 = n := by cases n <;> rfl
  rw [paced, tally]
  rfl

/-- One frame, and then as many with each run as the counter can tell. -/
def fullRound (n : Nat) : Nat := if n = 0 then 1 else 254

/-- The counter wraps in the first run, and stands one below its start after the second. -/
theorem wait_counts_across_wrap_full : (∀ n, fullRound n ≤ 254) ∧
    waitForFrames (·.2.refreshCount) (paced fullRound) 5 (0, { refreshCount := 255 }) =
      .ok ⟨pacedFrom fullRound { refreshCount := 255 } 2, 2, true⟩ := by
  have few : ∀ n, fullRound n ≤ 254 := by
    intro n
    unfold fullRound
    split <;> decide
  refine ⟨few, ?_⟩
  exact ((wait_counts_across_wrap (relaxes_paced fullRound _)).2 few 5).1 2 (by decide) (by decide)
    (by decide)

/-- With one frame more the counter is back where it was, so a wait would go on. -/
example : (pacedFrom (fun n => if n = 0 then 1 else 255) {} 2).2.refreshCount = 0 := by
  decide +kernel

end StatusDisplay
