import StatusDisplay.Engine.PowerOn
import StatusDisplay.Proofs.Run.Cadence

/-!
# How long a wait takes without faults

A wait for two frames whose hook lets one round happen ends after as many rounds as the second
frame needs: two on a character display, and on a bitmap panel the rest of the pass that is under
way and a whole one behind it. The wait looks at the difference of counters that wrap, which is no
matter here, since they are never more than two frames apart.
-/

namespace StatusDisplay

/-- The rounds that a wait takes, by the number of rounds that there were before it. -/
def Controller.patience : Controller → Nat → Nat
  | .character _, _ => 2
  | .bitmap _, rounds => 6 - rounds % 3

/-- A hook that lets one round happen. -/
def RelaxesByRounds (relax : Engine → Except Defect Engine) : Prop :=
  ∀ engine, ∃ events, Tally.after? {} events = some ⟨1, 0⟩ ∧
    relax engine = .ok (engine.nextAll events)

/-! ## A round behind others -/

namespace Tally

variable {tally next behind : Tally} {events : List Event} {event : Event} {rounds : Nat}

theorem next?_behind (told : tally.next? event = some next)
    (shifted : behind.rounds = rounds + tally.rounds) (ahead : tally.told ≤ behind.told) :
    ∃ later, behind.next? event = some later ∧ later.rounds = rounds + next.rounds ∧
      next.told ≤ later.told := by
  cases event with
  | bringUp => cases told
  | world => cases told
  | interrupt irq =>
    cases irq with
    | busError => cases told
    | busEvent =>
      cases told
      exact ⟨_, rfl, shifted, Nat.succ_le_succ ahead⟩
    | transferDone =>
      obtain ⟨enough, rfl⟩ := next?_transferDone.1 told
      refine ⟨_, next?_transferDone.2 ⟨Nat.le_trans enough ahead, rfl⟩, ?_, Nat.le_refl 0⟩
      rw [shifted, Nat.add_assoc]
  | write => cases told; exact ⟨_, rfl, shifted, ahead⟩
  | clear => cases told; exact ⟨_, rfl, shifted, ahead⟩
  | setBacklight => cases told; exact ⟨_, rfl, shifted, ahead⟩

/-- Events that make up rounds also do so behind other rounds, and with more bus events. -/
theorem after?_behind (told : tally.after? events = some next)
    (shifted : behind.rounds = rounds + tally.rounds) (ahead : tally.told ≤ behind.told) :
    ∃ later, behind.after? events = some later ∧ later.rounds = rounds + next.rounds := by
  induction events generalizing tally behind with
  | nil =>
    cases told
    exact ⟨behind, rfl, shifted⟩
  | cons event events ih =>
    obtain ⟨middle, first, rest⟩ := Option.bind_eq_some_iff.1 told
    obtain ⟨middle', first', shifted, ahead⟩ := next?_behind first shifted ahead
    obtain ⟨later, rest', total⟩ := ih rest shifted ahead
    exact ⟨later, Option.bind_eq_some_iff.2 ⟨middle', first', rest'⟩, total⟩

end Tally

/-! ## The length of a wait -/

/--
A wait takes as many runs of its hook as are missing, if each run brings it one nearer, and the
counter is two frames on after the last of them and not before.
-/
theorem exists_waitSince {σ ε : Type} {count : σ → UInt8} {relax : σ → Except ε σ} {start : UInt8}
    {P : Nat → σ → Prop}
    (nearer : ∀ missing state, P (missing + 1) state →
      ¬ framesToWait ≤ count state - start ∧ ∃ next, relax state = .ok next ∧ P missing next)
    (enough : ∀ state, P 0 state → framesToWait ≤ count state - start)
    {missing limit : Nat} {state : σ} (h : P missing state) (patient : missing ≤ limit) :
    ∃ waited, waitSince count relax start limit state = .ok waited ∧ waited.ticks = missing ∧
      waited.done = true := by
  induction missing generalizing limit state with
  | zero =>
    have reached := enough state h
    cases limit with
    | zero => exact ⟨_, rfl, rfl, decide_eq_true reached⟩
    | succ limit => exact ⟨_, if_pos reached, rfl, rfl⟩
  | succ missing ih =>
    obtain ⟨early, next, relaxed, nearer⟩ := nearer missing state h
    cases limit with
    | zero => exact absurd patient (Nat.not_succ_le_zero missing)
    | succ limit =>
      obtain ⟨rest, waited, ticks, done⟩ := ih nearer (Nat.le_of_succ_le_succ patient)
      refine ⟨{ rest with ticks := rest.ticks + 1 }, ?_, congrArg (· + 1) ticks, done⟩
      rw [waitSince, if_neg early, relaxed]
      simp only [bind, Except.bind, waited, pure, Except.pure]

namespace Engine

variable {engine final started : Engine} {controller : Controller} {world : World} {base : Nat}
  {tally last : Tally}

/-- Within a wait, two frames were counted exactly if its last round is over. -/
theorem Steady.waited_iff (h : Steady controller world base tally engine)
    (h' : Steady controller world base last final) (later : tally.rounds ≤ last.rounds)
    (within : last.rounds ≤ tally.rounds + controller.patience tally.rounds) :
    framesToWait ≤ final.display.refreshCount - engine.display.refreshCount ↔
      last.rounds = tally.rounds + controller.patience tally.rounds := by
  have start := h.refreshCount
  have now := h'.refreshCount
  have difference := UInt8.toNat_sub final.display.refreshCount engine.display.refreshCount
  rw [start, now] at difference
  rw [UInt8.le_iff_toNat_le, difference]
  show 2 ≤ _ ↔ _
  cases controller with
  | character =>
    simp only [Controller.frames, Controller.patience] at within ⊢
    omega
  | bitmap =>
    simp only [Controller.frames, Controller.patience] at within ⊢
    omega

/-- So many rounds are missing to the end of a wait that began behind the rounds of `tally`. -/
def Awaits (controller : Controller) (world : World) (base : Nat) (tally : Tally) (missing : Nat)
    (engine : Engine) : Prop :=
  ∃ now : Tally, Steady controller world base now engine ∧ tally.rounds ≤ now.rounds ∧
    now.rounds + missing = tally.rounds + controller.patience tally.rounds

/-- One more round, and one less is missing. -/
theorem Awaits.round {events : List Event} {missing : Nat}
    (h : Awaits controller world base tally (missing + 1) engine) (serves : world.Serves controller)
    (round : Tally.after? {} events = some ⟨1, 0⟩) :
    Awaits controller world base tally missing (engine.nextAll events) := by
  obtain ⟨now, steady, later, rest⟩ := h
  have shifted : now.rounds = now.rounds + ({} : Tally).rounds := rfl
  have ahead : ({} : Tally).told ≤ now.told := Nat.zero_le _
  obtain ⟨next, told, total⟩ := Tally.after?_behind round shifted ahead
  rw [← map_event_steps engine events] at told
  refine ⟨next, steady.of_run serves (run_steps engine events) told, ?_, ?_⟩
  · rw [total]
    exact Nat.le_add_right_of_le later
  · rw [total, Nat.add_assoc, Nat.add_comm 1 missing]
    exact rest

/-- Two frames were counted once nothing is missing, and not before. -/
theorem Awaits.counted_iff {missing : Nat} (h : Steady controller world base tally engine)
    (awaits : Awaits controller world base tally missing final) :
    framesToWait ≤ final.display.refreshCount - engine.display.refreshCount ↔ missing = 0 := by
  obtain ⟨now, steady, later, rest⟩ := awaits
  rw [h.waited_iff steady later (by omega)]
  omega

/-- A wait that lets one round happen at a time takes its rounds and no more. -/
theorem Steady.sync {relax : Engine → Except Defect Engine} {limit : Nat}
    (h : Steady controller world base tally engine) (serves : world.Serves controller)
    (relaxes : RelaxesByRounds relax) (patient : controller.patience tally.rounds ≤ limit) :
    ∃ waited, engine.sync relax limit = .ok waited ∧
      waited.ticks = controller.patience tally.rounds ∧ waited.done = true := by
  have begins : Awaits controller world base tally (controller.patience tally.rounds) engine :=
    ⟨tally, h, Nat.le_refl _, rfl⟩
  refine exists_waitSince (fun missing state awaits => ⟨fun counted => ?_, ?_⟩)
    (fun state awaits => (awaits.counted_iff h).2 rfl) begins patient
  · exact absurd ((awaits.counted_iff h).1 counted) (Nat.succ_ne_zero missing)
  · obtain ⟨events, round, relaxed⟩ := relaxes state
    exact ⟨_, relaxed, awaits.round serves round⟩

end Engine

/--
**The cadence of a driver without faults.** Let the first bring-up succeed on a board whose world
has devices and no faults, and let rounds happen, with anything from the foreground in between.
After any number of them a transfer is running, nothing was recovered, and the counter has grown by
the frames of these rounds, modulo 256. Whatever comes next within a round, only its end starts a
transfer: a frame on a character display, and on a panel the upper row, the lower row or an opening
by the number of the round, each serialized from what the display holds at that moment. A wait whose
hook lets one round happen takes two rounds on a character display, and on a panel six less those of
the pass that is under way.
-/
theorem cadence_of_rounds {config : Config} {display : Display} {devices : List UInt8}
    {engine started : Engine} {powerOn : PowerOn}
    (new : Engine.ofConfig config display { world := { devices } } = .ok engine)
    (up : engine.bringUp = .ok (.ok powerOn, started)) :
    (∀ events, ∃ steps final, Run started steps final ∧ steps.map Step.event = events) ∧
    ∀ steps final tally, Run started steps final →
      Tally.after? {} (steps.map Step.event) = some tally →
        final.activity = .inFlight ∧ final.statistics.recoveries = 0 ∧
        final.display.refreshCount.toNat =
          (display.refreshCount.toNat + powerOn.controller.frames tally.rounds) % 256 ∧
        (∀ (step : Step) (next : Tally), step.before = final →
          tally.next? step.event = some next →
            step.transfers =
              if step.event = .interrupt .transferDone then
                [(final.stream (.ofRound powerOn.controller next.rounds)).flatten]
              else []) ∧
        ∀ relax limit, RelaxesByRounds relax →
          powerOn.controller.patience tally.rounds ≤ limit →
            ∃ waited, final.sync relax limit = .ok waited ∧
              waited.ticks = powerOn.controller.patience tally.rounds ∧ waited.done = true := by
  have same : engine.display = display := by rw [Engine.eq_of_ofConfig new]
  obtain ⟨serves, begins⟩ := (Engine.untouched_of_ofConfig new).steady up
  rw [same] at begins
  refine ⟨exists_run started, fun steps final tally run told => ?_⟩
  have steady := begins.of_run serves run told
  refine ⟨steady.activity, steady.recoveries, steady.refreshCount, ?_, ?_⟩
  · rintro step next rfl told
    exact steady.transfers serves told
  · intro relax limit relaxes patient
    exact steady.sync serves relaxes patient

/-- A panel after four rounds is in its second pass, and a wait for two frames takes five more. -/
theorem cadence_of_rounds_panel : ∃ engine started,
    Engine.ofConfig {} {} { world := { devices := [0x3c] } } = .ok engine ∧
      engine.bringUp = .ok (.ok ⟨.bitmap 0x3c, true⟩, started) ∧
      let round := [.interrupt .busEvent, .clear, .interrupt .busEvent, .interrupt .transferDone]
      let final := started.nextAll (round ++ round ++ round ++ round)
      final.activity = .inFlight ∧ final.display.refreshCount.toNat = 1 ∧
        ∃ waited, final.sync (fun engine => .ok (engine.nextAll round)) 8 = .ok waited ∧
          waited.ticks = 5 ∧ waited.done = true := by
  have new : Engine.ofConfig {} {} { world := { devices := [0x3c] } } = .ok _ := rfl
  obtain ⟨started, up⟩ := (Engine.untouched_of_ofConfig new).bringUp
  refine ⟨_, started, new, up, ?_⟩
  intro round final
  obtain ⟨inFlight, _, count, _, waits⟩ := (cadence_of_rounds new up).2 _ final ⟨4, 0⟩
    (run_steps started _) (by rw [Engine.map_event_steps]; rfl)
  exact ⟨inFlight, count, waits _ 8 (fun _ => ⟨round, rfl, rfl⟩) (by decide)⟩

end StatusDisplay
