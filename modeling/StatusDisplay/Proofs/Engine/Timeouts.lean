import StatusDisplay.Proofs.Bus.Timeouts
import StatusDisplay.Proofs.Engine.Scene
import StatusDisplay.Proofs.Engine.Transfers

/-!
# A bring-up that runs out of time

A probe swallows its failure, and the scan turns the state of the bus into a result; a handshake passes
its failure on. Both ways agree: a bring-up reports a timeout exactly if it leaves the bus dead, and
that is exactly if one of its waits ran out of time (`Timely`). There is one such wait at most, and
behind it the bus is left alone.
-/

namespace StatusDisplay

/-- Calls that put something on the bus or look at it. -/
def Call.usesBus : Call → Bool
  | .status _ | .requestStart | .requestStop | .stopPending _ | .writeData _ | .startTransfer _ => true
  | _ => false

namespace Engine

variable {engine after identified : Engine} {controller : Controller}

/-- How the waits of a search for the display end. A display that is known is not searched for. -/
def searchOutcomes (engine : Engine) : List (Option BusError) :=
  if engine.mode.controller?.isNone && engine.pulledUp then
    Bus.scanOutcomes engine.config.scanOrder engine.checked.attach.bus
  else []

/-- How the waits of a handshake end, if a character display is greeted. -/
def greetingOutcomes (engine : Engine) : List (Option BusError) :=
  match engine.wake.identify engine.mode.controller? with
  | (.ok (.character address), identified) =>
    Bus.outcomes (Bus.shaking address) (identified.adopt (.character address)).bus
  | _ => []

/-- How the waits of a bring-up end. -/
def bringUpOutcomes (engine : Engine) : List (Option BusError) :=
  engine.searchOutcomes ++ engine.greetingOutcomes

/-- Between the engines the bus is used up to a wait that runs out of time, and no more. -/
def StopsLate (engine after : Engine) : Prop :=
  ∃ (wait : Bus.Wait) (before dead : Bus) (earlier during later : List Call),
    Exchange engine.board earlier before.board ∧ before.alive = true ∧
      wait.run before = .error .timeout dead ∧ Exchange before.board during dead.board ∧
      Exchange dead.board later after.board ∧ ∀ call ∈ later, call.usesBus = false

/-- What the bus tells about time at the end of a bring-up. -/
structure Timely (engine : Engine) (result : Except BringUpError PowerOn) (after : Engine) : Prop where
  /-- A timeout is reported if the bus is dead, and only then. -/
  reported : result = .error (.bus .timeout) ↔ after.bus.alive = false
  /-- The bus is dead if a wait ran out of time, and only then. -/
  noticed : some .timeout ∈ engine.bringUpOutcomes ↔ after.bus.alive = false
  /-- At most one wait runs out of time. -/
  once : engine.bringUpOutcomes.count (some .timeout) ≤ 1
  /-- Nothing is put on the bus behind it. -/
  stops : after.bus.alive = false → engine.StopsLate after

/-! ## The search -/

theorem searchOutcomes_of_known (known : engine.mode.controller? = some controller) :
    engine.searchOutcomes = [] := by
  rw [searchOutcomes, known]
  rfl

theorem searchOutcomes_of_unknown (unknown : engine.mode = .unknown) :
    engine.searchOutcomes = if engine.pulledUp then
      Bus.scanOutcomes engine.config.scanOrder engine.checked.attach.bus else [] := by
  rw [searchOutcomes, unknown]
  rfl

/-- A search that is made leaves the bus dead if a wait of it ran out of time, and only then. -/
theorem timeout_mem_searchOutcomes_iff (unknown : engine.mode = .unknown)
    (pulled : engine.pulledUp = true) : some .timeout ∈ engine.searchOutcomes ↔
      (Bus.after (Bus.detect engine.config engine.checked.attach.bus)).alive = false := by
  have living : engine.checked.attach.bus.alive = true := rfl
  have scan := Bus.alive_scan engine.config.scanOrder engine.checked.attach.bus
  rw [searchOutcomes_of_unknown unknown, if_pos pulled, Bus.after_detect, scan, living]
  simp

theorem count_searchOutcomes_le (engine : Engine) :
    engine.searchOutcomes.count (some .timeout) ≤ 1 := by
  unfold searchOutcomes
  split
  case isTrue => exact Bus.count_scanOutcomes_le _ _
  case isFalse => exact Nat.zero_le 1

/-- A display that was named has been found in time. -/
theorem Identified.alive (h : engine.Identified controller identified) :
    identified.bus.alive = true ∧ some .timeout ∉ engine.searchOutcomes := by
  cases h with
  | known known =>
    rw [searchOutcomes_of_known known]
    exact ⟨rfl, List.not_mem_nil⟩
  | @found bus unknown pulled scan =>
    have living : bus.alive = true := by
      obtain ⟨_, next, run, alive⟩ | ⟨_, run, _⟩ | ⟨_, run, _⟩ :=
        Bus.detect_cases engine.config engine.checked.attach.bus
      · rw [scan] at run
        cases run
        exact alive
      · cases scan.symm.trans run
      · cases scan.symm.trans run
    refine ⟨living, ?_⟩
    rw [timeout_mem_searchOutcomes_iff unknown pulled, scan]
    exact (Bool.not_eq_false _).mpr living

/-- The greeting of a display that was named. -/
theorem Identified.identify_eq (h : engine.Identified controller identified) :
    engine.wake.identify engine.mode.controller? = (.ok controller, identified) := by
  cases h with
  | known known => exact identify_of_known known
  | found unknown pulled scan =>
    rw [identify_of_unknown unknown, if_pos pulled]
    exact detect_of_ok scan

theorem Identified.greetingOutcomes_eq {address : UInt8}
    (h : engine.Identified (.character address) identified) : engine.greetingOutcomes =
      Bus.outcomes (Bus.shaking address) (identified.adopt (.character address)).bus := by
  rw [greetingOutcomes, h.identify_eq]

theorem Identified.greetingOutcomes_of_bitmap {address : UInt8}
    (h : engine.Identified (.bitmap address) identified) : engine.greetingOutcomes = [] := by
  rw [greetingOutcomes, h.identify_eq]

/-- A display that was named is greeted on a bus that is alive. -/
theorem Identified.timeout_mem_greetingOutcomes_iff {address : UInt8}
    (h : engine.Identified (.character address) identified) : some .timeout ∈ engine.greetingOutcomes ↔
      (Bus.after (Bus.handshake address (identified.adopt (.character address)).bus)).alive = false := by
  have living := (identified.alive_adopt (.character address)).trans h.alive.1
  rw [h.greetingOutcomes_eq, Bus.alive_handshake, living]
  simp

/-! ## Giving up -/

/-- A driver that gives up leaves the bus alone. -/
theorem leavesBus_giveUp (engine : Engine) (firstBoot : Bool) (error : BringUpError) :
    engine.board.Makes (!·.usesBus) (engine.giveUp firstBoot error).board := by
  cases firstBoot with
  | true => exact .of_exchange (engine.recordFailure error.kind).exchange_shutDown rfl
  | false => exact .of_exchange (engine.recordFailure error.kind).exchange_rearm rfl

/-- A wait that runs out of time, and nothing on the bus from there on. -/
theorem StopsLate.of_endsLate {first : Bus} {dead : Bus} {p : Call → Bool}
    (before : engine.board.Makes p first.board) (living : first.alive = true)
    (late : first.EndsLate dead) (left : dead.board.Makes (!·.usesBus) after.board) :
    engine.StopsLate after := by
  obtain ⟨earlier, exchange, _⟩ := before
  obtain ⟨wait, waiting, ⟨more, reached, _⟩, same, run⟩ := late
  obtain ⟨during, waited, _⟩ := (wait.isTraffic_run.of_error run).makes
  obtain ⟨later, given, all⟩ := left
  refine ⟨wait, waiting, dead, earlier ++ more, during, later, exchange.append reached,
    same.trans living, run, waited, given, fun call mem => ?_⟩
  simpa using List.all_eq_true.1 all call mem

/-! ## The results of a bring-up -/

/-- A bring-up that is in time all along. -/
theorem Timely.of_alive {result : Except BringUpError PowerOn}
    (reported : result ≠ .error (.bus .timeout)) (living : after.bus.alive = true)
    (searched : some .timeout ∉ engine.searchOutcomes)
    (greeted : some .timeout ∉ engine.greetingOutcomes) : engine.Timely result after := by
  have none : some .timeout ∉ engine.bringUpOutcomes := by
    rw [bringUpOutcomes, List.mem_append]
    exact not_or_intro searched greeted
  have alive : ¬ after.bus.alive = false := (Bool.not_eq_false _).mpr living
  exact {
    reported := iff_of_false reported alive
    noticed := iff_of_false none alive
    once := by rw [List.count_eq_zero_of_not_mem none]; exact Nat.zero_le 1
    stops := fun dead => absurd dead alive }

theorem timely_of_undetected {error : BringUpError} {bus : Bus} (unknown : engine.mode = .unknown)
    (pulled : engine.pulledUp = true)
    (scan : Bus.detect engine.config engine.checked.attach.bus = .error error bus) :
    engine.Timely (.error error) ((engine.checked.attach.setBus bus).giveUp true error) := by
  have ungreeted : engine.greetingOutcomes = [] := by
    rw [greetingOutcomes, identify_of_unknown unknown, if_pos pulled, detect_of_error scan]
  have searched := timeout_mem_searchOutcomes_iff unknown pulled
  rw [scan] at searched
  let stopped := engine.checked.attach.setBus bus
  have same := stopped.alive_giveUp true error
  obtain ⟨_, _, run, _⟩ | ⟨next, run, living⟩ | ⟨next, run, dead⟩ :=
    Bus.detect_cases engine.config engine.checked.attach.bus
  · cases scan.symm.trans run
  · cases scan.symm.trans run
    refine .of_alive (by simp) (same.trans living) ?_ ?_
    · rw [searched]
      exact (Bool.not_eq_false _).mpr living
    · rw [ungreeted]
      exact List.not_mem_nil
  · cases scan.symm.trans run
    have late : some .timeout ∈ engine.searchOutcomes := searched.2 dead
    have died : (Bus.scan engine.config.scanOrder engine.checked.attach.bus).2 = bus := by
      rw [← Bus.after_detect, scan]
      rfl
    have reached := engine.silent_checked.trans (silent_attach _)
    have living : engine.checked.attach.bus.alive = true := rfl
    have ends := Bus.endsLate_scan engine.config.scanOrder living
    rw [died] at ends
    have outcomes : engine.bringUpOutcomes = engine.searchOutcomes := by
      rw [bringUpOutcomes, ungreeted, List.append_nil]
    exact {
      reported := iff_of_true rfl (same.trans dead)
      noticed := by rw [outcomes]; exact iff_of_true late (same.trans dead)
      once := by rw [outcomes]; exact count_searchOutcomes_le engine
      stops := fun _ => .of_endsLate reached.makes living (ends dead) (leavesBus_giveUp stopped true _) }

theorem timely_of_unanswered {address : UInt8} {error : BusError} {bus : Bus}
    (named : engine.Identified (.character address) identified)
    (answer : Bus.handshake address (identified.adopt (.character address)).bus = .error error bus) :
    engine.Timely (.error (.bus error)) (((identified.adopt (.character address)).setBus bus).giveUp
      engine.mode.controller?.isNone (.bus error)) := by
  obtain ⟨living, searched⟩ := named.alive
  have adopted := (identified.alive_adopt (.character address)).trans living
  let stopped := (identified.adopt (.character address)).setBus bus
  have same := stopped.alive_giveUp engine.mode.controller?.isNone (.bus error)
  have greeted := named.timeout_mem_greetingOutcomes_iff
  rw [answer] at greeted
  cases error with
  | fault =>
    have alive := ((Bus.accounts_handshake address).of_fault answer).trans adopted
    refine .of_alive (by simp) (same.trans alive) searched ?_
    rw [greeted]
    exact (Bool.not_eq_false _).mpr alive
  | timeout =>
    have dead := (Bus.accounts_handshake address).of_timeout answer
    have late : some .timeout ∈ engine.greetingOutcomes := greeted.2 dead
    have before := named.silent.trans (identified.silent_adopt (.character address))
    exact {
      reported := iff_of_true rfl (same.trans dead)
      noticed := iff_of_true (List.mem_append_right _ late) (same.trans dead)
      once := by
        rw [bringUpOutcomes, List.count_append, List.count_eq_zero_of_not_mem searched, Nat.zero_add,
          named.greetingOutcomes_eq]
        exact Bus.count_outcomes_le _ _
      stops := fun _ => .of_endsLate before.makes adopted (Bus.endsLate_handshake answer)
        (leavesBus_giveUp stopped _ _) }

/-- Whatever a bring-up comes to, the bus tells whether there was time enough. -/
theorem BroughtUp.timely {result : Except BringUpError PowerOn} (h : engine.BroughtUp result after) :
    engine.Timely result after := by
  cases h with
  | floating unknown low =>
    refine .of_alive (by simp) rfl ?_ ?_
    · rw [searchOutcomes_of_unknown unknown, low]
      exact List.not_mem_nil
    · rw [greetingOutcomes, identify_of_unknown unknown, low]
      exact List.not_mem_nil
  | undetected unknown pulled scan => exact timely_of_undetected unknown pulled scan
  | unanswered named answer => exact timely_of_unanswered named answer
  | @character address identified bus named answer =>
    obtain ⟨living, searched⟩ := named.alive
    have adopted := (identified.alive_adopt (.character address)).trans living
    have alive := ((Bus.accounts_handshake address).of_ok answer).trans adopted
    have greeted := named.timeout_mem_greetingOutcomes_iff
    rw [answer] at greeted
    refine .of_alive (by simp) alive searched ?_
    rw [greeted]
    exact (Bool.not_eq_false _).mpr alive
  | @bitmap address identified named =>
    obtain ⟨living, searched⟩ := named.alive
    have adopted := (identified.alive_adopt (.bitmap address)).trans living
    refine .of_alive (by simp) ((alive_launchPanel _).trans adopted) searched ?_
    rw [named.greetingOutcomes_of_bitmap]
    exact List.not_mem_nil

end Engine

/--
**A bus that has run out of time is left alone.** Whatever is asked of a bus, as long as it is not
revived it is dead in the end exactly if it was dead or one of the waits ran out of time. On a dead bus
no address is tried, and the search for a display reports a timeout, without a single call. A bring-up
has a result, which is a timeout exactly if the bus is dead when it returns; and then one wait has run
out of time, and behind that nothing is put on the bus and nothing is waited for.
-/
theorem dead_bus_left_alone :
    (∀ operations bus, (Bus.Operation.runAll operations bus).alive = false ↔
      bus.alive = false ∨ some .timeout ∈ Bus.Operation.allOutcomes operations bus) ∧
    (∀ bus : Bus, bus.alive = false → (∀ range, bus.scanRange range = (none, bus)) ∧
      ∀ config, Bus.detect config bus = .error (.bus .timeout) bus) ∧
    ∀ engine : Engine, ∃ result after,
      engine.bringUp = .ok (result, after) ∧ engine.Timely result after := by
  refine ⟨Bus.Operation.alive_runAll, fun bus dead => ⟨fun range => ?_, ?_⟩, fun engine => ?_⟩
  · exact Bus.scan_of_dead dead range.toList
  · exact Bus.detect_of_dead dead
  · obtain ⟨result, after, given, broughtUp⟩ := engine.exists_bringUp
    exact ⟨result, after, given, broughtUp.timely⟩

/-- An engine whose display acknowledges its address and then holds the first byte. -/
def holdingEngine : Engine where
  config := { lcdRange := ⟨0x27, 0x27⟩ }
  display := {}
  bus := { board := { world := { devices := [0x27, 0x3c], holdBytes := true } }, timeout := 10000 }
  watchdog := { timeout := 200000 }

/-- The wait for that byte is the last thing on the bus, and the panels' addresses are not tried. -/
theorem dead_bus_left_alone_holding : ∃ after,
    holdingEngine.bringUp = .ok (.error (.bus .timeout), after) ∧ after.bus.alive = false ∧
      holdingEngine.StopsLate after ∧ after.board.wire.addressesTried = [0x27] ∧
      after.bus.scanRange .oled = (none, after.bus) := by
  obtain ⟨_, left, boots⟩ := dead_bus_left_alone
  obtain ⟨result, after, given, timely⟩ := boots holdingEngine
  have outcome : (holdingEngine.bringUp.toOption.map fun outcome =>
      (outcome.2.bus.alive, outcome.2.board.wire.addressesTried)) = some (false, [0x27]) := by
    decide +kernel
  rw [given] at outcome
  obtain ⟨dead, tried⟩ := Prod.mk.inj (Option.some.inj outcome)
  have reported : result = .error (.bus .timeout) := timely.reported.2 dead
  subst reported
  exact ⟨after, given, dead, timely.stops dead, tried, (left after.bus dead).1 .oled⟩

end StatusDisplay
