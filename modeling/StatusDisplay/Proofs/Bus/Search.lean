import StatusDisplay.Proofs.Bus.Addressing
import StatusDisplay.Proofs.Bus.Patience
import StatusDisplay.Proofs.Bus.Timeouts

/-!
# The search for a display, probe by probe

A probe tells nobody why it failed, and the search goes by the health of the bus alone. Here the probes
of a search are written down with the calls that they make and the ends of their waits (`Plays` for the
moves of any transaction, `Probe.Made` for a probe). Every probe but the last has failed by a fault, and
the last one decides what the search comes to: `search_goes_in_order`. A wait for a stop condition is
never faulted, so there is one at most, in the last probe; the number of polls that find it unfinished is
all that the answers to them can tell a search.
-/

namespace StatusDisplay.Bus

/-! ## Moves with their calls -/

/-- Moves with room for `room` polls in each loop: how their waits end, and the calls they make. -/
inductive Plays (room : Nat) : List Move → List (Option BusError) → List Call → Prop where
  | done : Plays room [] [] []
  | call {made : Call} {moves : List Move} {ends : List (Option BusError)} {calls : List Call}
      (rest : Plays room moves ends calls) : Plays room (.call made :: moves) ends (made :: calls)
  | passed {wait : Wait} {words : Nat → Status} {busy : Nat} {moves : List Move}
      {ends : List (Option BusError)} {first calls : List Call}
      (lasts : wait.Lasts words busy room none first) (rest : Plays room moves ends calls) :
      Plays room (.wait wait :: moves) (none :: ends) (first ++ calls)
  /-- A wait that fails is the last thing that happens. -/
  | failed {wait : Wait} {words : Nat → Status} {busy : Nat} {moves : List Move}
      {error : BusError} {calls : List Call} (lasts : wait.Lasts words busy room (some error) calls) :
      Plays room (.wait wait :: moves) [some error] calls

/-- Every bus plays the moves of a transaction by hand. -/
theorem exists_plays (moves : List Move) (all : moves.all Move.isTraffic = true) (bus : Bus) :
    ∃ calls, Exchange bus.board calls (after (transact moves bus)).board ∧
      Plays (polls bus.timeout) moves (outcomes moves bus) calls := by
  induction moves generalizing bus with
  | nil => exact ⟨[], .nil bus.board, .done⟩
  | cons move moves ih =>
    rw [List.all_cons, Bool.and_eq_true] at all
    cases move with
    | call made =>
      obtain ⟨_, command⟩ := Bool.and_eq_true_iff.1 all.1
      have first : Exchange bus.board [made] (bus.board.perform made) :=
        .single (bus.board.trace_perform command)
      obtain ⟨calls, exchange, plays⟩ := ih all.2 (bus.modifyBoard (·.perform made))
      exact ⟨made :: calls, first.append exchange, .call plays⟩
    | wait wait =>
      obtain ⟨first, exchange, lasts⟩ := wait.exists_lasts bus
      rw [transact_wait, outcomes]
      cases run : wait.run bus with
      | ok _ next =>
        rw [run] at exchange lasts
        obtain ⟨calls, exchange', plays⟩ := ih all.2 next
        -- Waits leave the timeout alone, so there is the same room in the next loop.
        rw [(wait.isTraffic_run.of_ok run).timeout] at plays
        exact ⟨first ++ calls, exchange.append exchange', .passed lasts plays⟩
      | error error next =>
        rw [run] at exchange lasts
        exact ⟨first, exchange, .failed lasts⟩

/-- The error of the wait that failed, if one did. -/
def failure? (ends : List (Option BusError)) : Option BusError := ends.findSome? id

/-- Moves fail as the first of their waits does that fails. -/
theorem ending_transact (moves : List Move) (bus : Bus) :
    ending (transact moves bus) = failure? (outcomes moves bus) := by
  induction moves generalizing bus with
  | nil => rfl
  | cons move moves ih =>
    cases move with
    | call made => exact ih (bus.modifyBoard (·.perform made))
    | wait wait =>
      rw [transact_wait, outcomes]
      cases wait.run bus with
      | ok _ next => exact ih next
      | error error next => rfl

def Move.isWait : Move → Bool
  | call _ => false
  | wait _ => true

theorem countP_isWait_call (made : Call) (moves : List Move) :
    (Move.call made :: moves).countP Move.isWait = moves.countP Move.isWait :=
  List.countP_cons_of_neg Bool.false_ne_true

theorem countP_isWait_wait (awaited : Wait) (moves : List Move) :
    (Move.wait awaited :: moves).countP Move.isWait = moves.countP Move.isWait + 1 :=
  List.countP_cons_of_pos rfl

/-- Moves that request no stop condition. -/
def Move.keepsOpen : Move → Bool
  | call made => made != .requestStop
  | wait (.flags _) => true
  | wait _ => false

theorem Move.ne_requestStop {made : Call} (keeps : (call made).keepsOpen = true) :
    Call.requestStop ≠ made := by
  rintro rfl
  cases keeps

theorem FlagWait.requestStop_not_mem {words : Nat → Status} {flags : Status} {clears : Bool}
    {room : Nat} {ends : Option BusError} {calls : List Call}
    (h : FlagWait words flags clears room ends calls) : Call.requestStop ∉ calls := by
  cases h with
  | seen => simp [reads]
  | fault => cases clears <;> simp [reads]
  | timeout => simp [reads]

namespace Plays

variable {room : Nat} {moves : List Move} {ends : List (Option BusError)} {calls : List Call}

theorem failure?_eq_none_iff (h : Plays room moves ends calls) :
    failure? ends = none ↔ ends = List.replicate (moves.countP Move.isWait) none := by
  induction h with
  | done => simp [failure?]
  | call _ ih =>
    rw [countP_isWait_call]
    exact ih
  | passed _ _ ih => simpa [failure?, countP_isWait_wait, List.replicate_succ] using ih
  | failed => simp [failure?, countP_isWait_wait, List.replicate_succ]

/-- A stop condition at the end of the moves is requested once all waits before it have succeeded. -/
theorem requestStop_mem_iff (moves : List Move) (all : moves.all Move.keepsOpen = true)
    (h : Plays room (moves ++ [.wait .stop]) ends calls) :
    .requestStop ∈ calls ↔ List.replicate (moves.countP Move.isWait) none <+: ends := by
  induction moves generalizing ends calls with
  | nil =>
    have requested : Call.requestStop ∈ calls := by
      cases h with
      | passed lasts => cases lasts with | stop => simp
      | failed lasts => cases lasts with | stop => simp
    simp [requested]
  | cons move moves ih =>
    rw [List.all_cons, Bool.and_eq_true] at all
    cases h with
    | @call made _ _ _ rest =>
      have other := Move.ne_requestStop all.1
      simpa [countP_isWait_call, other] using ih all.2 rest
    | passed lasts rest =>
      cases lasts with
      | flags waited =>
        simpa [countP_isWait_wait, waited.requestStop_not_mem, List.replicate_succ] using ih all.2 rest
      | _ => cases all.1
    | failed lasts =>
      cases lasts with
      | flags waited =>
        simp [countP_isWait_wait, waited.requestStop_not_mem, List.replicate_succ]
      | _ => cases all.1

/-- A stop condition is not faulted, so moves that fail by a fault have not come to it. -/
theorem requestStop_not_mem (moves : List Move) (all : moves.all Move.keepsOpen = true)
    (h : Plays room (moves ++ [.wait .stop]) ends calls) (fault : failure? ends = some .fault) :
    .requestStop ∉ calls := by
  induction moves generalizing ends calls with
  | nil =>
    cases h with
    | passed _ rest =>
      cases rest
      cases fault
    | failed lasts =>
      cases lasts with
      | stop stopped =>
        cases stopped
        cases fault
  | cons move moves ih =>
    rw [List.all_cons, Bool.and_eq_true] at all
    cases h with
    | @call made _ _ _ rest =>
      have other := Move.ne_requestStop all.1
      exact List.not_mem_cons_of_ne_of_not_mem other (ih all.2 rest fault)
    | passed lasts rest =>
      cases lasts with
      | flags waited =>
        exact List.not_mem_append waited.requestStop_not_mem (ih all.2 rest fault)
      | _ => cases all.1
    | failed lasts =>
      cases lasts with
      | flags waited => exact waited.requestStop_not_mem
      | _ => cases all.1

end Plays

/-! ## Probes -/

/-- A probe as it was made. -/
structure Probe where
  address : UInt8
  /-- How its waits ended: for the start condition, the acknowledgement, the byte, and the stop. -/
  ends : List (Option BusError)
  calls : List Call

namespace Probe

/-- The error by which the probe failed, if it did. -/
def failure? (probe : Probe) : Option BusError := Bus.failure? probe.ends

/-- What a probe of a bus is like. -/
structure Made (probe : Probe) (bus : Bus) : Prop where
  exchange : Exchange bus.board probe.calls (bus.probe probe.address).2.board
  ends : probe.ends = outcomes (probing probe.address) bus
  plays : Plays (polls bus.timeout) (probing probe.address) probe.ends probe.calls
  /-- It succeeds if all four waits do, and only then. -/
  answers : (bus.probe probe.address).1 = true ↔ probe.ends = [none, none, none, none]
  unfailed : probe.failure? = none ↔ probe.ends = [none, none, none, none]
  alive : (bus.probe probe.address).2.alive =
    (bus.alive && decide (probe.failure? ≠ some .timeout))
  /-- It writes no more than the address byte and a zero byte. -/
  actions : probe.calls.filter Call.isAction <+: probeScript probe.address
  /-- A stop condition is requested behind three waits that succeeded. -/
  stops : .requestStop ∈ probe.calls ↔ [none, none, none] <+: probe.ends
  /-- So it is in the last probe of a search only that a stop condition is requested. -/
  unstopped : probe.failure? = some .fault → .requestStop ∉ probe.calls

end Probe

theorem exists_actions {α : Type} {steps : BusM α} {script : List Call} (h : Follows steps script)
    (bus : Bus) : ∃ calls, Exchange bus.board calls (after (steps bus)).board ∧
      calls.filter Call.isAction <+: script := by
  cases run : steps bus with
  | ok value next =>
    obtain ⟨calls, exchange, actions⟩ := h.of_ok run
    exact ⟨calls, exchange, actions ▸ List.prefix_rfl⟩
  | error error next => exact h.of_error run

theorem exists_probe (address : UInt8) (bus : Bus) :
    ∃ probe : Probe, probe.address = address ∧ probe.Made bus := by
  obtain ⟨calls, exchange, plays⟩ := exists_plays (probing address) rfl bus
  have ends := ending_transact (probing address) bus
  have unfailed := plays.failure?_eq_none_iff
  have found : (bus.probe address).1 = (ending (transact (probing address) bus)).isNone := by
    rw [probe_eq]
    cases transact (probing address) bus <;> rfl
  have follows := follows_attempt address
  rw [attempt_eq_transact] at follows
  obtain ⟨calls', exchange', actions⟩ := exists_actions follows bus
  obtain rfl := exchange.unique exchange'
  refine ⟨⟨address, outcomes (probing address) bus, calls⟩, rfl, ?_⟩
  exact {
    exchange := by rw [after_probe]; exact exchange
    ends := rfl
    plays
    answers := by rw [found, ends, Option.isNone_iff_eq_none]; exact unfailed
    unfailed
    alive := by rw [after_probe, (accounts_transact _).alive_after, ends]; rfl
    actions
    stops := Plays.requestStop_mem_iff (opening address ++ sending 0) rfl plays
    unstopped := Plays.requestStop_not_mem (opening address ++ sending 0) rfl plays }

/-! ## Searches -/

/-- From the first bus to the second these probes are made, one after the other. -/
inductive Searches : Bus → List Probe → Bus → Prop where
  | nil (bus : Bus) : Searches bus [] bus
  | cons {bus last : Bus} {probe : Probe} {probes : List Probe} (made : probe.Made bus)
      (rest : Searches (bus.probe probe.address).2 probes last) :
      Searches bus (probe :: probes) last

theorem Searches.exchange {bus last : Bus} {probes : List Probe} (h : Searches bus probes last) :
    Exchange bus.board (probes.flatMap Probe.calls) last.board := by
  induction h with
  | nil bus => exact .nil bus.board
  | cons made _ ih => exact made.exchange.append ih

/-- `last` is the last of the probes, and all before it failed by a fault. -/
def EndsWith (probes : List Probe) (last : Probe) : Prop :=
  ∃ earlier, probes = earlier ++ [last] ∧ ∀ probe ∈ earlier, probe.failure? = some .fault

namespace EndsWith

variable {probe last last' : Probe} {probes : List Probe}

theorem single (probe : Probe) : EndsWith [probe] probe := ⟨[], rfl, nofun⟩

theorem cons (h : EndsWith probes last) (fault : probe.failure? = some .fault) :
    EndsWith (probe :: probes) last := by
  obtain ⟨earlier, rfl, faults⟩ := h
  exact ⟨probe :: earlier, rfl, List.forall_mem_cons.2 ⟨fault, faults⟩⟩

theorem unique (h : EndsWith probes last) (h' : EndsWith probes last') : last = last' := by
  obtain ⟨earlier, rfl, _⟩ := h
  obtain ⟨earlier', same, _⟩ := h'
  exact (List.append_singleton_inj.1 same).2

/-- There are no probes behind one that did not fail by a fault. -/
theorem eq_nil_of_ne_fault {earlier later : List Probe}
    (h : EndsWith (earlier ++ probe :: later) last) (other : probe.failure? ≠ some .fault) :
    later = [] := by
  obtain ⟨faulted, split, faults⟩ := h
  rcases List.eq_nil_or_concat later with rfl | ⟨between, final, rfl⟩
  · rfl
  · rw [List.concat_eq_append, ← List.cons_append, ← List.append_assoc] at split
    obtain ⟨rfl, _⟩ := List.append_singleton_inj.1 split
    exact absurd (faults probe (List.mem_append_right _ List.mem_cons_self)) other

theorem mem (h : EndsWith probes last) : last ∈ probes := by
  obtain ⟨earlier, rfl, _⟩ := h
  exact List.mem_append_right _ (List.mem_singleton_self _)

end EndsWith

/-- What is found by probes of `addresses`, and whether they leave the bus alive. -/
inductive Concluded (addresses : List UInt8) (probes : List Probe) : Option UInt8 → Bool → Prop where
  | found {last : Probe} (ends : EndsWith probes last) (success : last.failure? = none) :
      Concluded addresses probes (some last.address) true
  | late {last : Probe} (ends : EndsWith probes last) (timeout : last.failure? = some .timeout) :
      Concluded addresses probes none false
  | nothing (all : probes.map Probe.address = addresses)
      (faults : ∀ probe ∈ probes, probe.failure? = some .fault) :
      Concluded addresses probes none true

/-- A probe before the others that fails by a fault decides nothing. -/
theorem Concluded.cons {addresses : List UInt8} {probe : Probe} {probes : List Probe}
    {found : Option UInt8} {alive : Bool} (h : Concluded addresses probes found alive)
    (fault : probe.failure? = some .fault) :
    Concluded (probe.address :: addresses) (probe :: probes) found alive := by
  cases h with
  | found ends success => exact .found (ends.cons fault) success
  | late ends timeout => exact .late (ends.cons fault) timeout
  | nothing all faults =>
    exact .nothing (congrArg (probe.address :: ·) all) (List.forall_mem_cons.2 ⟨fault, faults⟩)

namespace Concluded

variable {addresses : List UInt8} {probes : List Probe} {found found' : Option UInt8}
  {alive alive' : Bool}

/-- The probes decide everything. -/
theorem unique (h : Concluded addresses probes found alive)
    (h' : Concluded addresses probes found' alive') : found = found' ∧ alive = alive' := by
  cases h with
  | found ends success =>
    cases h' with
    | found ends' _ =>
      rw [ends.unique ends']
      exact ⟨rfl, rfl⟩
    | late ends' timeout => simp [← ends.unique ends', success] at timeout
    | nothing _ faults => simp [faults _ ends.mem] at success
  | late ends timeout =>
    cases h' with
    | found ends' success => simp [← ends.unique ends', timeout] at success
    | late => exact ⟨rfl, rfl⟩
    | nothing _ faults => simp [faults _ ends.mem] at timeout
  | nothing _ faults =>
    cases h' with
    | found ends success => simp [faults _ ends.mem] at success
    | late ends timeout => simp [faults _ ends.mem] at timeout
    | nothing => exact ⟨rfl, rfl⟩

/-- Probes that have all failed by a fault leave out no address. -/
theorem all_of_faults (h : Concluded addresses probes found alive)
    (faults : ∀ probe ∈ probes, probe.failure? = some .fault) :
    probes.map Probe.address = addresses := by
  cases h with
  | found ends success => simp [faults _ ends.mem] at success
  | late ends timeout => simp [faults _ ends.mem] at timeout
  | nothing all _ => exact all

theorem found_iff (h : Concluded addresses probes found alive) {address : UInt8} :
    found = some address ↔
      ∃ last, EndsWith probes last ∧ last.failure? = none ∧ last.address = address := by
  constructor
  · rintro rfl
    cases h with
    | @found last ends success => exact ⟨last, ends, success, rfl⟩
  · rintro ⟨last, ends, success, rfl⟩
    exact (h.unique (.found ends success)).1

theorem late_iff (h : Concluded addresses probes found alive) :
    found = none ∧ alive = false ↔
      ∃ last, EndsWith probes last ∧ last.failure? = some .timeout := by
  constructor
  · rintro ⟨rfl, rfl⟩
    cases h with
    | @late last ends timeout => exact ⟨last, ends, timeout⟩
  · rintro ⟨last, ends, timeout⟩
    exact h.unique (.late ends timeout)

theorem nothing_iff (h : Concluded addresses probes found alive) :
    found = none ∧ alive = true ↔
      probes.map Probe.address = addresses ∧ ∀ probe ∈ probes, probe.failure? = some .fault := by
  constructor
  · rintro ⟨rfl, rfl⟩
    cases h with
    | nothing all faults => exact ⟨all, faults⟩
  · rintro ⟨all, faults⟩
    exact h.unique (.nothing all faults)

end Concluded

namespace Probe.Made

variable {probe : Probe} {bus : Bus}

theorem scan_of_success (made : probe.Made bus) (living : bus.alive = true)
    (success : probe.failure? = none) (rest : List UInt8) :
    bus.scan (probe.address :: rest) = (some probe.address, (bus.probe probe.address).2) := by
  have found := made.answers.2 (made.unfailed.1 success)
  rw [scan, if_pos living]
  revert found
  cases bus.probe probe.address with
  | mk found next =>
    rintro rfl
    rfl

theorem scan_of_failure (made : probe.Made bus) (living : bus.alive = true) {error : BusError}
    (failure : probe.failure? = some error) (rest : List UInt8) :
    bus.scan (probe.address :: rest) = (bus.probe probe.address).2.scan rest := by
  have silent : (bus.probe probe.address).1 = false := by
    rw [← Bool.not_eq_true, made.answers, ← made.unfailed, failure]
    exact Option.some_ne_none error
  rw [scan, if_pos living]
  revert silent
  cases bus.probe probe.address with
  | mk found next =>
    rintro rfl
    rfl

end Probe.Made

/-- A live bus is scanned probe by probe. -/
theorem exists_scan (addresses : List UInt8) {bus : Bus} (living : bus.alive = true) :
    ∃ probes, Searches bus probes (bus.scan addresses).2 ∧
      probes.map Probe.address <+: addresses ∧
      Concluded addresses probes (bus.scan addresses).1 (bus.scan addresses).2.alive := by
  induction addresses generalizing bus with
  | nil =>
    refine ⟨[], .nil bus, List.prefix_rfl, ?_⟩
    rw [scan_nil, living]
    exact .nothing rfl nofun
  | cons address rest ih =>
    obtain ⟨probe, rfl, made⟩ := exists_probe address bus
    have alive := made.alive
    have only : [probe].map Probe.address <+: probe.address :: rest := ⟨rest, rfl⟩
    have searched : Searches bus [probe] (bus.probe probe.address).2 := .cons made (.nil _)
    rw [living, Bool.true_and] at alive
    -- The scan sees only whether the bus is alive, and that tells one error from the other.
    cases failure : probe.failure? with
    | none =>
      have still : (bus.probe probe.address).2.alive = true := by simpa [failure] using alive
      rw [made.scan_of_success living failure, still]
      exact ⟨[probe], searched, only, .found (.single probe) failure⟩
    | some error =>
      rw [made.scan_of_failure living failure]
      cases error with
      | timeout =>
        have dead : (bus.probe probe.address).2.alive = false := by simpa [failure] using alive
        rw [scan_of_dead dead, dead]
        exact ⟨[probe], searched, only, .late (.single probe) failure⟩
      | fault =>
        have still : (bus.probe probe.address).2.alive = true := by simpa [failure] using alive
        obtain ⟨probes, later, within, concluded⟩ := ih still
        exact ⟨probe :: probes, .cons made later, (List.prefix_cons_inj _).2 within,
          concluded.cons failure⟩

/-- What a search of the addresses of a configuration comes to that makes these probes. -/
structure SearchedBy (config : Config) (bus : Bus) (probes : List Probe) : Prop where
  searches : Searches bus probes (after (detect config bus))
  exchange : Exchange bus.board (probes.flatMap Probe.calls) (after (detect config bus)).board
  /-- Both ranges are gone through in their order, and no address is left out. -/
  order : probes.map Probe.address <+: config.lcdRange.toList ++ config.oledRange.toList
  /-- A fault does not end the search, so one that has met nothing else has come to the last address. -/
  goesOn : (∀ probe ∈ probes, probe.failure? = some .fault) →
    probes.map Probe.address = config.lcdRange.toList ++ config.oledRange.toList
  /-- There are three answers. The bus is dead after a timeout, and only then. -/
  answers : (∃ controller next, detect config bus = .ok controller next ∧ next.alive = true) ∨
    (∃ next, detect config bus = .error .noDeviceFound next ∧ next.alive = true) ∨
    (∃ next, detect config bus = .error (.bus .timeout) next ∧ next.alive = false)
  found : ∀ controller, (∃ next, detect config bus = .ok controller next) ↔
    ∃ last, EndsWith probes last ∧ last.failure? = none ∧
      controller = .classify config last.address
  late : (∃ next, detect config bus = .error (.bus .timeout) next) ↔
    ∃ last, EndsWith probes last ∧ last.failure? = some .timeout
  nothing : (∃ next, detect config bus = .error .noDeviceFound next) ↔
    probes.map Probe.address = config.lcdRange.toList ++ config.oledRange.toList ∧
      ∀ probe ∈ probes, probe.failure? = some .fault

section Detect

variable (config : Config) (bus : Bus)

theorem detect_eq_ok_iff (controller : Controller) :
    (∃ next, detect config bus = .ok controller next) ↔
      ∃ address, (bus.scan config.scanOrder).1 = some address ∧
        controller = .classify config address := by
  unfold detect
  cases bus.scan config.scanOrder with
  | mk found next =>
    cases found with
    | none => simp
    | some address =>
      constructor
      · rintro ⟨_, ⟨⟩⟩
        exact ⟨address, rfl, rfl⟩
      · rintro ⟨_, ⟨⟩, rfl⟩
        exact ⟨next, rfl⟩

theorem detect_eq_timeout_iff : (∃ next, detect config bus = .error (.bus .timeout) next) ↔
    (bus.scan config.scanOrder).1 = none ∧ (bus.scan config.scanOrder).2.alive = false := by
  unfold detect
  cases bus.scan config.scanOrder with
  | mk found next => cases found <;> cases alive : next.alive <;> simp [alive]

theorem detect_eq_noDeviceFound_iff : (∃ next, detect config bus = .error .noDeviceFound next) ↔
    (bus.scan config.scanOrder).1 = none ∧ (bus.scan config.scanOrder).2.alive = true := by
  unfold detect
  cases bus.scan config.scanOrder with
  | mk found next => cases found <;> cases alive : next.alive <;> simp [alive]

end Detect

theorem exists_searchedBy (config : Config) {bus : Bus} (living : bus.alive = true) :
    ∃ probes, SearchedBy config bus probes := by
  obtain ⟨probes, searches, order, concluded⟩ := exists_scan config.scanOrder living
  rw [← after_detect] at searches
  have found (controller : Controller) : (∃ next, detect config bus = .ok controller next) ↔
      ∃ last, EndsWith probes last ∧ last.failure? = none ∧
        controller = .classify config last.address := by
    rw [detect_eq_ok_iff]
    constructor
    · rintro ⟨address, found, rfl⟩
      obtain ⟨last, ends, success, rfl⟩ := concluded.found_iff.1 found
      exact ⟨last, ends, success, rfl⟩
    · rintro ⟨last, ends, success, rfl⟩
      exact ⟨last.address, concluded.found_iff.2 ⟨last, ends, success, rfl⟩, rfl⟩
  refine ⟨probes, ?_⟩
  exact {
    searches
    exchange := searches.exchange
    order
    goesOn := concluded.all_of_faults
    answers := detect_cases config bus
    found
    late := (detect_eq_timeout_iff config bus).trans concluded.late_iff
    nothing := (detect_eq_noDeviceFound_iff config bus).trans concluded.nothing_iff }

/--
**A search goes probe by probe.** The addresses of a range are gone through upwards. A probe of any bus
succeeds if its four waits do, writes at most the address and a zero byte, and requests a stop condition
behind the first three waits. A search of a live bus makes such probes, first of the one range and then
of the other, for as long as they fail by a fault. The first that does not is the last: it tells the
display if it succeeds, and a timeout if one of its waits ran out of time. If all of them fail by a
fault, then every address was probed, and that is what it means that there is no display. Nothing else
comes of a search.
-/
theorem search_goes_in_order (config : Config) {bus : Bus} (living : bus.alive = true) :
    (∀ range : AddressRange, range.toList.Pairwise (· < ·) ∧
      ∀ address, address ∈ range.toList ↔ range.first ≤ address ∧ address ≤ range.last) ∧
    (∀ (address : UInt8) (other : Bus), ∃ probe : Probe,
      probe.address = address ∧ probe.Made other) ∧
    ∃ probes, SearchedBy config bus probes := by
  refine ⟨fun range => ⟨range.pairwise_toList, fun address => ?_⟩, exists_probe,
    exists_searchedBy config living⟩
  rw [AddressRange.mem_toList, AddressRange.contains_iff, UInt8.le_iff_toNat_le,
    UInt8.le_iff_toNat_le]

/-- A bus on which the first address is refused, and after that nothing happens any more. -/
def refusing : Bus where
  timeout := 10000
  board.world.stuck := true
  board.world.statusWords := [.startSent, .ackFailure]

/-- A bus that nobody is on. -/
def deserted : Bus where
  timeout := 10000

/--
The second probe of the one search runs out of time, so there is no third. On the other bus the search
goes on to the end.
-/
theorem search_goes_in_order_refusing :
    (refusing.alive = true ∧ ∃ probes last, SearchedBy {} refusing probes ∧ EndsWith probes last ∧
      last.failure? = some .timeout ∧ probes.map Probe.address = [0x20, 0x21]) ∧
    (deserted.alive = true ∧ ∃ probes, SearchedBy {} deserted probes ∧
      probes.map Probe.address = AddressRange.lcd.toList ++ AddressRange.oled.toList ∧
      probes.length = 16 ∧ ∀ probe ∈ probes, probe.failure? = some .fault) := by
  constructor
  · have living : refusing.alive = true := rfl
    have fault : failure? (outcomes (probing 0x20) refusing) = some .fault := by decide +kernel
    have late : failure? (outcomes (probing 0x21) (refusing.probe 0x20).2) = some .timeout := by
      decide +kernel
    have failed : ∃ next, detect {} refusing = .error (.bus .timeout) next := by
      rw [detect_eq_timeout_iff]
      decide +kernel
    obtain ⟨_, _, probes, searched⟩ := search_goes_in_order {} living
    obtain ⟨last, ends, timeout⟩ := searched.late.1 failed
    refine ⟨living, probes, last, searched, ends, timeout, ?_⟩
    have order : probes.map Probe.address <+: 0x20 :: 0x21 :: _ := searched.order
    have searches := searched.searches
    generalize after (detect {} refusing) = final at searches
    cases searches with
    | nil => exact absurd ends.mem List.not_mem_nil
    | @cons _ _ first _ made rest =>
      obtain ⟨one, order⟩ := List.cons_prefix_cons.1 order
      rw [one] at rest
      have faulted : first.failure? = some .fault := by
        rw [Probe.failure?, made.ends, one, fault]
      cases rest with
      | nil =>
        obtain rfl := List.mem_singleton.1 ends.mem
        cases faulted.symm.trans timeout
      | @cons _ _ second _ made' _ =>
        obtain ⟨two, _⟩ := List.cons_prefix_cons.1 order
        have waited : second.failure? = some .timeout := by
          rw [Probe.failure?, made'.ends, two, late]
        have ends : EndsWith ([first] ++ second :: _) last := ends
        have other : second.failure? ≠ some .fault := by
          rw [waited]
          decide
        rw [ends.eq_nil_of_ne_fault other, List.map_cons, List.map_singleton, one, two]
  · have living : deserted.alive = true := rfl
    have failed : ∃ next, detect {} deserted = .error .noDeviceFound next := by
      rw [detect_eq_noDeviceFound_iff]
      decide +kernel
    obtain ⟨_, _, probes, searched⟩ := search_goes_in_order {} living
    obtain ⟨all, faults⟩ := searched.nothing.1 failed
    have count := congrArg List.length all
    rw [List.length_map] at count
    exact ⟨living, probes, searched, all, count, faults⟩

end StatusDisplay.Bus
