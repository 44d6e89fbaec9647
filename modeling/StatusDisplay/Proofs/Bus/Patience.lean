import StatusDisplay.Proofs.Bus.Waits

/-!
# How long a wait lasts

Every poll takes the same time, so a timeout leaves room for a fixed number of them, and the answers
to these polls tell how a wait ends. For flags that is the first word which shows them all or shows an
error (`EndsAt`), for a stop condition the number of polls that find it unfinished. `Wait.Lasts` gives
the calls of each wait together with its end, and `bounded_waits` spells it out for all sequences of
words.
-/

namespace StatusDisplay

/-- Whether a wait for `flags` ends at this word, one way or the other. -/
def Status.settles (word flags : Status) : Bool := word.contains flags || word.hasErrors

theorem Status.settles_of_contains {word flags : Status} (shows : word.contains flags = true) :
    word.settles flags = true := by
  simp [settles, shows]

theorem Status.settles_of_hasErrors {word : Status} (flags : Status)
    (faulty : word.hasErrors = true) : word.settles flags = true := by
  simp [settles, faulty]

/-- The word that a status read finds after `n` others. -/
def Board.word (board : Board) : Nat → Status
  | 0 => board.status
  | n + 1 => board.readStatus.word n

/-- Words that are laid down are found in their order. -/
theorem Board.word_of_lt {board : Board} {n : Nat} (h : n < board.world.statusWords.length) :
    board.word n = board.world.statusWords[n] := by
  induction n generalizing board with
  | zero =>
    obtain ⟨first, rest, laid⟩ := List.exists_cons_of_length_pos h
    simp [word, status, laid]
  | succ n ih =>
    have tail : board.readStatus.world.statusWords = board.world.statusWords.tail := rfl
    have inside : n < board.readStatus.world.statusWords.length := by
      rw [tail, List.length_tail]
      omega
    rw [word, ih inside]
    simp [tail]

namespace Bus

/-- The number of polls for which a timeout leaves room. The last one finds that the time is over. -/
def polls (timeout : Nat) : Nat := timeout / Board.pollMicros + 1

/-- The clock tells how many polls there have been, and so whether there is room for another. -/
theorem late_iff {clock start n timeout : Nat} (since : clock = start + n * Board.pollMicros) :
    timeout < clock - start ↔ polls timeout ≤ n := by
  rw [since, polls, Board.pollMicros]
  omega

/-- How steps end. -/
def ending {α : Type} : EStateM.Result BusError Bus α → Option BusError
  | .ok .. => none
  | .error error _ => some error

/-- Any words can be shown, by laying down as many as there is time for. -/
theorem exists_shown (timeout : Nat) (words : Nat → Status) :
    ∃ bus : Bus, bus.timeout = timeout ∧ ∀ i < polls timeout, bus.board.word i = words i := by
  let laid := (List.range (polls timeout)).map words
  refine ⟨{ timeout, board.world.statusWords := laid }, rfl, fun i inTime => ?_⟩
  have inside : i < laid.length := by simpa [laid] using inTime
  rw [Board.word_of_lt inside]
  simp [laid]

/-! ## Waits for flags -/

/-- The word at `i` is the first at which a wait for `flags` ends. -/
structure EndsAt (words : Nat → Status) (flags : Status) (i : Nat) : Prop where
  settles : (words i).settles flags = true
  passed : ∀ j < i, (words j).settles flags = false

theorem EndsAt.unique {words : Nat → Status} {flags : Status} {i j : Nat}
    (h : EndsAt words flags i) (h' : EndsAt words flags j) : i = j := by
  rcases Nat.lt_trichotomy i j with before | same | behind
  · exact absurd h.settles (Bool.eq_false_iff.1 (h'.passed i before))
  · exact same
  · exact absurd h'.settles (Bool.eq_false_iff.1 (h.passed j behind))

/-- Reads of the first `n` words. -/
def reads (words : Nat → Status) (n : Nat) : List Call :=
  (List.range n).map fun i => .status (words i)

theorem reads_succ (words : Nat → Status) (n : Nat) :
    reads words (n + 1) = .status (words 0) :: reads (fun i => words (i + 1)) n := by
  simp [reads, List.range_succ_eq_map]

@[simp] theorem length_reads (words : Nat → Status) (n : Nat) : (reads words n).length = n := by
  simp [reads]

theorem reads_congr {words words' : Nat → Status} {n : Nat} (same : ∀ i < n, words i = words' i) :
    reads words n = reads words' n := by
  apply List.map_congr_left
  intro i mem
  rw [same i (List.mem_range.1 mem)]

/-- How a wait for `flags` ends that finds these words and has room for `room` polls, and its calls. -/
inductive FlagWait (words : Nat → Status) (flags : Status) (clears : Bool) (room : Nat) :
    Option BusError → List Call → Prop where
  /-- The flags are there, whatever else is. -/
  | seen {i : Nat} (inTime : i < room) (ends : EndsAt words flags i)
      (shows : (words i).contains flags = true) :
      FlagWait words flags clears room none (reads words (i + 1))
  | fault {i : Nat} {cleared : Status} (inTime : i < room) (ends : EndsAt words flags i)
      (hides : (words i).contains flags = false) :
      FlagWait words flags clears room (some .fault)
        (reads words (i + 1) ++ if clears then [.clearErrors cleared] else [])
  | timeout (passed : ∀ i < room, (words i).settles flags = false) :
      FlagWait words flags clears room (some .timeout) (reads words room)

namespace FlagWait

variable {words words' : Nat → Status} {flags : Status} {clears : Bool} {room i : Nat}
  {ends : Option BusError} {calls : List Call}

/-- A word that is passed over comes first. -/
theorem cons (h : FlagWait (fun i => words (i + 1)) flags clears room ends calls)
    (passed : (words 0).settles flags = false) :
    FlagWait words flags clears (room + 1) ends (.status (words 0) :: calls) := by
  have later {i : Nat} (h : EndsAt (fun i => words (i + 1)) flags i) :
      EndsAt words flags (i + 1) := by
    refine ⟨h.settles, fun j before => ?_⟩
    cases j with
    | zero => exact passed
    | succ j => exact h.passed j (by omega)
  cases h with
  | seen inTime ends shows =>
    rw [← reads_succ]
    exact .seen (by omega) (later ends) shows
  | fault inTime ends hides =>
    rw [← List.cons_append, ← reads_succ]
    exact .fault (by omega) (later ends) hides
  | timeout passed' =>
    rw [← reads_succ]
    refine .timeout fun i inTime => ?_
    cases i with
    | zero => exact passed
    | succ i => exact passed' i (by omega)

/-- Only the words for which there is room matter. -/
theorem congr (h : FlagWait words flags clears room ends calls)
    (same : ∀ i < room, words i = words' i) : FlagWait words' flags clears room ends calls := by
  have ended {i : Nat} (inTime : i < room) (h : EndsAt words flags i) : EndsAt words' flags i := by
    refine ⟨same i inTime ▸ h.settles, fun j before => ?_⟩
    rw [← same j (by omega)]
    exact h.passed j before
  have read {n : Nat} (inTime : n ≤ room) : reads words n = reads words' n :=
    reads_congr fun i before => same i (by omega)
  cases h with
  | seen inTime ends shows =>
    rw [read inTime]
    exact .seen inTime (ended inTime ends) (same _ inTime ▸ shows)
  | fault inTime ends hides =>
    rw [read inTime]
    exact .fault inTime (ended inTime ends) (same _ inTime ▸ hides)
  | timeout passed =>
    rw [read (Nat.le_refl room)]
    exact .timeout fun i inTime => same i inTime ▸ passed i inTime

/-- What the first word says at which the wait ends, if there is room for it. -/
theorem of_endsAt (h : FlagWait words flags clears room ends calls) (inTime : i < room)
    (first : EndsAt words flags i) :
    ((words i).contains flags = true ∧ ends = none ∧ calls = reads words (i + 1)) ∨
      ((words i).contains flags = false ∧ ends = some .fault ∧ ∃ cleared,
        calls = reads words (i + 1) ++ if clears then [.clearErrors cleared] else []) := by
  cases h with
  | seen _ ends shows =>
    obtain rfl := first.unique ends
    exact .inl ⟨shows, rfl, rfl⟩
  | fault _ ends hides =>
    obtain rfl := first.unique ends
    exact .inr ⟨hides, rfl, _, rfl⟩
  | timeout passed => exact absurd first.settles (Bool.eq_false_iff.1 (passed i inTime))

/-- There is room for the reads, and then the errors may be removed. -/
theorem length_le (h : FlagWait words flags clears room ends calls) : calls.length ≤ room + 1 := by
  cases h with
  | seen inTime => simp only [length_reads]; omega
  | fault inTime =>
    cases clears with
    | true => simp only [if_true, List.length_append, length_reads, List.length_singleton]; omega
    | false => simp only [Bool.false_eq_true, if_false, List.append_nil, length_reads]; omega
  | timeout => simp only [length_reads]; omega

theorem length_le_of_seen (h : FlagWait words flags clears room none calls) :
    calls.length ≤ room := by
  cases h with
  | seen inTime => simp only [length_reads]; omega

/-- Without such a word the time runs out. -/
theorem of_passed (h : FlagWait words flags clears room ends calls)
    (passed : ∀ i < room, (words i).settles flags = false) :
    ends = some .timeout ∧ calls = reads words room := by
  cases h with
  | seen inTime ends => exact absurd ends.settles (Bool.eq_false_iff.1 (passed _ inTime))
  | fault inTime ends => exact absurd ends.settles (Bool.eq_false_iff.1 (passed _ inTime))
  | timeout => exact ⟨rfl, rfl⟩

end FlagWait

/--
A wait that has polled `n` times so far has room for the rest. The induction is on the loop; what
carries it is that the clock tells the number of polls since the start.
-/
theorem exists_flagWait (flags : Status) (clears : Bool) {start n : Nat} (bus : Bus)
    (since : bus.board.clock = start + n * Board.pollMicros) (inTime : n < polls bus.timeout) :
    ∃ calls, Exchange bus.board calls (after (poll flags clears start bus)).board ∧
      FlagWait bus.board.word flags clears (polls bus.timeout - n)
        (ending (poll flags clears start bus)) calls := by
  have look (bus : Bus) : Exchange bus.board [.status bus.board.status] bus.readStatus.board :=
    .readStatus bus.board
  have first {bus : Bus} (settles : bus.board.status.settles flags = true) :
      EndsAt bus.board.word flags 0 :=
    ⟨settles, fun j before => absurd before (Nat.not_lt_zero j)⟩
  have since_readStatus {bus : Bus} {n : Nat}
      (since : bus.board.clock = start + n * Board.pollMicros) :
      bus.readStatus.board.clock = start + (n + 1) * Board.pollMicros := by
    rw [Nat.succ_mul, ← Nat.add_assoc, ← since]
    rfl
  fun_induction poll flags clears start bus generalizing n with
  | case1 bus shows =>
    exact ⟨_, look bus, .seen (by omega) (first (Status.settles_of_contains shows)) shows⟩
  | case2 bus hides faulty =>
    rw [Bool.not_eq_true] at hides
    refine ⟨[.status bus.board.status] ++
      if clears then [.clearErrors bus.board.master.flags.errors] else [], ?_, ?_⟩
    · cases clears with
      | false => exact look bus
      | true => exact (look bus).append (.clearErrors _)
    · exact .fault (by omega) (first (Status.settles_of_hasErrors flags faulty)) hides
  | case3 bus hides sound late =>
    have passed : bus.board.status.settles flags = false := by
      simp [Status.settles, hides, sound]
    have ended := (late_iff (since_readStatus since)).1 late
    have last : polls bus.timeout - n = 1 := by omega
    refine ⟨_, look bus, ?_⟩
    rw [last]
    refine .timeout fun i inside => ?_
    obtain rfl : i = 0 := by omega
    exact passed
  | case4 bus hides sound early ih =>
    have passed : bus.board.status.settles flags = false := by
      simp [Status.settles, hides, sound]
    have inTime' : n + 1 < polls bus.timeout := by
      rw [late_iff (since_readStatus since)] at early
      omega
    obtain ⟨calls, exchange, waited⟩ := ih (since_readStatus since) inTime'
    refine ⟨_, (look bus).append exchange, ?_⟩
    have room : polls bus.timeout - n = polls bus.timeout - (n + 1) + 1 := by omega
    rw [room]
    exact waited.cons passed

/-! ## Waits for a stop condition -/

/-- How a wait ends for a stop condition that `busy` polls find unfinished, and its polls. -/
inductive StopWait (busy room : Nat) : Option BusError → List Call → Prop where
  | out (inTime : busy < room) :
      StopWait busy room none (List.replicate busy (.stopPending true) ++ [.stopPending false])
  | timeout (late : room ≤ busy) :
      StopWait busy room (some .timeout) (List.replicate room (.stopPending true))

/-- One more poll that finds the stop condition unfinished. -/
theorem StopWait.cons {busy room : Nat} {ends : Option BusError} {calls : List Call}
    (h : StopWait busy room ends calls) :
    StopWait (busy + 1) (room + 1) ends (.stopPending true :: calls) := by
  cases h with
  | out inTime => exact .out (Nat.succ_lt_succ inTime)
  | timeout late => exact .timeout (Nat.succ_le_succ late)

theorem StopWait.length_le {busy room : Nat} {ends : Option BusError} {calls : List Call}
    (h : StopWait busy room ends calls) : calls.length ≤ room := by
  cases h with
  | out inTime => simp only [List.length_append, List.length_replicate, List.length_singleton]; omega
  | timeout => simp

theorem exists_stopWait {start n : Nat} (bus : Bus)
    (since : bus.board.clock = start + n * Board.pollMicros) (inTime : n < polls bus.timeout) :
    ∃ calls, Exchange bus.board calls (after (pollStop start bus)).board ∧
      StopWait bus.board.world.stopBusy (polls bus.timeout - n)
        (ending (pollStop start bus)) calls := by
  have look (bus : Bus) :
      Exchange bus.board [.stopPending bus.board.stopPending] bus.readStop.board :=
    .pollStop bus.board
  have since_readStop {bus : Bus} {n : Nat} (pending : bus.board.stopPending = true)
      (since : bus.board.clock = start + n * Board.pollMicros) :
      bus.readStop.board.clock = start + (n + 1) * Board.pollMicros := by
    rw [Nat.succ_mul, ← Nat.add_assoc, ← since]
    exact Board.clock_pollStop pending
  fun_induction pollStop start bus generalizing n with
  | case1 bus pending late =>
    have seen := look bus
    rw [pending] at seen
    have busy : 0 < bus.board.world.stopBusy := of_decide_eq_true pending
    have ended := (late_iff (since_readStop pending since)).1 late
    have last : polls bus.timeout - n = 1 := by omega
    refine ⟨_, seen, ?_⟩
    rw [last]
    exact .timeout busy
  | case2 bus pending early ih =>
    have seen := look bus
    rw [pending] at seen
    have busy : 0 < bus.board.world.stopBusy := of_decide_eq_true pending
    have inTime' : n + 1 < polls bus.timeout := by
      rw [late_iff (since_readStop pending since)] at early
      omega
    obtain ⟨calls, exchange, waited⟩ := ih (since_readStop pending since) inTime'
    refine ⟨_, seen.append exchange, ?_⟩
    have fewer : bus.readStop.board.world.stopBusy = bus.board.world.stopBusy - 1 := by
      simp [readStop, modifyBoard, Board.pollStop, pending, Board.record]
    have room : polls bus.timeout - n = polls bus.timeout - (n + 1) + 1 := by omega
    have count : bus.board.world.stopBusy = bus.readStop.board.world.stopBusy + 1 := by omega
    rw [room, count]
    exact waited.cons
  | case3 bus free =>
    have seen := look bus
    rw [Bool.not_eq_true] at free
    rw [free] at seen
    have none : bus.board.world.stopBusy = 0 := by
      have := of_decide_eq_false free
      omega
    refine ⟨_, seen, ?_⟩
    rw [none]
    exact .out (by omega)

/-! ## All waits -/

/--
How a wait ends on a bus that shows these words and finds a stop condition unfinished `busy` times,
and its calls; each of its loops has room for `room` polls.
-/
inductive Wait.Lasts (words : Nat → Status) (busy room : Nat) :
    Wait → Option BusError → List Call → Prop where
  | flags {flags : Status} {ends : Option BusError} {calls : List Call}
      (waited : FlagWait words flags true room ends calls) :
      Lasts words busy room (.flags flags) ends calls
  | stop {ends : Option BusError} {calls : List Call} (waited : StopWait busy room ends calls) :
      Lasts words busy room .stop ends (.requestStop :: calls)
  /-- The last byte is not seen to leave, so no stop condition is requested. -/
  | unclosed {error : BusError} {calls : List Call}
      (waited : FlagWait words .byteTransferred false room (some error) calls) :
      Lasts words busy room .close (some error) calls
  | close {ends : Option BusError} {calls more : List Call}
      (waited : FlagWait words .byteTransferred false room none calls)
      (stopped : StopWait busy room ends more) :
      Lasts words busy room .close ends (calls ++ .requestStop :: more)

namespace Wait.Lasts

variable {words : Nat → Status} {busy room i : Nat} {ends : Option BusError} {calls : List Call}

theorem length_le {wait : Wait} (h : wait.Lasts words busy room ends calls) :
    calls.length ≤ 2 * room + 1 := by
  cases h with
  | flags waited => have := waited.length_le; omega
  | stop stopped =>
    have := stopped.length_le
    rw [List.length_cons]
    omega
  | unclosed waited => have := waited.length_le; omega
  | close waited stopped =>
    have := waited.length_le_of_seen
    have := stopped.length_le
    rw [List.length_append, List.length_cons]
    omega

/-- A close that sees the last byte leave goes on to its stop condition. -/
theorem stopped_of_seen (h : Wait.Lasts words busy room .close ends calls) (inTime : i < room)
    (first : EndsAt words .byteTransferred i) (shows : (words i).contains .byteTransferred = true) :
    ∃ more, StopWait busy room ends more ∧ calls = reads words (i + 1) ++ .requestStop :: more := by
  cases h with
  | unclosed waited =>
    obtain ⟨_, ⟨⟩, _⟩ | ⟨hides, _⟩ := waited.of_endsAt inTime first
    exact absurd shows (Bool.eq_false_iff.1 hides)
  | close waited stopped =>
    obtain ⟨_, _, rfl⟩ | ⟨_, ⟨⟩, _⟩ := waited.of_endsAt inTime first
    exact ⟨_, stopped, rfl⟩

end Wait.Lasts

theorem exists_waitFor (flags : Status) (clears : Bool) (bus : Bus) :
    ∃ calls, Exchange bus.board calls (after (poll flags clears bus.board.clock bus)).board ∧
      FlagWait bus.board.word flags clears (polls bus.timeout)
        (ending (poll flags clears bus.board.clock bus)) calls := by
  refine exists_flagWait (n := 0) flags clears bus ?_ ?_
  · rw [Nat.zero_mul, Nat.add_zero]
  · exact Nat.succ_pos _

theorem exists_stop (bus : Bus) :
    ∃ calls, Exchange bus.board (.requestStop :: calls) (after (stop bus)).board ∧
      StopWait bus.board.world.stopBusy (polls bus.timeout) (ending (stop bus)) calls := by
  let requested := bus.modifyBoard Board.requestStop
  have since : requested.board.clock = bus.board.clock + 0 * Board.pollMicros := by
    rw [Nat.zero_mul]
    rfl
  obtain ⟨calls, exchange, waited⟩ := exists_stopWait requested since (Nat.succ_pos _)
  exact ⟨calls, (Exchange.requestStop bus.board).append exchange, waited⟩

/-- Polls for flags leave the stop condition to come. -/
theorem stopBusy_poll (flags : Status) (clears : Bool) (start : Nat) (bus : Bus) :
    (after (poll flags clears start bus)).board.world.stopBusy = bus.board.world.stopBusy := by
  fun_induction poll flags clears start bus with
  | case1 => rfl
  | case2 => cases clears <;> rfl
  | case3 => rfl
  | case4 _ _ _ _ ih => exact ih

/-- **Every wait ends**, as the words and the stop condition tell. -/
theorem Wait.exists_lasts (wait : Wait) (bus : Bus) :
    ∃ calls, Exchange bus.board calls (after (wait.run bus)).board ∧
      wait.Lasts bus.board.word bus.board.world.stopBusy (polls bus.timeout)
        (ending (wait.run bus)) calls := by
  cases wait with
  | flags flags =>
    obtain ⟨calls, exchange, waited⟩ := exists_waitFor flags true bus
    exact ⟨calls, exchange, .flags waited⟩
  | stop =>
    obtain ⟨calls, exchange, waited⟩ := exists_stop bus
    exact ⟨_, exchange, .stop waited⟩
  | close =>
    obtain ⟨calls, exchange, waited⟩ := exists_waitFor .byteTransferred false bus
    have traffic := traffic_poll .byteTransferred false bus.board.clock bus
    have busy := stopBusy_poll .byteTransferred false bus.board.clock bus
    have run : Wait.close.run bus =
        EStateM.bind (poll .byteTransferred false bus.board.clock) (fun _ => Bus.stop) bus := rfl
    rw [run]
    unfold EStateM.bind
    revert exchange waited traffic busy
    cases poll .byteTransferred false bus.board.clock bus with
    | error error next =>
      intro exchange waited _ _
      exact ⟨calls, exchange, .unclosed waited⟩
    | ok _ next =>
      intro exchange waited traffic busy
      obtain ⟨more, exchange', stopped⟩ := exists_stop next
      have sameTime : next.timeout = bus.timeout := traffic.timeout
      have sameBusy : next.board.world.stopBusy = bus.board.world.stopBusy := busy
      rw [sameTime, sameBusy] at stopped
      exact ⟨_, exchange.append exchange', .close waited stopped⟩

/-- Steps that keep account of time leave the bus as alive as it was, unless their time ran out. -/
theorem Accounts.alive_after {α : Type} {steps : BusM α} (h : Accounts steps) (bus : Bus) :
    (after (steps bus)).alive = (bus.alive && decide (ending (steps bus) ≠ some .timeout)) := by
  have account := h bus
  revert account
  cases steps bus with
  | ok _ next =>
    intro account
    have same : next.alive = bus.alive := account
    simp [after, ending, same]
  | error error next =>
    intro account
    cases error with
    | timeout =>
      have dead : next.alive = false := account
      simp [after, ending, dead]
    | fault =>
      have same : next.alive = bus.alive := account
      simp [after, ending, same]

/-- What a wait on a bus comes to: its end, its calls, and whether the bus is alive then. -/
structure Wait.ComesTo (wait : Wait) (bus : Bus) (ends : Option BusError) (calls : List Call)
    (alive : Bool) : Prop where
  ends : ending (wait.run bus) = ends
  exchange : Exchange bus.board calls (after (wait.run bus)).board
  alive : (after (wait.run bus)).alive = alive

section Bounds

variable (bus : Bus) (words : Nat → Status) (flags : Status)

/-- What a wait for flags comes to on a bus that shows these words. -/
structure BoundedFlags : Prop where
  /-- The first word that ends it shows the flags, perhaps together with an error. -/
  seen : ∀ i < polls bus.timeout, EndsAt words flags i → (words i).contains flags = true →
    (Wait.flags flags).ComesTo bus none (reads words (i + 1)) bus.alive
  /-- It shows an error but not the flags; the error is removed. -/
  fault : ∀ i < polls bus.timeout, EndsAt words flags i → (words i).contains flags = false →
    ∃ cleared, (Wait.flags flags).ComesTo bus (some .fault)
      (reads words (i + 1) ++ [.clearErrors cleared]) bus.alive
  /-- There is no such word for which there is time. -/
  timeout : (∀ i < polls bus.timeout, (words i).settles flags = false) →
    (Wait.flags flags).ComesTo bus (some .timeout) (reads words (polls bus.timeout)) false

/-- What a wait for a stop condition comes to. -/
structure BoundedStop : Prop where
  out : bus.board.world.stopBusy < polls bus.timeout →
    Wait.stop.ComesTo bus none
      (.requestStop :: (List.replicate bus.board.world.stopBusy (.stopPending true) ++
        [.stopPending false])) bus.alive
  timeout : polls bus.timeout ≤ bus.board.world.stopBusy →
    Wait.stop.ComesTo bus (some .timeout)
      (.requestStop :: List.replicate (polls bus.timeout) (.stopPending true)) false

/-- What the close of a transaction comes to on a bus that shows these words. No errors are removed. -/
structure BoundedClose : Prop where
  closed : ∀ i < polls bus.timeout, EndsAt words .byteTransferred i →
    (words i).contains .byteTransferred = true → bus.board.world.stopBusy < polls bus.timeout →
      Wait.close.ComesTo bus none
        (reads words (i + 1) ++ .requestStop ::
          (List.replicate bus.board.world.stopBusy (.stopPending true) ++ [.stopPending false]))
        bus.alive
  /-- The last byte has left, but the stop condition does not come out in time. -/
  unstopped : ∀ i < polls bus.timeout, EndsAt words .byteTransferred i →
    (words i).contains .byteTransferred = true → polls bus.timeout ≤ bus.board.world.stopBusy →
      Wait.close.ComesTo bus (some .timeout)
        (reads words (i + 1) ++ .requestStop ::
          List.replicate (polls bus.timeout) (.stopPending true)) false
  fault : ∀ i < polls bus.timeout, EndsAt words .byteTransferred i →
    (words i).contains .byteTransferred = false →
      Wait.close.ComesTo bus (some .fault) (reads words (i + 1)) bus.alive
  timeout : (∀ i < polls bus.timeout, (words i).settles .byteTransferred = false) →
    Wait.close.ComesTo bus (some .timeout) (reads words (polls bus.timeout)) false

end Bounds

section Shown

variable {bus : Bus} {words : Nat → Status}
  (shown : ∀ i < polls bus.timeout, bus.board.word i = words i)
include shown

theorem Wait.exists_comesTo (wait : Wait) : ∃ ends calls,
    wait.Lasts words bus.board.world.stopBusy (polls bus.timeout) ends calls ∧
      wait.ComesTo bus ends calls (bus.alive && decide (ends ≠ some .timeout)) := by
  obtain ⟨calls, exchange, lasts⟩ := wait.exists_lasts bus
  refine ⟨_, calls, ?_, rfl, exchange, wait.accounts.alive_after bus⟩
  generalize ending (wait.run bus) = ends at lasts
  cases lasts with
  | flags waited => exact .flags (waited.congr shown)
  | stop stopped => exact .stop stopped
  | unclosed waited => exact .unclosed (waited.congr shown)
  | close waited stopped => exact .close (waited.congr shown) stopped

theorem boundedFlags (flags : Status) : BoundedFlags bus words flags := by
  obtain ⟨ends, calls, ⟨waited⟩, comes⟩ := Wait.exists_comesTo shown (.flags flags)
  constructor
  · intro i inTime first shows
    obtain ⟨_, rfl, rfl⟩ | ⟨hides, _⟩ := waited.of_endsAt inTime first
    · simpa using comes
    · exact absurd shows (Bool.eq_false_iff.1 hides)
  · intro i inTime first hides
    obtain ⟨shows, _⟩ | ⟨_, rfl, cleared, rfl⟩ := waited.of_endsAt inTime first
    · exact absurd shows (Bool.eq_false_iff.1 hides)
    · exact ⟨cleared, by simpa using comes⟩
  · intro passed
    obtain ⟨rfl, rfl⟩ := waited.of_passed passed
    simpa using comes

/-- The stop condition of a close is waited for only if the last byte was seen to leave. -/
theorem boundedClose : BoundedClose bus words := by
  obtain ⟨ends, calls, lasts, comes⟩ := Wait.exists_comesTo shown .close
  constructor
  · intro i inTime first shows ready
    obtain ⟨more, stopped, rfl⟩ := lasts.stopped_of_seen inTime first shows
    cases stopped with
    | out => simpa using comes
    | timeout late => omega
  · intro i inTime first shows late
    obtain ⟨more, stopped, rfl⟩ := lasts.stopped_of_seen inTime first shows
    cases stopped with
    | out ready => omega
    | timeout => simpa using comes
  · intro i inTime first hides
    cases lasts with
    | unclosed waited =>
      obtain ⟨_, ⟨⟩, _⟩ | ⟨_, ⟨⟩, _, rfl⟩ := waited.of_endsAt inTime first
      simpa using comes
    | close waited stopped =>
      obtain ⟨shows, _⟩ | ⟨_, ⟨⟩, _⟩ := waited.of_endsAt inTime first
      exact absurd shows (Bool.eq_false_iff.1 hides)
  · intro passed
    cases lasts with
    | unclosed waited =>
      obtain ⟨⟨⟩, rfl⟩ := waited.of_passed passed
      simpa using comes
    | close waited stopped =>
      obtain ⟨⟨⟩, _⟩ := waited.of_passed passed

omit shown in
theorem boundedStop (bus : Bus) : BoundedStop bus := by
  have shown : ∀ i < polls bus.timeout, bus.board.word i = bus.board.word i := fun _ _ => rfl
  obtain ⟨ends, calls, lasts, comes⟩ := Wait.exists_comesTo shown .stop
  constructor
  · intro ready
    cases lasts with
    | stop stopped =>
      cases stopped with
      | out => simpa using comes
      | timeout late => omega
  · intro late
    cases lasts with
    | stop stopped =>
      cases stopped with
      | out ready => omega
      | timeout => simpa using comes

/--
**Waits are bounded.** On a bus that shows `words` for as long as its timeout leaves room, each of the
three waits ends after a number of polls that the words and the stop condition alone decide. A wait for
flags ends at the first word that settles it, a word with both flags and errors counts as a success,
and errors are removed only where they end the wait; a close removes none. A wait that has used up its
room leaves the bus dead, every other one leaves it as alive as it was. The words can be any.
-/
theorem bounded_waits :
    (∀ flags, BoundedFlags bus words flags) ∧ BoundedStop bus ∧ BoundedClose bus words ∧
      (∀ wait : Wait, ∃ ends calls alive, wait.ComesTo bus ends calls alive ∧
        calls.length ≤ 2 * polls bus.timeout + 1) ∧
      ∀ (timeout : Nat) (any : Nat → Status), ∃ other : Bus,
        other.timeout = timeout ∧ ∀ i < polls timeout, other.board.word i = any i := by
  refine ⟨boundedFlags shown, boundedStop bus, boundedClose shown, fun wait => ?_, exists_shown⟩
  obtain ⟨ends, calls, lasts, comes⟩ := Wait.exists_comesTo shown wait
  exact ⟨ends, calls, _, comes, lasts.length_le⟩

end Shown

/--
A bus with time for three polls. The last byte leaves with the third, which shows an error too, and
the stop condition is unfinished for one poll more than there is time for.
-/
def hurried : Bus where
  timeout := 120
  board.world.statusWords := [.none, .none, .byteTransferred ||| .busError]
  board.world.stopBusy := 3

theorem bounded_waits_hurried :
    (∀ i < polls hurried.timeout,
      hurried.board.word i = [.none, .none, .byteTransferred ||| .busError].getD i .none) ∧
    (∃ cleared, (Wait.flags .addressAcked).ComesTo hurried (some .fault)
      [.status .none, .status .none, .status (.byteTransferred ||| .busError), .clearErrors cleared]
      true) ∧
    Wait.close.ComesTo hurried (some .timeout)
      [.status .none, .status .none, .status (.byteTransferred ||| .busError), .requestStop,
        .stopPending true, .stopPending true, .stopPending true] false := by
  have shown : ∀ i < polls hurried.timeout,
      hurried.board.word i = [.none, .none, .byteTransferred ||| .busError].getD i .none := by
    decide
  obtain ⟨flags, _, close, _⟩ := bounded_waits shown
  refine ⟨shown, ?_, ?_⟩
  · exact (flags .addressAcked).fault 2 (by decide) ⟨by decide, by decide⟩ (by decide)
  · exact close.unstopped 2 (by decide) ⟨by decide, by decide⟩ (by decide) (by decide)

end Bus

end StatusDisplay
