import StatusDisplay.Proofs.Bus.Calm

/-!
# A search does not see where the last one stopped

A search that has failed may leave the bus master within a transaction. The next one starts with a start
condition, and from there on the phase that it found plays no part. On a stuck bus no start condition
gets out, but there the phase does not show either: the first wait sees no flags until it runs out of
time.
-/

namespace StatusDisplay

/-- The board at another point of a transaction. -/
def Board.withPhase (board : Board) (phase : Phase) : Board := { board with master.phase := phase }

namespace Board

variable {first second : Board}

/-- The boards are alike, but one of them may have been left within a transaction. -/
def AlikeButPhase (first second : Board) : Prop := first.Alike (second.withPhase first.master.phase)

theorem AlikeButPhase.world (h : first.AlikeButPhase second) : first.world = second.world := by
  have alike : first.Alike (second.withPhase first.master.phase) := h
  exact alike.world

/-- A start condition that gets out makes them alike. -/
theorem AlikeButPhase.requestStart (h : first.AlikeButPhase second)
    (free : first.world.stuck = false) : first.requestStart.Alike second.requestStart := by
  have alike : first.Alike (second.withPhase first.master.phase) := h
  have started := alike.perform .requestStart
  have out (board : Board) (free : board.world.stuck = false) : board.requestStart =
      { board with
        master.flags := board.master.flags ||| Status.startSent
        master.phase := .started }.record .requestStart := by
    unfold Board.requestStart
    rw [free]
    rfl
  rw [h.world] at free
  rw [out second free]
  have started' : first.requestStart.Alike (second.withPhase first.master.phase).requestStart := started
  rw [out (second.withPhase first.master.phase) free] at started'
  exact started'

/-- No start condition gets out, no flags are set, and no words are laid down. -/
structure Mute (board : Board) : Prop extends board.Calm where
  stuck : board.world.stuck = true

theorem Mute.status {board : Board} (h : board.Mute) : board.status = .none :=
  (status_eq_flags h.words (.inr h.stuck)).trans h.flags

theorem Mute.readStatus {board : Board} (h : board.Mute) : board.readStatus.Mute :=
  ⟨h.toCalm.readStatus, h.stuck⟩

theorem Mute.requestStart {board : Board} (h : board.Mute) : board.requestStart.Mute := by
  unfold Board.requestStart
  rw [if_pos h.stuck]
  exact ⟨⟨h.flags, h.words⟩, h.stuck⟩

end Board

namespace Bus

variable {first second : Bus}

/-- The buses are calm and alive, and one of them may have been left within a transaction. -/
structure Retries (first second : Bus) : Prop where
  board : first.board.AlikeButPhase second.board
  calm : first.board.Calm
  calm' : second.board.Calm
  alive : first.alive = true
  alive' : second.alive = true
  timeout : first.timeout = second.timeout

/-! ## A stuck bus -/

/-- Waits on mute boards run out of time together. -/
theorem together_poll_of_mute (flags : Status) (asks : Status.none.contains flags = false)
    (clears : Bool) (start start' : Nat) (first second : Bus)
    (since : first.board.clock + start' = second.board.clock + start)
    (timeout : first.timeout = second.timeout) (mute : first.board.Mute) (mute' : second.board.Mute) :
    ∃ dead dead', poll flags clears start first = .error .timeout dead ∧
      poll flags clears start' second = .error .timeout dead' ∧
      first.board.Together second.board dead.board dead'.board ∧
      dead.alive = false ∧ dead'.alive = false := by
  have ticks (bus : Bus) : bus.readStatus.board.clock = bus.board.clock + Board.pollMicros := rfl
  have read (first second : Bus) (mute : first.board.Mute) (mute' : second.board.Mute) :
      first.board.Together second.board first.readStatus.board second.readStatus.board := by
    refine ⟨_, .readStatus first.board, ?_⟩
    rw [mute.status, ← mute'.status]
    exact .readStatus second.board
  fun_induction poll flags clears start first generalizing second with
  | case1 first shows =>
    rw [mute.status, asks] at shows
    cases shows
  | case2 first _ faulty =>
    rw [mute.status] at faulty
    cases faulty
  | case3 first _ _ late =>
    have late' : second.timeout < second.readStatus.board.clock - start' := by
      rw [ticks, ← timeout]
      rw [ticks] at late
      omega
    refine ⟨_, second.readStatus.died, rfl, ?_, read first second mute mute', rfl, rfl⟩
    unfold poll
    rw [mute'.status, asks, if_neg Bool.noConfusion, if_neg Bool.noConfusion, if_pos late']
  | case4 first _ _ early ih =>
    have early' : ¬ second.timeout < second.readStatus.board.clock - start' := by
      rw [ticks, ← timeout]
      rw [ticks] at early
      omega
    have since' : first.readStatus.board.clock + start' = second.readStatus.board.clock + start := by
      rw [ticks, ticks]
      omega
    obtain ⟨dead, dead', run, run', calls, died, died'⟩ :=
      ih second.readStatus since' timeout mute.readStatus mute'.readStatus
    refine ⟨dead, dead', run, ?_, (read first second mute mute').trans calls, died, died'⟩
    rw [poll.eq_def, mute'.status, asks, if_neg Bool.noConfusion, if_neg Bool.noConfusion, if_neg early']
    exact run'

theorem together_requestStart (first second : Bus) :
    first.board.Together second.board (first.modifyBoard Board.requestStart).board
      (second.modifyBoard Board.requestStart).board :=
  ⟨_, .requestStart first.board, .requestStart second.board⟩

/-- What is left of an attempt once its start condition was requested. -/
def attemptRest (address : UInt8) : BusM Unit :=
  (do
    waitFor .startSent
    perform (·.writeData (address <<< 1))
    waitFor .addressAcked
    perform Board.acknowledgeAddress : BusM Unit) >>= fun _ => do
      sendByte 0
      stop

theorem attempt_eq (address : UInt8) (bus : Bus) :
    attempt address bus = attemptRest address (bus.modifyBoard Board.requestStart) := rfl

theorem looksAhead_attemptRest (address : UInt8) : LooksAhead (attemptRest address) :=
  .bind (.bind (looksAhead_waitFor _) fun _ => .bind (.perform (.writeData · _)) fun _ =>
    .bind (looksAhead_waitFor _) fun _ => .perform .acknowledgeAddress) fun _ =>
      .bind (looksAhead_sendByte 0) fun _ => looksAhead_stop

/-- On a stuck bus an attempt ends with its first wait. -/
theorem attempt_of_late {address : UInt8} {bus dead : Bus}
    (late : waitFor .startSent (bus.modifyBoard Board.requestStart) = .error .timeout dead) :
    attempt address bus = .error .timeout dead := by
  rw [attempt_eq]
  show EStateM.bind (EStateM.bind (waitFor .startSent) _) _ _ = _
  unfold EStateM.bind
  rw [late]

namespace Retries

variable (retries : first.Retries second)
include retries

/-- On a free bus the first probe makes the buses alike. -/
theorem scan_of_free (free : first.board.world.stuck = false) (address : UInt8) (rest : List UInt8) :
    AnswersAlike first second (first.scan (address :: rest)) (second.scan (address :: rest)) := by
  have started : (first.modifyBoard Board.requestStart).Alike
      (second.modifyBoard Board.requestStart) :=
    ⟨retries.board.requestStart free, retries.timeout, retries.alive.trans retries.alive'.symm⟩
  -- What is left of the first probe, and all probes behind it, begin on buses that are alike.
  have later := looksAhead_attemptRest address _ _ started
  rw [← attempt_eq, ← attempt_eq] at later
  exact answersAlike_scan_cons retries.alive retries.alive'
    (answersAlike_probe (later.prepend (together_requestStart first second))) (answersAlike_scan rest)

/-- On a stuck bus the first probe ends both scans. -/
theorem scan_of_stuck (stuck : first.board.world.stuck = true) (address : UInt8) (rest : List UInt8) :
    ∃ dead dead', first.scan (address :: rest) = (none, dead) ∧
      second.scan (address :: rest) = (none, dead') ∧
      first.board.Together second.board dead.board dead'.board ∧
      dead.alive = false ∧ dead'.alive = false := by
  have mute : first.board.Mute := ⟨retries.calm, stuck⟩
  have mute' : second.board.Mute := ⟨retries.calm', retries.board.world ▸ stuck⟩
  obtain ⟨dead, dead', late, late', calls, died, died'⟩ :=
    together_poll_of_mute .startSent rfl true _ _ (first.modifyBoard Board.requestStart)
      (second.modifyBoard Board.requestStart) (Nat.add_comm _ _) retries.timeout mute.requestStart
      mute'.requestStart
  have scan (bus dead : Bus) (alive : bus.alive = true)
      (late : attempt address bus = .error .timeout dead) (died : dead.alive = false) :
      bus.scan (address :: rest) = (none, dead) := by
    rw [Bus.scan, if_pos alive, probe_of_error late]
    exact scan_of_dead died rest
  exact ⟨dead, dead', scan first dead retries.alive (attempt_of_late late) died,
    scan second dead' retries.alive' (attempt_of_late late') died',
    (together_requestStart first second).trans calls, died, died'⟩

/-- **Two searches have the same result, wherever the ones before have stopped.** -/
theorem detect (config : Config) :
    (∃ controller bus bus', Bus.detect config first = .ok controller bus ∧
      Bus.detect config second = .ok controller bus' ∧
      first.board.Together second.board bus.board bus'.board ∧ bus.Alike bus') ∨
    ∃ error bus bus', Bus.detect config first = .error error bus ∧
      Bus.detect config second = .error error bus' ∧
      first.board.Together second.board bus.board bus'.board ∧ bus.alive = bus'.alive := by
  have missed (bus next : Bus) (scan : bus.scan config.scanOrder = (none, next)) :
      Bus.detect config bus =
        .error (if next.alive then .noDeviceFound else .bus .timeout) next := by
    rw [Bus.detect, scan]
  cases order : config.scanOrder with
  | nil =>
    rw [order] at missed
    refine .inr ⟨_, _, _, missed first first rfl, ?_, .refl _ _,
      retries.alive.trans retries.alive'.symm⟩
    rw [missed second second rfl, retries.alive, retries.alive']
  | cons address rest =>
    cases stuck : first.board.world.stuck with
    | false =>
      have answers := retries.scan_of_free stuck address rest
      rw [← order] at answers
      obtain found | ⟨error, bus, bus', run, run', calls, alike⟩ :=
        (together_detect config answers).cases
      · exact .inl found
      · exact .inr ⟨error, bus, bus', run, run', calls, alike.alive⟩
    | true =>
      obtain ⟨dead, dead', run, run', calls, died, died'⟩ := retries.scan_of_stuck stuck address rest
      rw [order] at missed
      refine .inr ⟨_, dead, dead', missed first dead run, ?_, calls, died.trans died'.symm⟩
      rw [missed second dead' run', died, died']

end Retries

end Bus

end StatusDisplay
