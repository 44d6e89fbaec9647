import StatusDisplay.Proofs.Engine.Recovery
import StatusDisplay.Proofs.Run.Addresses
import StatusDisplay.Proofs.Sync.Character

/-!
# The recovery contract

A bus error can hit a driver in every state that it can get into, with any word on the bus and any
fault on its lines. What the driver does about it has bounds that depend on neither:
`recovery_contract` gives them, for a display that is known and for none.
-/

namespace StatusDisplay

/-- A bus error of a known display, which makes these calls. -/
structure Reinitialised (engine : Engine) (controller : Controller) (calls : List Call)
    (after : Engine) : Prop where
  /-- One attempt, and its outcome. -/
  attempt : ∃ result, engine.aborted.bringUp = .ok (result, after) ∧
    engine.Ended after controller result
  recoveries : after.statistics.recoveries = engine.statistics.recoveries + 1
  reset : calls.count .reset = 1
  supply : calls.count (.setPowered true) = 1
  noPullDown : ∀ line, .setLineMode line .pullDownInput ∉ calls
  starts : calls.count .requestStart ≤ 1
  written : calls.filterMap Call.written? <+: restartBytes controller
  /-- No address is tried but the controller's own. -/
  tried : ∃ tried, tried <+: [controller.address] ∧
    after.board.wire.addressesTried = engine.board.wire.addressesTried ++ tried
  mode : after.mode = .ofController controller
  display : after.display = engine.display
  setup : engine.SameSetup after
  armed : after.watchdog.armed = true
  alarm : after.board.alarm = some after.watchdog.timeout

/-- A bus error without a display: the error flags are removed and the error is recorded. -/
structure OnlyNoted (engine after : Engine) : Prop where
  calm : after.board.master.flags.hasErrors = false
  /-- The other flags, and the rest of the board's state, stay as they are. -/
  board : after.board = { engine.board with
    master.flags := engine.board.master.flags.without .errorFlags
    trace := .clearErrors engine.board.master.flags.errors :: engine.board.trace }
  rest : after = { engine with
    bus.board := engine.board.clearErrors
    statistics.lastFailure := some engine.errorKind
    activity := .failed }

namespace Engine

variable {engine after : Engine}

theorem addressesTried_of_retaken {controller : Controller} {calls : List Call}
    (exchange : Exchange engine.board calls after.board) (retaken : Retaken controller calls)
    (short : addressOf (controller.address <<< 1) = controller.address) :
    ∃ tried, tried <+: [controller.address] ∧
      after.board.wire.addressesTried = engine.board.wire.addressesTried ++ tried := by
  obtain ⟨sent, sub, grown⟩ := exchange.addressBytes fun _ => rfl
  refine ⟨sent.map addressOf, ?_, ?_⟩
  · cases sub.trans (retaken.firstWrites_eq true).sublist with
    | cons _ none =>
      obtain rfl := List.sublist_nil.1 none
      exact List.nil_prefix
    | cons_cons _ none =>
      obtain rfl := List.sublist_nil.1 none
      exact ⟨[], by rw [List.append_nil, List.map_singleton, short]⟩
  · rw [Wire.addressesTried, grown, List.map_append, List.reverse_append, List.map_reverse,
      List.reverse_reverse]
    rfl

theorem onlyNoted_noted (engine : Engine) : OnlyNoted engine engine.noted where
  calm := Status.hasErrors_without _
  board := rfl
  rest := rfl

theorem Ended.recoveries {controller : Controller} {result : Except BringUpError PowerOn}
    (h : engine.Ended after controller result) :
    after.statistics.recoveries = engine.statistics.recoveries + 1 := by
  cases h with
  | started _ statistics => rw [statistics]
  | silent _ _ statistics => rw [statistics]

/-- A bus error of a known display. -/
theorem reinitialised {controller : Controller} (engine : Engine)
    (known : engine.mode.controller? = some controller)
    (short : addressOf (controller.address <<< 1) = controller.address) : ∃ after rest,
      engine.onBusError = .ok after ∧
      Exchange engine.board (.clearErrors engine.board.master.flags.errors :: rest) after.board ∧
      Reinitialised engine controller (.clearErrors engine.board.master.flags.errors :: rest)
        after := by
  obtain ⟨result, after, attempted, broughtUp⟩ := engine.aborted.exists_bringUp
  obtain ⟨rest, exchange, retaken, ended⟩ := broughtUp.retaken known
  have aborted : engine.aborted.mode.controller? = some controller := by
    rw [engine.frame_aborted.mode]
    exact known
  have restarted := (Recovered.broughtUp known broughtUp).restarted known
  have watched := broughtUp.armed aborted
  refine ⟨after, rest, onBusError_of_known known attempted, exchange, ?_⟩
  exact {
    attempt := ⟨result, attempted, ended⟩
    recoveries := ended.recoveries
    reset := retaken.count_reset
    supply := retaken.count_setPowered
    noPullDown := retaken.not_mem_setLineMode
    starts := retaken.count_requestStart
    written := retaken.written
    tried := addressesTried_of_retaken exchange retaken short
    mode := restarted.mode
    display := restarted.display
    setup := engine.sameSetup_aborted.trans broughtUp.sameSetup
    armed := watched.1
    alarm := watched.2 }

end Engine

/--
**The recovery contract.** Let a driver be in any state that it can get into, change the world
around it in any way, and let a bus error hit it. If a display is known, there is one attempt to
bring it up again: one reset, one supply, no look for a display, at most one start condition and no
address but the display's own. It stays known and goes back to the start of its frame, its text is
kept, and the watchdog runs, whether or not the attempt succeeds. If no display is known, the error
is recorded and nothing else is done.
-/
theorem recovery_contract {engine : Engine} (reachable : Reachable engine) (world : World)
    (raised : Status) :
    let struck := engine.modifyBoard (·.changeWorld world raised)
    ∃ after cleared rest,
      struck.onBusError = .ok after ∧
      Exchange struck.board (.clearErrors cleared :: rest) after.board ∧
      struck.errorKind = (if cleared.hasErrors then .busFault else .transferStall) ∧
      match engine.mode.controller? with
      | some controller => Reinitialised struck controller (.clearErrors cleared :: rest) after
      | none => rest = [] ∧ OnlyNoted struck after := by
  intro struck
  have kind : struck.errorKind =
      if struck.board.master.flags.errors.hasErrors then .busFault else .transferStall := by
    rw [Status.hasErrors_errors]
    rfl
  cases mode : engine.mode.controller? with
  | some controller =>
    have known : struck.mode.controller? = some controller := mode
    obtain ⟨after, rest, handled, exchange, restored⟩ :=
      struck.reinitialised known (reachable.addressOf_known mode)
    exact ⟨after, _, rest, handled, exchange, kind, restored⟩
  | none =>
    have unknown : struck.mode = .unknown := Engine.mode_eq_unknown_iff.2 mode
    exact ⟨struck.noted, _, [], Engine.onBusError_of_unknown unknown, struck.exchange_noted, kind,
      rfl, struck.onlyNoted_noted⟩

/-- A character display on a bus that has just got stuck. -/
theorem recovery_contract_stuck : ∃ after calls,
    (greeted.modifyBoard (·.changeWorld { stuck := true } .none)).onBusError = .ok after ∧
      Reinitialised (greeted.modifyBoard (·.changeWorld { stuck := true } .none))
        (.character 0x27) calls after := by
  obtain ⟨after, _, _, handled, _, _, restored⟩ :=
    recovery_contract reachable_greeted { stuck := true } .none
  rw [mode_greeted] at restored
  exact ⟨after, _, handled, restored⟩

end StatusDisplay
