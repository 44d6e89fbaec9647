import StatusDisplay.Proofs.Engine.Transfers
import StatusDisplay.Proofs.Run.Standing

/-!
# Who owns the payload

While a transfer runs, its payload belongs to the transfer channel. The trace of the board tells
when that is: from a start up to the next stop. `Owns` says that the engine keeps to it, and each
kind of step preserves it: one that stops the channel, one that stops it and hands over the next
payload, and one that leaves channel and payload alone.
-/

namespace StatusDisplay

/--
Whether a transfer was started and has not been stopped since. The latest call comes first, as in
the trace of a board.
-/
def Call.running : List Call → Bool
  | [] => false
  | .startTransfer _ :: _ => true
  | .stopTransfer :: _ => false
  | _ :: older => running older

/-- No transfer was started while an earlier one was running. -/
def Call.Exclusive (trace : List Call) : Prop :=
  ∀ newer bytes older, trace = newer ++ .startTransfer bytes :: older → running older = false

/-- The bytes of the transfer that was started last. -/
def Board.lastTransfer? (board : Board) : Option (List UInt8) :=
  board.trace.findSome? Call.transfer?

theorem Call.exclusive_cons {call : Call} {trace : List Call} (h : Exclusive trace)
    (start : call.sendsNothing = false → running trace = false) : Exclusive (call :: trace) := by
  intro newer bytes older split
  cases newer with
  | nil =>
    obtain ⟨rfl, rfl⟩ := List.cons.inj split
    exact start rfl
  | cons latest newer =>
    obtain ⟨_, split⟩ := List.cons.inj split
    exact h newer bytes older split

namespace Board

variable {before after board : Board}

/-- The channel is active for as long as the trace says that a transfer is running. -/
def Faithful (board : Board) : Prop := board.transferActive = Call.running board.trace

theorem Faithful.perform {call : Call} (h : board.Faithful)
    (recorded : (board.perform call).trace = call :: board.trace) :
    (board.perform call).Faithful := by
  unfold Faithful
  rw [board.transferActive_perform, recorded]
  cases call <;> first | rfl | exact h

/-- Every list of calls keeps the channel faithful to the trace. -/
theorem Faithful.of_makes {p : Call → Bool} (h : before.Faithful) (makes : before.Makes p after) :
    after.Faithful :=
  makes.preserves (P := Faithful) h fun _ _ recorded _ faithful => faithful.perform recorded

theorem exclusive_of_makes (h : Call.Exclusive before.trace)
    (makes : before.Makes Call.sendsNothing after) : Call.Exclusive after.trace := by
  apply makes.preserves (P := fun board => Call.Exclusive board.trace) h
  intro board call recorded silent exclusive
  rw [recorded]
  apply Call.exclusive_cons exclusive
  intro start
  rw [silent] at start
  cases start

end Board

/-- Calls that leave the transfer channel as it is. -/
def Call.leavesChannel : Call → Bool
  | .startTransfer _ | .stopTransfer => false
  | _ => true

/-- Calls that leave the channel alone change nothing that is said of it. -/
theorem Board.Makes.channel {before after : Board} (makes : before.Makes Call.leavesChannel after) :
    after.transferActive = before.transferActive ∧ after.lastTransfer? = before.lastTransfer? := by
  refine makes.preserves (P := fun board => board.transferActive = before.transferActive ∧
    board.lastTransfer? = before.lastTransfer?) ⟨rfl, rfl⟩ ?_
  rintro board call recorded alone ⟨active, last⟩
  have same : (board.perform call).transferActive = board.transferActive ∧
      call.transfer? = none := by
    rw [board.transferActive_perform]
    cases call <;> first | exact ⟨rfl, rfl⟩ | cases alone
  refine ⟨same.1.trans active, ?_⟩
  rw [← last]
  unfold lastTransfer?
  rw [recorded, List.findSome?_cons, same.2]

namespace Engine

/-- What the engine keeps to so that a transfer never sends anything but its own payload. -/
structure Owns (engine : Engine) : Prop where
  exclusive : Call.Exclusive engine.board.trace
  active : engine.board.transferActive = Call.running engine.board.trace
  unspoilt : engine.overwritten = false
  payload : engine.board.transferActive = true →
    engine.board.lastTransfer? = some engine.payload.bytes
  inFlight : engine.activity = .inFlight ↔ engine.board.transferActive = true

variable {engine after : Engine}

theorem Owns.of_stopped (h : engine.Owns) (stopped : engine.Stopped after) : after.Owns where
  exclusive := Board.exclusive_of_makes h.exclusive stopped.makes
  active := Board.Faithful.of_makes h.active stopped.makes
  unspoilt := stopped.overwritten.trans h.unspoilt
  payload active := by
    rw [stopped.inactive] at active
    cases active
  inFlight := by
    rw [stopped.inactive]
    exact ⟨fun inFlight => absurd inFlight stopped.activity, nofun⟩

theorem Owns.of_sent (h : engine.Owns) (sent : engine.Sent after) : after.Owns := by
  obtain ⟨ready, micros, makes, inactive, exchange⟩ := sent.start
  have exclusive := Board.exclusive_of_makes h.exclusive makes
  have faithful : ready.Faithful := .of_makes h.active makes
  have idle : Call.running ready.trace = false := faithful.symm.trans inactive
  have trace : after.board.trace =
      .armAlarm micros :: .startTransfer after.payload.bytes :: ready.trace := exchange.trace_eq
  have active : after.board.transferActive = true :=
    congrArg Settings.transferActive exchange.settings_eq
  refine ⟨?_, ?_, sent.overwritten.trans h.unspoilt, fun _ => ?_, ?_⟩
  · rw [trace]
    exact Call.exclusive_cons (Call.exclusive_cons exclusive fun _ => idle) nofun
  · rw [trace, active]
    rfl
  · unfold Board.lastTransfer?
    rw [trace]
    rfl
  · exact ⟨fun _ => active, fun _ => sent.activity⟩

theorem Owns.of_frame (h : engine.Owns) (frame : engine.Frame after)
    (makes : engine.board.Makes Call.leavesChannel after.board) : after.Owns := by
  obtain ⟨active, last⟩ := makes.channel
  have silent := makes.mono (q := Call.sendsNothing) fun call alone => by
    cases call <;> first | rfl | cases alone
  refine ⟨Board.exclusive_of_makes h.exclusive silent, Board.Faithful.of_makes h.active makes,
    frame.overwritten.trans h.unspoilt, ?_, ?_⟩
  · rw [active, last, frame.payload]
    exact h.payload
  · rw [active, frame.activity]
    exact h.inFlight

/-- Every event leaves an engine that keeps to what it owns. -/
theorem Stepped.owns {event : Event} (stepped : engine.Stepped event after)
    (standing : engine.Standing) (h : engine.Owns) : after.Owns := by
  have either (result : engine.Stopped after ∨ engine.Sent after) : after.Owns := by
    obtain stopped | sent := result
    · exact h.of_stopped stopped
    · exact h.of_sent sent
  cases stepped with
  | broughtUp result => exact either result.stopped_or_sent
  | busEvent =>
    refine h.of_frame (.onBusEvent engine) (engine.makes_onBusEvent.mono fun call addressing => ?_)
    cases call <;> first | rfl | cases addressing
  | recovered result =>
    cases result with
    | unknown mode =>
      have parked := parked_of_unknown standing.parked_or_live mode
      refine h.of_stopped ⟨⟨.of_exchange engine.exchange_noted rfl, ?_⟩, parked.inactive, ?_⟩
      · exact engine.frame_noted.overwritten
      · exact Activity.noConfusion
    | broughtUp known result =>
      exact either ((Recovered.broughtUp known result).stopped_or_sent known)
  | transferDone result => exact either result.stopped_or_sent
  | world => exact ⟨h.exclusive, h.active, h.unspoilt, h.payload, h.inFlight⟩
  | foreground => exact ⟨h.exclusive, h.active, h.unspoilt, h.payload, h.inFlight⟩

/-! ## Transfer requests -/

theorem requests_launch (engine : Engine) (payload : Payload) :
    (engine.launch payload).board.master.transferRequests = true :=
  congrArg Settings.transferRequests (engine.exchange_launch payload).settings_eq

/-- A bring-up that starts a transfer has switched the transfer requests on. -/
theorem BroughtUp.requests {result : Except BringUpError PowerOn}
    (h : engine.BroughtUp result after) (inFlight : after.activity = .inFlight) :
    after.board.master.transferRequests = true := by
  cases h with
  | floating => exact absurd inFlight (activity_giveUp _ _ _)
  | undetected => exact absurd inFlight (activity_giveUp _ _ _)
  | unanswered => exact absurd inFlight (activity_giveUp _ _ _)
  | character => exact requests_launch _ _
  | bitmap => rfl

/-- Transfer requests are on whenever a transfer is in flight. -/
def Requesting (engine : Engine) : Prop :=
  engine.activity = .inFlight → engine.board.master.transferRequests = true

/-- Every event keeps the requests on, if the end of a transfer is only told of a running one. -/
theorem Stepped.requesting {event : Event} (stepped : engine.Stepped event after)
    (prompt : event = .interrupt .transferDone → engine.activity = .inFlight)
    (standing : engine.Standing) (h : engine.Requesting) : after.Requesting := by
  intro inFlight
  cases stepped with
  | broughtUp result => exact result.requests inFlight
  | busEvent =>
    rw [(Frame.onBusEvent engine).activity] at inFlight
    exact (engine.makes_onBusEvent.mono
      (Call.isService_of_isAddressing engine.config .fast)).transferRequests (h inFlight)
  | recovered result =>
    cases result with
    | unknown =>
      rw [engine.frame_noted.activity] at inFlight
      cases inFlight
    | broughtUp _ result => exact result.requests inFlight
  | transferDone result =>
    have on := h (prompt rfl)
    cases known : engine.mode.controller? with
    | none =>
      rw [result.of_unknown (mode_eq_unknown_iff.2 known)] at inFlight
      cases inFlight
    | some controller => exact (result.makes_service known standing.timed).transferRequests on
  | world => exact h inFlight
  | foreground => exact h inFlight

/-! ## Runs -/

theorem owns_ofConfig {config : Config} {display : Display} {world : World}
    (new : Engine.ofConfig config display { world } = .ok engine) : engine.Owns := by
  obtain rfl := eq_of_ofConfig new
  refine ⟨?_, rfl, rfl, nofun, ⟨nofun, nofun⟩⟩
  intro newer bytes older split
  exact absurd split.symm (List.append_ne_nil_of_right_ne_nil _ (List.cons_ne_nil _ _))

theorem requesting_ofConfig {config : Config} {display : Display} {world : World}
    (new : Engine.ofConfig config display { world } = .ok engine) : engine.Requesting := by
  obtain rfl := eq_of_ofConfig new
  exact nofun

end Engine

/--
**The payload belongs to the transfer channel while a transfer runs.** Whatever happens to a new
engine, no transfer is started over another, the payload is not touched while one is running and is
what that transfer sends, and the engine says that it is in flight exactly then. If moreover the end
of a transfer is only told while one is running, then transfer requests are on as long as it runs.
-/
theorem payload_ownership {config : Config} {display : Display} {world : World}
    {engine final : Engine} {steps : List Step}
    (new : Engine.ofConfig config display { world } = .ok engine)
    (run : Run engine steps final) :
    final.Owns ∧ ((∀ step ∈ steps, step.Prompt) → final.activity = .inFlight →
      final.board.master.transferRequests = true) := by
  have standing := (Engine.standing_ofConfig new).2
  have owns := Engine.owns_ofConfig new
  have requesting := Engine.requesting_ofConfig new
  constructor
  · have kept : final.Standing ∧ final.Owns := by
      refine run.invariant (P := fun engine => engine.Standing ∧ engine.Owns)
        ⟨standing, owns⟩ fun step h => ?_
      exact ⟨step.stepped.standing h.1, step.stepped.owns h.1 h.2⟩
    exact kept.2
  · intro prompt
    have kept : final.Standing ∧ final.Requesting := by
      refine run.invariant_of_forall (P := fun engine => engine.Standing ∧ engine.Requesting)
        prompt ⟨standing, requesting⟩ fun step prompt h => ?_
      exact ⟨step.stepped.standing h.1, step.stepped.requesting prompt h.1 h.2⟩
    exact kept.2

/-- An engine that is brought up twice keeps to what it owns. -/
theorem payload_ownership_twice : ∃ engine steps final,
    Engine.ofConfig {} {} { world := { devices := [0x27] } } = .ok engine ∧
      Run engine steps final ∧ steps.map Step.event = [.bringUp, .bringUp] ∧ final.Owns := by
  obtain ⟨engine, new⟩ :
      ∃ engine, Engine.ofConfig {} {} { world := { devices := [0x27] } } = .ok engine := ⟨_, rfl⟩
  obtain ⟨steps, final, run, events⟩ := exists_run engine [.bringUp, .bringUp]
  exact ⟨engine, steps, final, new, run, events, (payload_ownership new run).1⟩

end StatusDisplay
