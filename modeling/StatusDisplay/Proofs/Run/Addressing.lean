import StatusDisplay.Proofs.Bus.Addressing
import StatusDisplay.Proofs.Run.Addresses

/-!
# A driver sends no address but those of its display

While no display is known, a driver may send the addresses of the scan; once one is known, only the
display's own, and the display stays known. `Engine.reach` names the addresses of a moment, and
`Stepped.addressBytes` says that no event sends another one. The status words that the board shows
do not matter: they decide how far a step gets, and never what it sends as an address.
-/

namespace StatusDisplay

namespace Engine

variable {engine after : Engine}

/-- The addresses that an engine may send: its display's own, or all that the scan visits. -/
def reach (engine : Engine) : List UInt8 :=
  match engine.mode.controller? with
  | some controller => [controller.address]
  | none => engine.config.scanOrder

theorem reach_of_known {controller : Controller}
    (known : engine.mode.controller? = some controller) : engine.reach = [controller.address] := by
  rw [reach, known]

theorem reach_of_unknown (unknown : engine.mode = .unknown) :
    engine.reach = engine.config.scanOrder := by
  rw [reach, unknown]
  rfl

/-! ## Bring-up -/

theorem dials_checked (engine : Engine) (addresses : List UInt8) :
    engine.board.Dials addresses engine.checked.board := by
  have woken := engine.makes_wake_of_wiring rfl Call.writesNothing_of_isWiring
  exact .of_makes (woken.trans (engine.makes_checked.mono Call.writesNothing_of_isWiring))

theorem dials_attach (engine : Engine) (addresses : List UInt8) :
    engine.board.Dials addresses engine.attach.board :=
  .of_exchange engine.exchange_attach rfl

theorem dials_giveUp (engine : Engine) (firstBoot : Bool) (error : BringUpError)
    (addresses : List UInt8) :
    engine.board.Dials addresses (engine.giveUp firstBoot error).board := by
  cases firstBoot with
  | true => exact .of_exchange (engine.recordFailure error.kind).exchange_shutDown rfl
  | false => exact .of_exchange (engine.recordFailure error.kind).exchange_rearm rfl

theorem dials_scanned {bus : Bus} (unknown : engine.mode = .unknown)
    (scanned : engine.checked.attach.board.Dials engine.config.scanOrder bus.board) :
    engine.board.Dials engine.reach (engine.checked.attach.setBus bus).board := by
  rw [reach_of_unknown unknown]
  exact ((engine.dials_checked _).trans (dials_attach _ _)).trans scanned

/-- Naming a controller sends what the engine may send, and names one of these addresses. -/
theorem Identified.dials {controller : Controller} (h : engine.Identified controller after) :
    engine.board.Dials engine.reach after.board ∧ controller.address ∈ engine.reach := by
  cases h with
  | known mode =>
    have woken := engine.makes_wake_of_wiring rfl Call.writesNothing_of_isWiring
    refine ⟨(Board.Dials.of_makes woken).trans (dials_attach _ _), ?_⟩
    rw [reach_of_known mode]
    exact List.mem_singleton_self _
  | found unknown _ scan =>
    have scanned := Bus.dials_detect engine.config engine.checked.attach.bus
    rw [scan] at scanned
    refine ⟨dials_scanned unknown scanned, ?_⟩
    rw [reach_of_unknown unknown]
    exact (Bus.names_of_detect scan).address

/-- A handshake with the named controller stays within reach too. -/
theorem Identified.dials_handshake {address : UInt8} {bus : Bus}
    (h : engine.Identified (.character address) after)
    (handshake : (after.adopt (.character address)).board.Dials [address] bus.board) :
    engine.board.Dials engine.reach ((after.adopt (.character address)).setBus bus).board := by
  obtain ⟨dialled, within⟩ := h.dials
  have adopted : engine.board.Dials engine.reach (after.adopt (.character address)).board :=
    dialled.trans (.of_exchange (exchange_adopt after _) rfl)
  exact adopted.trans (handshake.mono (List.cons_subset.2 ⟨within, List.nil_subset _⟩))

theorem BroughtUp.dials {result : Except BringUpError PowerOn} (h : engine.BroughtUp result after) :
    engine.board.Dials engine.reach after.board := by
  cases h with
  | floating => exact (engine.dials_checked _).trans (dials_giveUp _ _ _ _)
  | undetected unknown _ scan =>
    have scanned := Bus.dials_detect engine.config engine.checked.attach.bus
    rw [scan] at scanned
    exact (dials_scanned unknown scanned).trans (dials_giveUp _ _ _ _)
  | @unanswered address identified error bus named answer =>
    have handshake := Bus.dials_handshake address (identified.adopt (.character address)).bus
    rw [answer] at handshake
    exact (named.dials_handshake handshake).trans (dials_giveUp _ _ _ _)
  | @character address identified bus named answer =>
    have handshake := Bus.dials_handshake address (identified.adopt (.character address)).bus
    rw [answer] at handshake
    exact (named.dials_handshake handshake).trans (.of_exchange (exchange_launch _ _) rfl)
  | @bitmap address identified named =>
    have adopted := (exchange_adopt identified (.bitmap address)).append (exchange_launchPanel _)
    exact named.dials.1.trans (.of_exchange adopted rfl)

/-! ## Interrupts -/

/-- The end of a transfer sends no address; the opening of a transaction is left to bus events. -/
theorem TransferDone.dials (h : engine.TransferDone after) :
    engine.board.Dials engine.reach after.board := by
  have stopped : engine.board.Dials engine.reach engine.acknowledged.board :=
    .of_exchange engine.exchange_acknowledged rfl
  have closing := Bus.dials_close engine.reach engine.acknowledged.bus
  cases h with
  | unknown => exact stopped
  | frame => exact .of_exchange engine.exchange_nextFrame rfl
  | @row _ cursor row => exact .of_exchange (engine.exchange_nextRow row cursor.advance) rfl
  | @reopened _ bus _ closed =>
    rw [closed] at closing
    have opened := engine.acknowledged.countFrame.exchange_reopen bus
    exact (stopped.trans closing).trans (.of_exchange opened rfl)
  | notClosed _ failed =>
    rw [failed] at closing
    exact stopped.trans closing

theorem Recovered.dials (h : engine.Recovered after) :
    engine.board.Dials engine.reach after.board := by
  cases h with
  | unknown => exact .of_exchange engine.exchange_noted rfl
  | broughtUp _ result =>
    have same : engine.aborted.reach = engine.reach := by
      rw [reach, reach, engine.frame_aborted.mode, engine.frame_aborted.config]
      rfl
    have aborted : engine.board.Dials engine.reach engine.aborted.board :=
      .of_exchange engine.exchange_aborted rfl
    exact aborted.trans (same ▸ result.dials)

theorem dials_onBusEvent (engine : Engine) :
    engine.board.Dials engine.reach engine.onBusEvent.board := by
  unfold onBusEvent
  split
  case h_1 controller known =>
    rw [reach_of_known known]
    exact Bus.dials_onEvent controller.address engine.bus
  case h_2 => exact .of_exchange (.nil _) rfl

/-- No event sends an address that is not within reach. -/
theorem Stepped.addressBytes {event : Event} (stepped : engine.Stepped event after) :
    ∃ sent : List UInt8, sent ⊆ engine.reach.map Bus.addressByte ∧
      after.board.wire.addressBytes = sent ++ engine.board.wire.addressBytes := by
  cases stepped with
  | broughtUp result => exact result.dials.addressBytes
  | busEvent => exact engine.dials_onBusEvent.addressBytes
  | recovered result => exact result.dials.addressBytes
  | transferDone result => exact result.dials.addressBytes
  | world => exact ⟨[], List.nil_subset _, rfl⟩
  | foreground => exact ⟨[], List.nil_subset _, rfl⟩

/-- A display that is known stays known. -/
theorem Stepped.controller?_of_known {event : Event} {controller : Controller}
    (stepped : engine.Stepped event after) (known : engine.mode.controller? = some controller) :
    after.mode.controller? = some controller := by
  cases stepped with
  | broughtUp result =>
    rw [(result.restarted known).mode, Mode.controller?_ofController]
  | busEvent => rw [(Frame.onBusEvent engine).mode, known]
  | recovered result =>
    rw [(result.restarted known).mode, Mode.controller?_ofController]
  | transferDone result => rw [result.controller?, known]
  | world => exact known
  | foreground => exact known

/-- What an engine may send is an address of the configuration. -/
theorem Found.reach_subset (found : engine.Found) : engine.reach ⊆ engine.config.scanOrder := by
  cases known : engine.mode.controller? with
  | none => rw [reach, known]; exact List.Subset.refl _
  | some controller =>
    rw [reach_of_known known]
    exact List.cons_subset.2 ⟨(found controller known).address, List.nil_subset _⟩

end Engine

/-- A controller of the configuration is a bitmap panel exactly if it has the panel's address. -/
theorem Config.Names.isBitmap_iff {config : Config} {controller : Controller}
    (h : config.Names controller) :
    (∃ address, controller = .bitmap address) ↔ controller.address = config.oledAddress := by
  have kind := h.kind
  rw [Controller.classify] at kind
  split at kind
  case isTrue same => exact iff_of_true ⟨_, kind⟩ same
  case isFalse other =>
    refine iff_of_false ?_ other
    rintro ⟨address, panel⟩
    rw [kind] at panel
    cases panel

/-- A display that is known stays known through a run, and its own address is all that is sent. -/
theorem Run.own_address {engine final : Engine} {steps : List Step} {controller : Controller}
    (run : Run engine steps final) (known : engine.mode.controller? = some controller) :
    final.mode.controller? = some controller ∧
      ∃ sent : List UInt8, sent ⊆ [Bus.addressByte controller.address] ∧
        final.board.wire.addressBytes = sent ++ engine.board.wire.addressBytes := by
  induction run with
  | nil => exact ⟨known, [], List.nil_subset _, rfl⟩
  | snoc step _ ih =>
    obtain ⟨still, sent, own, grown⟩ := ih
    obtain ⟨more, reached, grown'⟩ := step.stepped.addressBytes
    rw [Engine.reach_of_known still] at reached
    refine ⟨step.stepped.controller?_of_known still, more ++ sent, ?_, ?_⟩
    · exact List.append_subset.2 ⟨reached, own⟩
    · rw [grown', grown, List.append_assoc]

/-- Every address that a reachable driver has sent is one of the configuration. -/
theorem Reachable.addressBytes_subset {engine : Engine} (h : Reachable engine) :
    engine.board.wire.addressBytes ⊆ engine.config.scanOrder.map Bus.addressByte := by
  obtain ⟨config, display, world, start, steps, new, run⟩ := h
  have first : start.Found ∧
      start.board.wire.addressBytes ⊆ start.config.scanOrder.map Bus.addressByte := by
    obtain rfl := Engine.eq_of_ofConfig new
    exact ⟨Engine.found_of_unknown rfl, List.nil_subset _⟩
  refine (run.invariant (P := fun engine => engine.Found ∧
    engine.board.wire.addressBytes ⊆ engine.config.scanOrder.map Bus.addressByte) first ?_).2
  rintro step ⟨found, earlier⟩
  obtain ⟨sent, reached, grown⟩ := step.stepped.addressBytes
  refine ⟨step.stepped.found found, ?_⟩
  rw [grown, step.stepped.sameSetup.config]
  have known := List.map_subset Bus.addressByte found.reach_subset
  exact List.append_subset.2 ⟨List.Subset.trans reached known, earlier⟩

/--
**A driver sends no address outside its ranges, and once it knows a display, none but that
display's.** Let anything happen to a new engine, with any words on the bus. Every address byte that
the board has seen is twice an address of the two ranges. If a display is known, its address lies in
one of the ranges, and it is a bitmap panel exactly if the address is the panel's; whatever happens
next, it stays known, and every address byte from then on is twice its address.
-/
theorem addresses_of_run {config : Config} {display : Display} {world : World} {engine : Engine}
    (new : Engine.ofConfig config display { world } = .ok engine) :
    (∀ events, ∃ steps final, Run engine steps final ∧ steps.map Step.event = events) ∧
    ∀ steps final, Run engine steps final →
      (∀ byte ∈ final.board.wire.addressBytes, ∃ address : UInt8,
        (config.lcdRange.contains address = true ∨ config.oledRange.contains address = true) ∧
          byte.toNat = 2 * address.toNat) ∧
      ∀ controller, final.mode.controller? = some controller →
        (config.lcdRange.contains controller.address = true ∨
          config.oledRange.contains controller.address = true) ∧
        ((∃ address, controller = .bitmap address) ↔ controller.address = config.oledAddress) ∧
        ∀ more last, Run final more last → last.mode.controller? = some controller ∧
          ∃ sent, last.board.wire.addressBytes = sent ++ final.board.wire.addressBytes ∧
            ∀ byte ∈ sent, byte.toNat = 2 * controller.address.toNat := by
  refine ⟨exists_run engine, fun steps final run => ?_⟩
  have reachable : Reachable final := ⟨config, display, world, engine, steps, new, run⟩
  have same : final.config = config := by
    have start : engine.config = config := by rw [Engine.eq_of_ofConfig new]
    exact run.invariant (P := fun engine => engine.config = config) start
      fun step kept => step.stepped.sameSetup.config.trans kept
  obtain ⟨valid, found⟩ := reachable.valid_and_found
  rw [same] at valid
  have short {address : UInt8} (mem : address ∈ config.scanOrder) :
      (Bus.addressByte address).toNat = 2 * address.toNat :=
    Bus.toNat_addressByte (Config.le_maxAddress_of_valid valid mem)
  refine ⟨fun byte sent => ?_, fun controller known => ?_⟩
  · have scanned := reachable.addressBytes_subset sent
    rw [same] at scanned
    obtain ⟨address, mem, rfl⟩ := List.mem_map.1 scanned
    exact ⟨address, Config.mem_scanOrder.1 mem, short mem⟩
  · have names := found controller known
    rw [same] at names
    refine ⟨Config.mem_scanOrder.1 names.address, names.isBitmap_iff, fun more last later => ?_⟩
    obtain ⟨still, sent, own, grown⟩ := later.own_address known
    refine ⟨still, sent, grown, fun byte mem => ?_⟩
    rw [List.mem_singleton.1 (own mem)]
    exact short names.address

/-- Once a panel is found at its usual address, no other is sent whatever happens. -/
theorem addresses_of_run_panel : ∃ engine,
    Engine.ofConfig {} {} { world := { devices := [0x3c] } } = .ok engine ∧
      (engine.nextAll [.bringUp]).mode.controller? = some (.bitmap 0x3c) ∧
      ∀ more last, Run (engine.nextAll [.bringUp]) more last →
        last.mode.controller? = some (.bitmap 0x3c) ∧
          ∃ sent, last.board.wire.addressBytes =
              sent ++ (engine.nextAll [.bringUp]).board.wire.addressBytes ∧
            ∀ byte ∈ sent, byte.toNat = 0x78 := by
  have new : Engine.ofConfig {} {} { world := { devices := [0x3c] } } = .ok _ := rfl
  refine ⟨_, new, by decide +kernel, ?_⟩
  have found := (addresses_of_run new).2 _ _ (run_steps _ [.bringUp])
  exact (found.2 (.bitmap 0x3c) (by decide +kernel)).2.2

end StatusDisplay
