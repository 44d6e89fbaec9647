import StatusDisplay.Proofs.Board.Wire
import StatusDisplay.Proofs.Bus.Script
import StatusDisplay.Proofs.Engine.Calls
import StatusDisplay.Proofs.Engine.Frame

/-!
# What a recovery does

A recovery resets the bus master, powers it up again and takes the known display through its
start. Whatever the bus answers, the calls that matter are laid down beforehand and at most cut
short (`Retaken`): one reset, one supply, then one start condition and what the handshake sends
behind it. How many resets and starts there are, and which addresses are tried, is counted on that
list alone.
-/

namespace StatusDisplay

/-- Calls that a recovery is judged by: resets, supply, starts, bytes, and lines as weak inputs. -/
def Call.isMark : Call → Bool
  | .reset | .setPowered _ | .requestStart | .writeData _ => true
  | .setLineMode _ mode => mode == .pullDownInput
  | _ => false

theorem filter_isMark_of_release {calls : List Call} (release : calls.all Call.isRelease = true) :
    calls.filter Call.isMark = [] := by
  rw [List.filter_eq_nil_iff]
  intro call mem
  have release := List.all_eq_true.1 release call mem
  cases call with
  | setLineMode line mode => cases mode <;> first | exact Bool.noConfusion | cases release
  | _ => first | exact Bool.noConfusion | cases release

/-- Of traffic, only actions are marks. -/
theorem filter_isMark_of_traffic {calls : List Call} (traffic : calls.all Call.isTraffic = true) :
    calls.filter Call.isMark = (calls.filter Call.isAction).filter Call.isMark := by
  rw [List.filter_filter]
  apply List.filter_congr
  intro call mem
  have traffic := List.all_eq_true.1 traffic call mem
  cases call <;> first | rfl | cases traffic

/-- What a recovery does with the bus of a controller, as far as it gets. -/
def restartScript : Controller → List Call
  | .character address =>
    [.requestStart, .writeData (address <<< 1)] ++ Lcd.handshakeBytes.map .writeData
  | .bitmap _ => [.requestStart]

/-- The marks of a recovery's calls: the reset, the supply, and no more than the script. -/
def Retaken (controller : Controller) (calls : List Call) : Prop :=
  ∃ actions, calls.filter Call.isMark = .reset :: .setPowered true :: actions ∧
    actions <+: restartScript controller

/-- The byte that a call writes by hand. -/
def Call.written? : Call → Option UInt8
  | writeData byte => some byte
  | _ => none

/-- The bytes that a recovery writes by hand, as far as it gets: an address, and the handshake. -/
def restartBytes : Controller → List UInt8
  | .character address => address <<< 1 :: Lcd.handshakeBytes
  | .bitmap _ => []

namespace Retaken

variable {controller : Controller} {calls : List Call}

/-- Reset and supply, then what is done by hand, then calls that are no marks. -/
theorem of_marks {front hand tail : List Call} (cleared : Status)
    (marks : front.filter Call.isMark = [.reset, .setPowered true])
    (script : hand.filter Call.isMark <+: restartScript controller)
    (quiet : tail.filter Call.isMark = []) :
    Retaken controller (.clearErrors cleared :: front ++ hand ++ tail) := by
  refine ⟨hand.filter Call.isMark, ?_, script⟩
  rw [List.filter_append, List.filter_append, quiet, List.append_nil,
    List.filter_cons_of_neg Bool.noConfusion, marks]
  rfl

/-- How often a mark is made is counted on the marks. -/
theorem count_eq (h : Retaken controller calls) {call : Call} (mark : call.isMark = true) :
    ∃ actions, actions <+: restartScript controller ∧
      calls.count call = [Call.reset, .setPowered true].count call + actions.count call := by
  obtain ⟨actions, marks, cut⟩ := h
  refine ⟨actions, cut, ?_⟩
  rw [← List.count_filter mark, marks]
  show ([Call.reset, .setPowered true] ++ actions).count call = _
  exact List.count_append

/-- Marks that the script does not have are made once or never. -/
theorem count_of_not_mem (h : Retaken controller calls) {call : Call} (mark : call.isMark = true)
    (never : call ∉ restartScript controller) :
    calls.count call = [Call.reset, .setPowered true].count call := by
  obtain ⟨actions, cut, count⟩ := h.count_eq mark
  rw [count, List.count_eq_zero_of_not_mem fun mem => never (cut.subset mem), Nat.add_zero]

theorem count_reset (h : Retaken controller calls) : calls.count .reset = 1 := by
  refine h.count_of_not_mem rfl ?_
  cases controller <;> simp [restartScript]

theorem count_setPowered (h : Retaken controller calls) : calls.count (.setPowered true) = 1 := by
  refine h.count_of_not_mem rfl ?_
  cases controller <;> simp [restartScript]

/-- No line is looked at through a weak pull-down. -/
theorem not_mem_setLineMode (h : Retaken controller calls) (line : Line) :
    Call.setLineMode line .pullDownInput ∉ calls := by
  have never : Call.setLineMode line .pullDownInput ∉ restartScript controller := by
    cases controller <;> simp [restartScript]
  exact List.count_eq_zero.1 (h.count_of_not_mem rfl never)

/-- A start condition is requested at most once. -/
theorem count_requestStart (h : Retaken controller calls) : calls.count .requestStart ≤ 1 := by
  obtain ⟨actions, cut, count⟩ := h.count_eq (rfl : Call.requestStart.isMark = true)
  have script : (restartScript controller).count .requestStart = 1 := by
    cases controller <;> rfl
  rw [count, ← script]
  show 0 + actions.count .requestStart ≤ _
  rw [Nat.zero_add]
  exact cut.sublist.count_le _

theorem written (h : Retaken controller calls) :
    calls.filterMap Call.written? <+: restartBytes controller := by
  obtain ⟨actions, marks, cut⟩ := h
  have marked : (calls.filter Call.isMark).filterMap Call.written? =
      calls.filterMap Call.written? := by
    have same : (fun call : Call => if call.isMark then call.written? else none) =
        Call.written? := by
      funext call
      cases call with
      | setLineMode => exact ite_self _
      | _ => rfl
    rw [List.filterMap_filter, same]
  have script : (restartScript controller).filterMap Call.written? = restartBytes controller := by
    cases controller <;> rfl
  rw [← marked, marks, ← script]
  exact cut.filterMap _

/-- The one address that is tried is the controller's own. -/
theorem firstWrites_eq (h : Retaken controller calls) (started : Bool) :
    firstWrites started calls <+: [controller.address <<< 1] := by
  obtain ⟨actions, marks, cut⟩ := h
  have dropped (call : Call) (unmarked : call.isMark = false) : call.sendsNoAddress = true := by
    cases call <;> first | rfl | cases unmarked
  have marked := firstWrites_filter started calls dropped
  have script : firstWrites false (restartScript controller) <+: [controller.address <<< 1] := by
    cases controller with
    | character address => exact List.prefix_rfl
    | bitmap => exact List.nil_prefix
  rw [← marked, marks]
  exact (firstWrites_of_cut false cut).trans script

end Retaken

namespace Engine

variable {engine after : Engine}

/-- The calls up to the point at which a known controller is in use again. -/
theorem exchange_retaken (engine : Engine) (controller : Controller) : ∃ calls,
    Exchange engine.board (.clearErrors engine.board.master.flags.errors :: calls)
        (engine.aborted.wake.attach.adopt controller).board ∧
      calls.filter Call.isMark = [.reset, .setPowered true] := by
  obtain ⟨release, woken, released⟩ := engine.aborted.makes_wake
  have supply : (Call.setPowered true :: release).filter Call.isMark = [.setPowered true] := by
    rw [List.filter_cons_of_pos rfl, filter_isMark_of_release released]
  refine ⟨_, ((engine.exchange_aborted.append woken).append (exchange_attach _)).append
    (exchange_adopt _ controller), ?_⟩
  show ((([_, _, _] ++ (Call.setPowered true :: release)) ++ [_, _, _]) ++ _).filter _ = _
  rw [List.filter_append, List.filter_append, List.filter_append, supply]
  rfl

/-- A handshake that comes to its end, or does not, makes no more marks than its script has. -/
theorem marks_of_handshake {address : UInt8} {calls : List Call}
    (traffic : calls.all Call.isTraffic = true)
    (script : calls.filter Call.isAction <+: Bus.handshakeScript address) :
    calls.filter Call.isMark <+: restartScript (.character address) := by
  rw [filter_isMark_of_traffic traffic]
  exact script.filter Call.isMark

/--
How a recovery ends: with the refresh started and the failure that led to it on record, or with a
character display that is silent, which is a failure of its own and recorded as one of the bus.
-/
inductive Ended (engine after : Engine) : Controller → Except BringUpError PowerOn → Prop where
  | started {controller : Controller} : after.activity = .inFlight →
      after.statistics = ⟨engine.statistics.recoveries + 1, some engine.errorKind⟩ →
      Ended engine after controller (.ok ⟨controller, false⟩)
  | silent {address : UInt8} {error : BusError} {kind : FailureKind} : after.activity = .failed →
      error = .timeout ∧ kind = .busTimeout ∨ error = .fault ∧ kind = .busFault →
      after.statistics = ⟨engine.statistics.recoveries + 1, some kind⟩ →
      Ended engine after (.character address) (.error (.bus error))

/-- What the bring-up of a recovery does. -/
theorem BroughtUp.retaken {controller : Controller} {result : Except BringUpError PowerOn}
    (h : engine.aborted.BroughtUp result after)
    (known : engine.mode.controller? = some controller) :
    ∃ calls,
      Exchange engine.board (.clearErrors engine.board.master.flags.errors :: calls) after.board ∧
        Retaken controller (.clearErrors engine.board.master.flags.errors :: calls) ∧
        engine.Ended after controller result := by
  have aborted : engine.aborted.mode.controller? = some controller := by
    rw [engine.frame_aborted.mode]
    exact known
  obtain ⟨front, retaken, marks⟩ := engine.exchange_retaken controller
  cases h with
  | floating unknown => rw [unknown] at aborted; cases aborted
  | undetected unknown => rw [unknown] at aborted; cases aborted
  | @unanswered address identified error bus named unanswered =>
    obtain ⟨rfl, rfl⟩ := named.eq_of_known aborted
    obtain ⟨hand, exchange, traffic, script⟩ :=
      ((Bus.follows_handshake address).traffic (Bus.isTraffic_handshake address)).of_error unanswered
    let stopped := (engine.aborted.wake.attach.adopt (.character address)).setBus bus
    have rearmed := exchange_rearm (stopped.recordFailure error.kind)
    have givenUp := frame_giveUp stopped false (.bus error)
    have kinds : error = .timeout ∧ error.kind = .busTimeout ∨
        error = .fault ∧ error.kind = .busFault := by
      cases error with
      | timeout => exact .inl ⟨rfl, rfl⟩
      | fault => exact .inr ⟨rfl, rfl⟩
    rw [aborted, Option.isNone_some]
    refine ⟨_, (retaken.append exchange).append rearmed,
      .of_marks _ marks (marks_of_handshake traffic script) rfl, .silent givenUp.activity kinds ?_⟩
    rw [givenUp.statistics]
    rfl
  | @character address identified bus named answered =>
    obtain ⟨rfl, rfl⟩ := named.eq_of_known aborted
    obtain ⟨hand, exchange, traffic, script⟩ :=
      ((Bus.follows_handshake address).traffic (Bus.isTraffic_handshake address)).of_ok answered
    let answering := (engine.aborted.wake.attach.adopt (.character address)).setBus bus
    let payload := Lcd.setupPayload
      (engine.aborted.wake.attach.adopt (.character address)).display.backlight
    have launched := answering.exchange_launch payload
    have frame := answering.frame_launch payload
    rw [aborted, Option.isNone_some]
    refine ⟨_, (retaken.append exchange).append launched,
      .of_marks _ marks (marks_of_handshake traffic (script ▸ List.prefix_rfl)) rfl,
      .started frame.activity ?_⟩
    rw [frame.statistics]
    rfl
  | @bitmap address identified named =>
    obtain ⟨rfl, rfl⟩ := named.eq_of_known aborted
    let adopted := engine.aborted.wake.attach.adopt (.bitmap address)
    have launched := adopted.exchange_launchPanel
    have frame := adopted.frame_launchPanel
    have retaken' := (retaken.append launched).append (.nil _)
    rw [aborted, Option.isNone_some]
    refine ⟨_, retaken', .of_marks _ marks List.prefix_rfl rfl, .started frame.activity ?_⟩
    rw [frame.statistics, adopted.frame_openPanel.statistics]
    rfl

/-- A bring-up of a known display leaves the watchdog set for its full time, however it ends. -/
theorem BroughtUp.armed {controller : Controller} {result : Except BringUpError PowerOn}
    (h : engine.BroughtUp result after) (known : engine.mode.controller? = some controller) :
    after.watchdog.armed = true ∧ after.board.alarm = some after.watchdog.timeout := by
  cases h with
  | floating unknown => rw [unknown] at known; cases known
  | undetected unknown => rw [unknown] at known; cases known
  | unanswered =>
    rw [known]
    exact ⟨rfl, rfl⟩
  | character => exact ⟨rfl, rfl⟩
  | bitmap => exact ⟨rfl, rfl⟩

end Engine

end StatusDisplay
