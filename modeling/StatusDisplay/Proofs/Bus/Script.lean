import StatusDisplay.Proofs.Bus.Traffic
import StatusDisplay.Proofs.Lcd.Picture

/-!
# Scripts of transactions by hand

What a transaction by hand does is laid down beforehand, whatever the bus answers: its actions are a
fixed list, with as many polls between them as the waits need, and a wait that fails cuts the list
short. `Leads` speaks of all the calls of steps that succeed and of steps that fail, `Follows` of
their actions alone; both pass through sequencing.
-/

namespace StatusDisplay

/-- Calls that move a transaction on; the other traffic calls look at it or wait. -/
def Call.isAction : Call → Bool
  | .requestStart | .requestStop | .writeData _ | .acknowledgeAddress => true
  | _ => false

/-- Calls that look for flags, or remove those of errors. -/
def Call.isPoll : Call → Bool
  | .status _ | .clearErrors _ => true
  | _ => false

namespace Bus

/-- A result with calls that satisfy `done` if it is a success, and `failed` if it is not. -/
inductive Result {ε α : Type} (bus : Bus) (done failed : List Call → Prop) :
    EStateM.Result ε Bus α → Prop where
  | ok {value : α} {next : Bus} {calls : List Call} : Exchange bus.board calls next.board →
      done calls → Result bus done failed (.ok value next)
  | error {error : ε} {next : Bus} {calls : List Call} : Exchange bus.board calls next.board →
      failed calls → Result bus done failed (.error error next)

/-- Calls made before those of a result. -/
theorem Result.prepend {ε α : Type} {first bus : Bus} {calls : List Call}
    {done failed more otherwise : List Call → Prop} {result : EStateM.Result ε Bus α}
    (exchange : Exchange first.board calls bus.board) (h : Result bus done failed result)
    (le : ∀ later, done later → more (calls ++ later))
    (le' : ∀ later, failed later → otherwise (calls ++ later)) :
    Result first more otherwise result := by
  cases h with
  | ok later holds => exact .ok (exchange.append later) (le _ holds)
  | error later holds => exact .error (exchange.append later) (le' _ holds)

/-- Steps whose calls satisfy `done` if they succeed and `failed` if they do not, on every bus. -/
def Leads {ε α : Type} (steps : EStateM ε Bus α) (done failed : List Call → Prop) : Prop :=
  ∀ bus, Result bus done failed (steps bus)

namespace Leads

variable {ε α β : Type} {steps : EStateM ε Bus α} {done failed : List Call → Prop}

theorem of_ok {value : α} {bus next : Bus} (h : Leads steps done failed)
    (run : steps bus = .ok value next) : ∃ calls, Exchange bus.board calls next.board ∧ done calls := by
  have result := h bus
  rw [run] at result
  cases result with
  | ok exchange holds => exact ⟨_, exchange, holds⟩

theorem of_error {error : ε} {bus next : Bus} (h : Leads steps done failed)
    (run : steps bus = .error error next) :
    ∃ calls, Exchange bus.board calls next.board ∧ failed calls := by
  have result := h bus
  rw [run] at result
  cases result with
  | error exchange holds => exact ⟨_, exchange, holds⟩

theorem mono {more otherwise : List Call → Prop} (h : Leads steps done failed)
    (le : ∀ calls, done calls → more calls) (le' : ∀ calls, failed calls → otherwise calls) :
    Leads steps more otherwise :=
  fun bus => (h bus).prepend (.nil bus.board) le le'

/-- Steps one after the other: the second ones fail only when the first ones are done. -/
theorem bind {next : α → EStateM ε Bus β} {done' failed' : List Call → Prop}
    (h : Leads steps done failed) (h' : ∀ value, Leads (next value) done' failed') :
    Leads (steps >>= next)
      (fun calls => ∃ first second, calls = first ++ second ∧ done first ∧ done' second)
      (fun calls => failed calls ∨
        ∃ first second, calls = first ++ second ∧ done first ∧ failed' second) := by
  intro bus
  show Result bus _ _ (EStateM.bind steps next bus)
  unfold EStateM.bind
  cases run : steps bus with
  | ok value middle =>
    obtain ⟨first, exchange, holds⟩ := h.of_ok run
    exact (h' value middle).prepend exchange
      (fun later holds' => ⟨first, later, rfl, holds, holds'⟩)
      fun later holds' => .inr ⟨first, later, rfl, holds, holds'⟩
  | error error middle =>
    obtain ⟨first, exchange, holds⟩ := h.of_error run
    exact .error exchange (Or.inl holds)

/-- Steps of traffic make no other calls while they are led. -/
theorem traffic (h : Leads steps done failed) (moves : IsTraffic steps) :
    Leads steps (fun calls => calls.all Call.isTraffic = true ∧ done calls)
      (fun calls => calls.all Call.isTraffic = true ∧ failed calls) := by
  intro bus
  cases run : steps bus with
  | ok value next =>
    obtain ⟨calls, exchange, holds⟩ := h.of_ok run
    obtain ⟨_, exchange', all⟩ := (moves.of_ok run).makes
    obtain rfl := exchange.unique exchange'
    exact .ok exchange ⟨all, holds⟩
  | error error next =>
    obtain ⟨calls, exchange, holds⟩ := h.of_error run
    obtain ⟨_, exchange', all⟩ := (moves.of_error run).makes
    obtain rfl := exchange.unique exchange'
    exact .error exchange ⟨all, holds⟩

end Leads

/-! ## Waits -/

/-- Polls that end with a word which shows all of `flags`. -/
def Sees (flags : Status) (calls : List Call) : Prop :=
  ∃ earlier word, calls = earlier ++ [.status word] ∧ word.contains flags = true ∧
    earlier.all Call.isPoll = true

theorem Sees.cons {flags : Status} {call : Call} {calls : List Call} (poll : call.isPoll = true)
    (h : Sees flags calls) : Sees flags (call :: calls) := by
  obtain ⟨earlier, word, rfl, shows, polls⟩ := h
  refine ⟨call :: earlier, word, rfl, shows, ?_⟩
  rw [List.all_cons, poll, polls, Bool.and_self]

theorem Sees.all {flags : Status} {calls : List Call} (h : Sees flags calls) :
    calls.all Call.isPoll = true := by
  obtain ⟨earlier, word, rfl, _, polls⟩ := h
  rw [List.all_append, polls]
  rfl

theorem result_poll (flags : Status) (clears : Bool) (start : Nat) (bus : Bus) :
    Result bus (Sees flags) (·.all Call.isPoll = true) (poll flags clears start bus) := by
  have look (bus : Bus) : Exchange bus.board [.status bus.board.status] bus.readStatus.board :=
    .readStatus bus.board
  fun_induction poll flags clears start bus with
  | case1 bus shows => exact .ok (look bus) ⟨[], _, rfl, shows, rfl⟩
  | case2 bus =>
    cases clears with
    | false => exact .error (look bus) rfl
    | true => exact .error ((look bus).append (.clearErrors _)) rfl
  | case3 bus => exact .error (look bus) rfl
  | case4 bus _ _ _ ih =>
    exact ih.prepend (look bus) (fun _ sees => sees.cons rfl) fun _ polls => polls

/-- A stop condition is out: it was requested, and waited for until it was no longer pending. -/
def Stops (calls : List Call) : Prop :=
  ∃ busy, calls = .requestStop :: (List.replicate busy (.stopPending true) ++ [.stopPending false])

theorem result_pollStop (start : Nat) (bus : Bus) :
    Result bus (fun calls => ∃ busy,
        calls = List.replicate busy (.stopPending true) ++ [.stopPending false])
      (fun calls => ∃ busy, calls = List.replicate busy (.stopPending true))
      (pollStop start bus) := by
  have look (bus : Bus) : Exchange bus.board [.stopPending bus.board.stopPending] bus.readStop.board :=
    .pollStop bus.board
  fun_induction pollStop start bus with
  | case1 bus busy =>
    have seen := look bus
    rw [busy] at seen
    exact .error seen ⟨1, rfl⟩
  | case2 bus busy _ ih =>
    have seen := look bus
    rw [busy] at seen
    refine ih.prepend seen ?_ ?_
    · rintro _ ⟨more, rfl⟩
      exact ⟨more + 1, rfl⟩
    · rintro _ ⟨more, rfl⟩
      exact ⟨more + 1, rfl⟩
  | case3 bus free =>
    have seen := look bus
    rw [Bool.not_eq_true] at free
    rw [free] at seen
    exact .ok seen ⟨0, rfl⟩

/-- A stop that does not end is requested once too. -/
theorem leads_stop : Leads stop Stops
    (fun calls => ∃ busy, calls = .requestStop :: List.replicate busy (.stopPending true)) := by
  intro bus
  exact (result_pollStop _ _).prepend (.requestStop bus.board)
    (by rintro _ ⟨busy, rfl⟩; exact ⟨busy, rfl⟩) (by rintro _ ⟨busy, rfl⟩; exact ⟨busy, rfl⟩)

/-! ## Scripts -/

/-- Steps whose actions are the script if they succeed, and cut short if they fail. -/
def Follows {α : Type} (steps : BusM α) (script : List Call) : Prop :=
  Leads steps (·.filter Call.isAction = script) (·.filter Call.isAction <+: script)

namespace Follows

variable {α β : Type} {steps : BusM α} {script more : List Call}

theorem pure (value : α) : Follows (Pure.pure value) [] :=
  fun bus => .ok (.nil bus.board) rfl

theorem bind {next : α → BusM β} (h : Follows steps script)
    (h' : ∀ value, Follows (next value) more) : Follows (steps >>= next) (script ++ more) := by
  refine (Leads.bind h h').mono ?_ ?_
  · rintro _ ⟨first, second, rfl, done, done'⟩
    rw [List.filter_append, done, done']
  · rintro _ (failed | ⟨first, second, rfl, done, failed⟩)
    · exact failed.trans (List.prefix_append script more)
    · rw [List.filter_append, done]
      exact (List.prefix_append_right_inj script).2 failed

/-- The script of a step for each of `values`. -/
theorem forM {step : α → BusM Unit} {script : α → List Call} (values : List α)
    (h : ∀ value, Follows (step value) (script value)) :
    Follows (values.forM step) (values.flatMap script) := by
  induction values with
  | nil => exact pure ()
  | cons value values ih => exact bind (h value) fun _ => ih

/-- An action of the board. -/
theorem perform {f : Board → Board} {call : Call} (action : call.isAction = true)
    (exchange : ∀ board, Exchange board [call] (f board)) : Follows (Bus.perform f) [call] :=
  fun bus => .ok (exchange bus.board) (List.filter_cons_of_pos action)

end Follows

theorem filter_isAction_of_polls {calls : List Call} (polls : calls.all Call.isPoll = true) :
    calls.filter Call.isAction = [] := by
  rw [List.filter_eq_nil_iff]
  intro call mem
  have poll := List.all_eq_true.1 polls call mem
  cases call <;> first | exact Bool.noConfusion | cases poll

theorem follows_waitFor (flags : Status) : Follows (waitFor flags) [] := by
  have waits : Leads (waitFor flags) (Sees flags) (·.all Call.isPoll = true) :=
    fun bus => result_poll flags true bus.board.clock bus
  refine waits.mono ?_ ?_
  · exact fun calls sees => filter_isAction_of_polls sees.all
  · exact fun calls polls => List.prefix_nil.2 (filter_isAction_of_polls polls)

theorem follows_start (address : UInt8) : Follows (start address)
    [.requestStart, .writeData (address <<< 1), .acknowledgeAddress] :=
  .bind (.perform rfl .requestStart) fun _ =>
    .bind (follows_waitFor _) fun _ =>
      .bind (.perform rfl (.writeData · _)) fun _ =>
        .bind (follows_waitFor _) fun _ => .perform rfl .acknowledgeAddress

theorem follows_sendByte (value : UInt8) : Follows (sendByte value) [.writeData value] :=
  .bind (.perform rfl (.writeData · _)) fun _ => follows_waitFor _

/-- What a handshake does: it opens a transaction and sends the bytes of the handshake. -/
def handshakeScript (address : UInt8) : List Call :=
  [.requestStart, .writeData (address <<< 1), .acknowledgeAddress] ++
    Lcd.handshakeBytes.map .writeData

theorem follows_handshake (address : UInt8) :
    Follows (handshake address) (handshakeScript address) := by
  have bytes : Lcd.handshakeBytes.map Call.writeData =
      Lcd.handshake.flatMap fun step => (Lcd.strobe step.value).flatMap fun byte =>
        [.writeData byte] := rfl
  rw [handshakeScript, bytes]
  refine .bind (follows_start address) fun _ => .forM _ fun step => ?_
  have pause : Follows (if 0 < step.settleMicros then
      perform (·.delayMicros step.settleMicros) else Pure.pure ()) [] := by
    split
    case isTrue =>
      intro bus
      have pauses : Exchange bus.board [.delayMicros step.settleMicros]
          (bus.board.delayMicros step.settleMicros) := .single rfl
      exact .ok pauses rfl
    case isFalse => exact .pure ()
  have strobe := Follows.forM (Lcd.strobe step.value) follows_sendByte
  have both := strobe.bind fun _ => pause
  rw [List.append_nil] at both
  exact both

end Bus

end StatusDisplay
