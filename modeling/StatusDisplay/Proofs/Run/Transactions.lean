import StatusDisplay.Proofs.Run.Openings
import StatusDisplay.Proofs.Sync.Bitmap

/-!
# Transactions on the wire

A run on a bitmap panel is one transaction after the other. Each is opened without waiting for it,
on a bus that is free, and carries the opening and then the rows, in this order and none of them
twice. `SplitsInto` says so of a whole history, and `Progress` is what a run keeps to: the cursor
counts the rows of the transaction that was opened last.
-/

namespace StatusDisplay

/-! ## Histories -/

/-- Calls with the step that made them. -/
def Step.entries (step : Step) (calls : List Call) : List (Step × Call) := calls.map (step, ·)

/-- The calls of a run in their order. -/
def history (steps : List Step) : List (Step × Call) :=
  steps.flatMap fun step => step.entries step.calls

/-- The payloads that are started, each with the step that started it. -/
def payloads (entries : List (Step × Call)) : List (Step × List UInt8) :=
  entries.filterMap fun entry => entry.2.transfer?.map (entry.1, ·)

theorem history_concat (steps : List Step) (step : Step) :
    history (steps ++ [step]) = history steps ++ step.entries step.calls := by
  unfold history
  rw [List.flatMap_append, List.flatMap_singleton]

@[simp] theorem payloads_append (entries more : List (Step × Call)) :
    payloads (entries ++ more) = payloads entries ++ payloads more :=
  List.filterMap_append

namespace Step

variable (step : Step) (calls more : List Call)

@[simp] theorem map_snd_entries : (step.entries calls).map Prod.snd = calls := by
  rw [entries, List.map_map]
  exact List.map_id calls

@[simp] theorem entries_append :
    step.entries (calls ++ more) = step.entries calls ++ step.entries more :=
  List.map_append

@[simp] theorem payloads_entries :
    payloads (step.entries calls) = (calls.filterMap Call.transfer?).map (step, ·) := by
  rw [payloads, entries, List.filterMap_map, List.map_filterMap]
  rfl

end Step

/-! ## Transactions -/

/--
An asynchronous start request with all that follows up to the next: the step that let bus events
through and requested the start condition, and the calls behind the request.
-/
structure Transaction where
  opener : Step
  body : List (Step × Call)

namespace Transaction

variable {past : List (Step × Call)} {transaction : Transaction} {step : Step} {calls : List Call}

/-- The calls of a transaction, its start request first. -/
def entries (transaction : Transaction) : List (Step × Call) :=
  transaction.opener.entries [.setEventIrq true, .requestStart] ++ transaction.body

/--
What a transaction sends if nothing cuts it short: the opening, then the two rows as they are drawn
by the steps that start them.
-/
def plan (opener upper lower : Step) : List (Step × List UInt8) :=
  [(opener, opener.before.openingBytes opener.event), (upper, upper.before.upperRow),
    (lower, lower.before.lowerRow)]

/-- A transaction as it should be, behind the calls that were made before it. -/
structure Proper (past : List (Step × Call)) (transaction : Transaction) : Prop where
  /-- The last that its opener did before was to see to it that the bus is free. -/
  settled : ∃ address earlier settling, transaction.opener.after.mode = .bitmap address .firstRow ∧
    past = earlier ++ transaction.opener.entries settling ∧
      Settles address transaction.opener.event settling
  /-- No other start condition is requested. -/
  single : (transaction.body.map Prod.snd).all Call.continues = true
  /-- No row comes before the opening or out of its turn, and nothing comes after the rows. -/
  carries : ∃ upper lower, payloads transaction.body <+: plan transaction.opener upper lower

/-- A transaction with more calls. -/
def append (transaction : Transaction) (step : Step) (calls : List Call) : Transaction :=
  { transaction with body := transaction.body ++ step.entries calls }

theorem entries_append (transaction : Transaction) (step : Step) (calls : List Call) :
    (transaction.append step calls).entries = transaction.entries ++ step.entries calls :=
  (List.append_assoc ..).symm

theorem payloads_body_append (transaction : Transaction) (step : Step) (calls : List Call) :
    payloads (transaction.append step calls).body =
      payloads transaction.body ++ (calls.filterMap Call.transfer?).map (step, ·) := by
  rw [append, payloads_append, Step.payloads_entries]

/-- Calls that go on with the transaction leave it proper, as long as it carries what it should. -/
theorem Proper.append (h : transaction.Proper past) (continues : calls.all Call.continues = true)
    (carries : ∃ upper lower, payloads (transaction.append step calls).body <+:
      plan transaction.opener upper lower) : (transaction.append step calls).Proper past := by
  refine ⟨h.settled, ?_, carries⟩
  rw [Transaction.append, List.map_append, Step.map_snd_entries, List.all_append, h.single,
    continues]
  rfl

end Transaction

/--
A history in which transactions follow one another, behind calls that open none. Nothing is sent
before the first of them.
-/
inductive SplitsInto : List (Step × Call) → List Transaction → Prop where
  | nil {past : List (Step × Call)} : (past.map Prod.snd).all Call.opensNothing = true →
      SplitsInto past []
  | snoc {past : List (Step × Call)} {transactions : List Transaction} {transaction : Transaction} :
      SplitsInto past transactions → (transactions = [] → payloads past = []) →
      transaction.Proper past →
      SplitsInto (past ++ transaction.entries) (transactions ++ [transaction])

/-! ## What a run keeps to -/

/-- How far a run has come that has left the engine in a mode. -/
inductive Progress : List (Step × Call) → List Transaction → Mode → Prop where
  /-- No panel is known, and no transaction was opened. -/
  | unopened {past : List (Step × Call)} {mode : Mode} :
      (past.map Prod.snd).all Call.opensNothing = true → mode.cursor? = none →
      (mode = .unknown → payloads past = []) → Progress past [] mode
  /-- The cursor counts the rows behind the opening. -/
  | opened {past : List (Step × Call)} {transactions : List Transaction} {transaction : Transaction}
      {address : UInt8} {cursor : Oled.Cursor} :
      SplitsInto past transactions → (transactions = [] → payloads past = []) →
      transaction.Proper past → (payloads transaction.body).length = 1 + cursor.value →
      Progress (past ++ transaction.entries) (transactions ++ [transaction])
        (.bitmap address cursor)

namespace Progress

variable {past : List (Step × Call)} {transactions : List Transaction} {mode : Mode} {step : Step}
  {calls : List Call}

theorem splitsInto (h : Progress past transactions mode) : SplitsInto past transactions := by
  cases h with
  | unopened opens => exact .nil opens
  | opened splits unsent proper => exact .snoc splits unsent proper

/-- Nothing has been sent before a first transaction is opened. -/
theorem unsent {address : UInt8} (h : Progress past transactions mode)
    (noOther : mode = .unknown ∨ mode.controller? = some (.bitmap address))
    (none : transactions = []) : payloads past = [] := by
  cases h with
  | unopened _ noPanel unsent =>
    obtain unknown | known := noOther
    · exact unsent unknown
    · cases mode with
      | bitmap => cases noPanel
      | _ => cases known
  | opened => exact absurd none (List.concat_ne_nil _ _)

/-- More calls without a transaction. -/
theorem unopened_append {after : Mode} (before : (past.map Prod.snd).all Call.opensNothing = true)
    (opens : calls.all Call.opensNothing = true) (noPanel : after.cursor? = none)
    (sends : after = .unknown → payloads past = [] ∧ calls.all Call.sendsNothing = true) :
    Progress (past ++ step.entries calls) [] after := by
  refine .unopened ?_ noPanel fun unknown => ?_
  · rw [List.map_append, Step.map_snd_entries, List.all_append, before, opens]
    rfl
  · obtain ⟨unsent, sends⟩ := sends unknown
    rw [payloads_append, unsent, Step.payloads_entries, filterMap_transfer?_of_sendsNothing sends]
    rfl

/-- Calls that prepare the next transaction, or add nothing at all, leave a run where it is. -/
theorem append (h : Progress past transactions step.before.mode)
    (prepares : step.before.Preparing calls) :
    ∃ transactions, Progress (past ++ step.entries calls) transactions step.before.mode := by
  obtain ⟨opens, sends, adds⟩ := prepares
  generalize step.before.mode = mode at h adds ⊢
  cases h with
  | unopened opens' noPanel unsent =>
    exact ⟨[], unopened_append opens' opens noPanel fun unknown => ⟨unsent unknown, sends⟩⟩
  | @opened past transactions transaction address cursor splits unsent proper rows =>
    have continues := Call.all_mono (adds rfl) Call.continues_of_addsNothing
    have same : payloads (transaction.append step calls).body = payloads transaction.body := by
      rw [Transaction.payloads_body_append, filterMap_transfer?_of_sendsNothing sends]
      exact List.append_nil _
    have proper' : (transaction.append step calls).Proper past :=
      proper.append continues (same ▸ proper.carries)
    rw [List.append_assoc, ← Transaction.entries_append]
    exact ⟨_, .opened splits unsent proper' (same ▸ rows)⟩

/-- The next row follows what the cursor counts, and is counted. -/
theorem row {address : UInt8} {cursor : Oled.Cursor} {row : Fin Text.rowCount}
    (h : Progress past transactions (.bitmap address cursor)) (next : cursor.row? = some row)
    (continues : calls.all Call.continues = true)
    (carries : calls.filterMap Call.transfer? = [(step.before.currentRow row).bytes]) :
    ∃ transactions,
      Progress (past ++ step.entries calls) transactions (.bitmap address cursor.advance) := by
  cases h with
  | unopened _ noPanel => cases noPanel
  | @opened past transactions transaction address cursor splits unsent proper rows =>
    obtain ⟨upper, lower, carried⟩ := proper.carries
    rw [List.prefix_iff_eq_take, rows] at carried
    have more := transaction.payloads_body_append step calls
    rw [carries] at more
    have length : (payloads (transaction.append step calls).body).length =
        1 + cursor.advance.value := by
      rw [more, List.length_append, rows]
      cases cursor <;> first | rfl | cases next
    rw [List.append_assoc, ← Transaction.entries_append]
    refine ⟨_, .opened splits unsent (proper.append continues ?_) length⟩
    rw [more, carried]
    cases cursor with
    | firstRow =>
      cases next
      exact ⟨step, lower, [(lower, lower.before.lowerRow)], rfl⟩
    | secondRow =>
      cases next
      exact ⟨upper, step, [], rfl⟩
    | reopen => cases next

/-- A step that opens a transaction on a bus that is free has it carry the opening. -/
theorem reopened {address : UInt8} {settling tail : List Call}
    (h : Progress past transactions step.before.mode)
    (noOther : step.before.mode = .unknown ∨
      step.before.mode.controller? = some (.bitmap address))
    (settles : Settles address step.event settling) (prepares : step.before.Preparing settling)
    (continues : tail.all Call.continues = true)
    (carries : tail.filterMap Call.transfer? = [step.before.openingBytes step.event])
    (after : step.after.mode = .bitmap address .firstRow) :
    ∃ transactions, Progress
      (past ++ step.entries (settling ++ .setEventIrq true :: .requestStart :: tail)) transactions
      step.after.mode := by
  obtain ⟨transactions, settled⟩ := h.append prepares
  have carried : payloads (step.entries tail) =
      [(step, step.before.openingBytes step.event)] := by
    rw [Step.payloads_entries, carries]
    rfl
  have proper : (Transaction.mk step (step.entries tail)).Proper
      (past ++ step.entries settling) := by
    refine ⟨⟨address, past, settling, after, rfl, settles⟩, ?_, step, step, ?_⟩
    · rw [Step.map_snd_entries, continues]
    · rw [carried]
      exact ⟨[(step, step.before.upperRow), (step, step.before.lowerRow)], rfl⟩
  have split : past ++ step.entries (settling ++ .setEventIrq true :: .requestStart :: tail) =
      past ++ step.entries settling ++ (Transaction.mk step (step.entries tail)).entries := by
    rw [Step.entries_append, ← List.append_assoc]
    rfl
  rw [split, after]
  exact ⟨_, .opened settled.splitsInto (settled.unsent noOther) proper
    (congrArg List.length carried)⟩

/-- Every step keeps to it. -/
theorem of_moves (h : Progress past transactions step.before.mode)
    (moves : step.before.Moves step.event step.calls step.after) :
    ∃ transactions, Progress (past ++ step.entries step.calls) transactions step.after.mode := by
  generalize step.calls = calls at moves ⊢
  cases moves with
  | nothing adds same =>
    rw [same]
    exact h.append (.of_addsNothing adds)
  | elsewhere before after opens sends =>
    generalize step.before.mode = mode at h before sends
    cases h with
    | opened => cases before
    | unopened opens' _ unsent =>
      exact ⟨[], unopened_append opens' opens after fun unknown =>
        ⟨unsent (sends unknown).1, (sends unknown).2⟩⟩
  | row before next after =>
    rw [before] at h
    rw [after]
    exact h.row next rfl rfl
  | opened noOther settles prepares continues carries after =>
    exact h.reopened noOther settles prepares continues carries after

/-- A run that begins without a display keeps to it. -/
theorem of_run {engine final : Engine} {steps : List Step} (run : Run engine steps final)
    (unknown : engine.mode = .unknown)
    (fresh : ∀ step ∈ steps, step.event = .bringUp → step.before.mode = .unknown) :
    ∃ transactions, Progress (history steps) transactions final.mode := by
  induction run with
  | nil => exact ⟨[], .unopened rfl (congrArg Mode.cursor? unknown) fun _ => rfl⟩
  | @snoc steps step _ ih =>
    obtain ⟨transactions, earlier⟩ := ih fun step mem => fresh step (List.mem_append_left _ mem)
    have last := fresh step (List.mem_append_right _ (List.mem_singleton_self step))
    rw [history_concat]
    exact earlier.of_moves (step.moves last)

end Progress

/--
**What a panel gets is one transaction after the other.** Let anything happen to a driver that knows
no display, in any order and with any faults, except that it is brought up while it knows one. Then
the calls that it makes split into transactions. After the start request of one and before that of
the next the bus is set free: by a close that succeeds, by a reset of the bus master, or, at the
first bring-up, by the end of the probe that finds the panel. A transaction carries no more than the
opening, the upper row and the lower row, in this order, and no payload is sent outside of one. The
cursor is the number of rows that were started since the last start request.
-/
theorem panel_transactions {engine final : Engine} {steps : List Step}
    (unknown : engine.mode = .unknown) (run : Run engine steps final)
    (fresh : ∀ step ∈ steps, step.event = .bringUp → step.before.mode = .unknown) :
    ∃ transactions, SplitsInto (history steps) transactions ∧
      ∀ address cursor, final.mode = .bitmap address cursor →
        ∃ earlier last, transactions = earlier ++ [last] ∧
          (payloads last.body).length = 1 + cursor.value := by
  obtain ⟨transactions, progress⟩ := Progress.of_run run unknown fresh
  refine ⟨transactions, progress.splitsInto, fun address cursor mode => ?_⟩
  rw [mode] at progress
  generalize history steps = past at progress
  cases progress with
  | unopened _ noPanel => cases noPanel
  | opened _ _ _ rows => exact ⟨_, _, rfl, rows⟩

/-- A driver at a panel that it does not know yet. -/
def newPanel : Engine where
  config := {}
  display := {}
  bus := { board := { world := { devices := [0x3c] } }, timeout := 10000 }
  watchdog := { timeout := 200000 }

/-- A panel is brought up and refreshed for a frame; a bus error hits it in the next one. -/
def hitInSecondFrame : List Event :=
  .bringUp :: panelFrame ++ [.interrupt .transferDone, .interrupt .busError] ++ panelFrame.dropLast

/-- After the bus error the panel gets a whole transaction again. -/
theorem panel_transactions_hit :
    Engine.ofConfig {} {} { world := { devices := [0x3c] } } = .ok newPanel ∧
      ∃ transactions last,
        SplitsInto (history (newPanel.steps hitInSecondFrame)) (transactions ++ [last]) ∧
          (payloads last.body).length = 3 := by
  have fresh : ∀ step ∈ newPanel.steps hitInSecondFrame,
      step.event = .bringUp → step.before.mode = .unknown := by decide +kernel
  have mode : (newPanel.nextAll hitInSecondFrame).mode = .bitmap 0x3c .reopen := by
    decide +kernel
  obtain ⟨_, splits, cursor⟩ := panel_transactions rfl (run_steps newPanel hitInSecondFrame) fresh
  obtain ⟨transactions, last, rfl, rows⟩ := cursor _ _ mode
  exact ⟨rfl, transactions, last, splits, rows⟩

end StatusDisplay
