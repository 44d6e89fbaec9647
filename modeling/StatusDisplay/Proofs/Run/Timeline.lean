import StatusDisplay.Proofs.Engine.Transfers
import StatusDisplay.Proofs.Run.Basic

/-!
# The timeline of a run

Seen from the transfer channel, a run is a list of signs: the calls that the driver makes, and the
moments at which a running transfer ends by itself. A transfer is complete when its end follows its
start with no other start, stop or end in between. `Followed` says this of any list, and grows with
the list one element at a time (`followed_concat`).
-/

namespace StatusDisplay

/-! ## One thing after another -/

section Followed

variable {α : Type} {p bad q : α → Prop} {l more : List α} {z : α}

/-- An element that satisfies `p` has nothing bad behind it. -/
def Opened (p bad : α → Prop) (l : List α) : Prop :=
  ∃ earlier x since, l = earlier ++ x :: since ∧ p x ∧ ∀ y ∈ since, ¬ bad y

/-- An element that satisfies `p` is followed by one that satisfies `q`, with nothing bad between. -/
def Followed (p bad q : α → Prop) (l : List α) : Prop :=
  ∃ earlier x between y later, l = earlier ++ x :: between ++ y :: later ∧ p x ∧ q y ∧
    ∀ z ∈ between, ¬ bad z

theorem opened_concat : Opened p bad (l ++ [z]) ↔ p z ∨ Opened p bad l ∧ ¬ bad z := by
  constructor
  · rintro ⟨earlier, x, since, split, holds, clean⟩
    obtain rfl | ⟨since, y, rfl⟩ := since.eq_nil_or_concat
    · obtain ⟨_, last⟩ := List.append_inj' split rfl
      obtain rfl := List.singleton_inj.1 last
      exact .inl holds
    · rw [List.concat_eq_append, ← List.cons_append, ← List.append_assoc] at split
      obtain ⟨rfl, last⟩ := List.append_inj' split rfl
      obtain rfl := List.singleton_inj.1 last
      rw [List.concat_eq_append] at clean
      refine .inr ⟨⟨earlier, x, since, rfl, holds, fun y mem => ?_⟩, ?_⟩
      · exact clean y (List.mem_append_left _ mem)
      · exact clean z (List.mem_append_right _ (List.mem_singleton_self z))
  · rintro (holds | ⟨⟨earlier, x, since, rfl, holds, clean⟩, good⟩)
    · exact ⟨l, z, [], rfl, holds, nofun⟩
    · refine ⟨earlier, x, since ++ [z], by simp, holds, fun y mem => ?_⟩
      obtain mem | mem := List.mem_append.1 mem
      · exact clean y mem
      · rw [List.mem_singleton.1 mem]
        exact good

theorem followed_concat :
    Followed p bad q (l ++ [z]) ↔ Followed p bad q l ∨ Opened p bad l ∧ q z := by
  constructor
  · rintro ⟨earlier, x, between, y, later, split, holds, ends, clean⟩
    obtain rfl | ⟨later, w, rfl⟩ := later.eq_nil_or_concat
    · obtain ⟨rfl, last⟩ := List.append_inj' split rfl
      obtain rfl := List.singleton_inj.1 last
      exact .inr ⟨⟨earlier, x, between, rfl, holds, clean⟩, ends⟩
    · rw [List.concat_eq_append, ← List.cons_append, ← List.append_assoc] at split
      obtain ⟨rfl, _⟩ := List.append_inj' split rfl
      exact .inl ⟨earlier, x, between, y, later, rfl, holds, ends, clean⟩
  · rintro (⟨earlier, x, between, y, later, rfl, holds, ends, clean⟩ |
      ⟨⟨earlier, x, since, rfl, holds, clean⟩, ends⟩)
    · exact ⟨earlier, x, between, y, later ++ [z], by simp, holds, ends, clean⟩
    · exact ⟨earlier, x, since, z, [], rfl, holds, ends, clean⟩

/-- More elements that do not satisfy `q` make no difference. -/
theorem followed_append (none : ∀ z ∈ more, ¬ q z) :
    Followed p bad q (l ++ more) ↔ Followed p bad q l := by
  induction more generalizing l with
  | nil => rw [List.append_nil]
  | cons z more ih =>
    obtain ⟨first, rest⟩ := List.forall_mem_cons.1 none
    rw [List.append_cons, ih rest, followed_concat, or_iff_left]
    exact fun h => first h.2

/-- After elements that do not satisfy `p`, what was open is open if none of them was bad. -/
theorem opened_append (none : ∀ z ∈ more, ¬ p z) :
    Opened p bad (l ++ more) ↔ Opened p bad l ∧ ∀ z ∈ more, ¬ bad z := by
  induction more generalizing l with
  | nil => simp
  | cons z more ih =>
    obtain ⟨first, rest⟩ := List.forall_mem_cons.1 none
    rw [List.append_cons, ih rest, opened_concat, or_iff_right first, List.forall_mem_cons,
      and_assoc]

end Followed

/-! ## Signs -/

/-- What the transfer channel sees of a run. -/
inductive Sign where
  | call (call : Call)
  /-- The running transfer has ended by itself. -/
  | completed
  deriving DecidableEq, Repr

/-- A transfer that was running is over at this sign, or another one starts. -/
def Sign.EndsTransfer : Sign → Prop
  | .call (.startTransfer _) | .call .stopTransfer | .completed => True
  | _ => False

namespace Step

/-- The calls of a step, in their order. -/
def calls (step : Step) : List Call :=
  (step.after.board.trace.take
    (step.after.board.trace.length - step.before.board.trace.length)).reverse

/-- Whether a step tells the end of a transfer that was running. -/
def completes (step : Step) : Bool :=
  step.event = .interrupt .transferDone && step.before.activity = .inFlight

/-- The signs of a step: the end of the transfer comes before the driver's answer to it. -/
def signs (step : Step) : List Sign :=
  (if step.completes then [.completed] else []) ++ step.calls.map .call

/-- Whether a step counts a frame. -/
def counts (step : Step) : Bool :=
  step.after.display.refreshCount ≠ step.before.display.refreshCount

variable {step : Step} {calls : List Call}

theorem calls_eq (exchange : Exchange step.before.board calls step.after.board) :
    step.calls = calls := by
  unfold Step.calls
  rw [exchange.trace_eq, List.length_append, Nat.add_sub_cancel, List.take_left,
    List.reverse_reverse]

theorem calls_of_trace_eq (same : step.after.board.trace = step.before.board.trace) :
    step.calls = [] := by
  rw [Step.calls, same, Nat.sub_self]
  rfl

/-- The signs of a step that tells no end of a transfer are its calls. -/
theorem signs_eq (exchange : Exchange step.before.board calls step.after.board)
    (running : step.completes = false) : step.signs = calls.map .call := by
  rw [signs, running, calls_eq exchange]
  rfl

/-- The end of a running transfer comes before the calls that answer it. -/
theorem signs_of_completes (completes : step.completes = true) :
    step.signs = .completed :: step.calls.map .call := by
  rw [signs, completes]
  rfl

theorem inFlight_of_completes (completes : step.completes = true) :
    step.before.activity = .inFlight := by
  simp only [Step.completes, Bool.and_eq_true, decide_eq_true_eq] at completes
  exact completes.2

/-- A step that only moves the opening of a transaction along, if it does anything. -/
structure Quiet (step : Step) : Prop where
  event : step.event ≠ .interrupt .busError
  frame : step.before.Frame step.after
  signs : ∀ sign ∈ step.signs, ∃ call, sign = .call call ∧ call.isAddressing = true

/-- An undisturbed step is quiet, or the driver recovers, or a running transfer ends. -/
theorem Undisturbed.cases (h : step.Undisturbed) :
    step.Quiet ∨
      step.event = .interrupt .busError ∧ step.before.Recovered step.after ∨
      step.completes = true ∧ step.event ≠ .interrupt .busError ∧
        step.before.TransferDone step.after := by
  obtain ⟨before, event, after, taken⟩ := step
  obtain ⟨outside, prompt⟩ := h
  have stepped : before.Stepped event after := Step.stepped ⟨before, event, after, taken⟩
  cases stepped with
  | broughtUp => cases outside
  | busEvent =>
    obtain ⟨calls, exchange, addressing⟩ := before.makes_onBusEvent
    refine .inl ⟨nofun, .onBusEvent before, ?_⟩
    intro sign mem
    rw [signs_eq exchange rfl] at mem
    obtain ⟨call, member, rfl⟩ := List.mem_map.1 mem
    exact ⟨call, rfl, List.all_eq_true.1 addressing call member⟩
  | recovered result => exact .inr (.inl ⟨rfl, result⟩)
  | transferDone result =>
    have inFlight : before.activity = .inFlight := prompt rfl
    refine .inr (.inr ⟨?_, nofun, result⟩)
    simp [completes, inFlight]
  | world =>
    -- The world changes without a call.
    refine .inl ⟨nofun, .modifyBoard before _, ?_⟩
    intro sign mem
    have nothing : Step.signs ⟨before, _, _, taken⟩ = [] := by
      rw [signs, calls_of_trace_eq rfl]
      rfl
    rw [nothing] at mem
    cases mem
  | foreground foreground =>
    have inside : event.isOutside = false := Event.not_isOutside foreground
    exact absurd (outside.symm.trans inside) (by decide)

theorem not_counts_of_display (same : step.after.display = step.before.display) :
    step.counts = false := by
  rw [counts, same]
  simp

/-- A quiet step leaves the transfer channel alone. -/
theorem Quiet.not_endsTransfer (h : step.Quiet) : ∀ sign ∈ step.signs, ¬ sign.EndsTransfer := by
  intro sign mem
  obtain ⟨call, rfl, addressing⟩ := h.signs sign mem
  cases call <;> first | exact id | cases addressing

theorem Quiet.not_counts (h : step.Quiet) : step.counts = false :=
  not_counts_of_display h.frame.display

end Step

/-- The signs of all steps of a run, in their order. -/
def timeline (steps : List Step) : List Sign := steps.flatMap Step.signs

/-- A transfer of `bytes` is started and completes. -/
def Completes (bytes : List UInt8) (timeline : List Sign) : Prop :=
  Followed (· = .call (.startTransfer bytes)) Sign.EndsTransfer (· = .completed) timeline

theorem timeline_concat (steps : List Step) (step : Step) :
    timeline (steps ++ [step]) = timeline steps ++ step.signs := by
  unfold timeline
  rw [List.flatMap_append, List.flatMap_singleton]

end StatusDisplay
