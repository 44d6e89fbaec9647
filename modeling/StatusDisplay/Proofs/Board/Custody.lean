import StatusDisplay.Proofs.Board.Wiring

/-!
# Who has the lines

The lines of the bus are worked by hand, or they are the bus master's, and never both at once.
`Settings.Orderly` says so of one moment and `Settings.Keeps` of every moment while calls are made;
it also asks that the bus master is only used while it is on and has both lines. Three regimes keep
to this for as long as they last: everything is at rest, the lines are worked by hand, or the bus
master has them. What is left to look at are the few calls that lead from one regime to the next.
-/

namespace StatusDisplay

/-- Calls that put something on the bus through the bus master. -/
def Call.usesMaster : Call → Bool
  | .requestStart | .writeData _ | .startTransfer _ => true
  | _ => false

namespace Settings

/-- The settings of a board to which nothing has happened yet. -/
def initial : Settings := ({} : Board).settings

/-- The state of a line. -/
def line (settings : Settings) : Line → LineState
  | .scl => settings.scl
  | .sda => settings.sda

theorem line_modifyLine (settings : Settings) (line other : Line) (f : LineState → LineState) :
    (settings.modifyLine line f).line other =
      if other = line then f (settings.line line) else settings.line other := by
  cases line <;> cases other <;> rfl

@[simp] theorem enabled_modifyLine (settings : Settings) (line : Line) (f : LineState → LineState) :
    (settings.modifyLine line f).enabled = settings.enabled := by
  cases line <;> rfl

@[simp] theorem transferActive_modifyLine (settings : Settings) (line : Line)
    (f : LineState → LineState) :
    (settings.modifyLine line f).transferActive = settings.transferActive := by
  cases line <;> rfl

/-- The lines are in one pair of hands. -/
structure Orderly (settings : Settings) : Prop where
  /-- While the bus master does not have a line, it is off the bus and nothing is transferred. -/
  apart : ∀ line, (settings.line line).mode ≠ .busMaster →
    settings.enabled = false ∧ settings.transferActive = false
  /-- A line is pulled low only while it is worked by hand. -/
  pulled : ∀ line, (settings.line line).drivenLow = true →
    (settings.line line).mode = .openDrain

/-- The bus master is on and has both lines. -/
structure Connected (settings : Settings) : Prop where
  powered : settings.powered = true
  enabled : settings.enabled = true
  lines : ∀ line, (settings.line line).mode = .busMaster

/--
The lines are in one pair of hands before, between and after the calls, and the bus master is only
used while it is connected.
-/
def Keeps (settings : Settings) : List Call → Prop
  | [] => settings.Orderly
  | call :: calls =>
    settings.Orderly ∧ (call.usesMaster = true → settings.Connected) ∧
      (settings.after call).Keeps calls

variable {settings : Settings} {call : Call} {calls more : List Call}

theorem Keeps.orderly (h : settings.Keeps calls) : settings.Orderly := by
  cases calls with
  | nil => exact h
  | cons call calls => exact h.1

theorem keeps_append :
    settings.Keeps (calls ++ more) ↔
      settings.Keeps calls ∧ (settings.afterAll calls).Keeps more := by
  induction calls generalizing settings with
  | nil => exact ⟨fun h => ⟨h.orderly, h⟩, fun h => h.2⟩
  | cons call calls ih => simp only [List.cons_append, Keeps, afterAll_cons, ih, and_assoc]

/-- What is kept is kept at each point of the calls. -/
theorem Keeps.at_split (h : settings.Keeps (calls ++ more)) :
    (settings.afterAll calls).Orderly ∧
      ∀ call ∈ more.head?, call.usesMaster = true → (settings.afterAll calls).Connected := by
  have later := (keeps_append.1 h).2
  refine ⟨later.orderly, ?_⟩
  intro call first uses
  cases more with
  | nil => cases first
  | cons next more =>
    obtain rfl : next = call := by simpa using first
    exact later.2.1 uses

/-- A call that does not use the bus master asks only that the lines stay in one pair of hands. -/
theorem keeps_single (idle : call.usesMaster = false) (before : settings.Orderly)
    (after : (settings.after call).Orderly) : settings.Keeps [call] := by
  refine ⟨before, ?_, after⟩
  intro uses
  rw [idle] at uses
  cases uses

/-! ## Regimes -/

/-- Settings under which calls of a kind can be made one after the other. -/
structure Regime (P : Settings → Prop) (p : Call → Bool) : Prop where
  orderly : ∀ {settings}, P settings → settings.Orderly
  connected : ∀ {settings call}, P settings → p call = true → call.usesMaster = true →
    settings.Connected
  after : ∀ {settings call}, P settings → p call = true → P (settings.after call)

/-- As long as a regime lasts, the lines are in one pair of hands. -/
theorem Regime.keeps {P : Settings → Prop} {p : Call → Bool} (regime : Regime P p)
    (start : P settings) (all : calls.all p = true) :
    settings.Keeps calls ∧ P (settings.afterAll calls) := by
  induction calls generalizing settings with
  | nil => exact ⟨regime.orderly start, start⟩
  | cons call calls ih =>
    rw [List.all_cons, Bool.and_eq_true] at all
    obtain ⟨keeps, last⟩ := ih (regime.after start all.1) all.2
    exact ⟨⟨regime.orderly start, regime.connected start all.1, keeps⟩, last⟩

/-- The bus master is off, nothing is transferred, and nobody pulls a line low. -/
structure AtRest (settings : Settings) : Prop where
  enabled : settings.enabled = false
  inactive : settings.transferActive = false
  released : ∀ line, (settings.line line).drivenLow = false

/-- The bus master is off, nothing is transferred, and both lines are worked by hand. -/
structure ByHand (settings : Settings) : Prop where
  enabled : settings.enabled = false
  inactive : settings.transferActive = false
  lines : ∀ line, (settings.line line).mode = .openDrain

/-- The bus master is on and has both lines, and nobody else pulls one low. -/
structure Mastered (settings : Settings) : Prop where
  powered : settings.powered = true
  enabled : settings.enabled = true
  lines : ∀ line, settings.line line = ⟨.busMaster, false⟩

theorem Mastered.connected (h : settings.Mastered) : settings.Connected where
  powered := h.powered
  enabled := h.enabled
  lines line := by rw [h.lines]

theorem Mastered.orderly (h : settings.Mastered) : settings.Orderly where
  apart line other := absurd (h.connected.lines line) other
  pulled line low := by
    rw [h.lines] at low
    cases low

theorem AtRest.orderly (h : settings.AtRest) : settings.Orderly where
  apart _ _ := ⟨h.enabled, h.inactive⟩
  pulled line low := by
    rw [h.released] at low
    cases low

theorem ByHand.orderly (h : settings.ByHand) : settings.Orderly where
  apart _ _ := ⟨h.enabled, h.inactive⟩
  pulled line _ := h.lines line

end Settings

/-- Calls that leave a board at rest. -/
def Call.keepsRest : Call → Bool
  | .configure _ | .requestStart | .writeData _ | .startTransfer _ | .pullLow _ => false
  | _ => true

/-- Calls that leave the lines with the bus master. -/
def Call.keepsMaster : Call → Bool
  | .setPowered _ | .disable | .reset | .setLineMode .. | .release _ | .pullLow _ => false
  | _ => true

theorem Call.idle_of_keepsRest (call : Call) (keeps : call.keepsRest = true) :
    call.usesMaster = false := by
  cases call <;> first | rfl | cases keeps

theorem Call.idle_of_isRelease (call : Call) (release : call.isRelease = true) :
    call.usesMaster = false := by
  cases call <;> first | rfl | cases release

namespace Settings

variable {settings : Settings}

theorem regime_atRest : Regime AtRest Call.keepsRest where
  orderly h := h.orderly
  connected {_ call} _ keeps uses := by
    rw [call.idle_of_keepsRest keeps] at uses
    cases uses
  after {settings call} h keeps := by
    obtain ⟨enabled, inactive, released⟩ := h
    cases call with
    | setLineMode line mode =>
      refine ⟨by simpa [after] using enabled, by simpa [after] using inactive, ?_⟩
      intro other
      rw [after, line_modifyLine]
      split <;> exact released _
    | release line =>
      refine ⟨by simpa [after] using enabled, by simpa [after] using inactive, ?_⟩
      intro other
      rw [after, line_modifyLine]
      split
      case isTrue => rfl
      case isFalse => exact released other
    | disable => exact ⟨rfl, inactive, released⟩
    | reset => exact ⟨rfl, inactive, released⟩
    | stopTransfer => exact ⟨enabled, rfl, released⟩
    | _ => first | exact ⟨enabled, inactive, released⟩ | cases keeps

theorem regime_byHand : Regime ByHand Call.isRelease where
  orderly h := h.orderly
  connected {_ call} _ release uses := by
    rw [call.idle_of_isRelease release] at uses
    cases uses
  after {settings call} h release := by
    obtain ⟨enabled, inactive, lines⟩ := h
    have kept (line : Line) (f : LineState → LineState)
        (mode : (f (settings.line line)).mode = .openDrain) :
        (settings.modifyLine line f).ByHand := by
      refine ⟨by simpa using enabled, by simpa using inactive, ?_⟩
      intro other
      rw [line_modifyLine]
      split
      case isTrue => exact mode
      case isFalse => exact lines other
    cases call with
    | setLineMode line mode =>
      obtain rfl : mode = .openDrain := beq_iff_eq.1 release
      exact kept line ({ · with mode := .openDrain }) rfl
    | release line => exact kept line ({ · with drivenLow := false }) (lines line)
    | pullLow line => exact kept line ({ · with drivenLow := true }) (lines line)
    | _ => first | exact ⟨enabled, inactive, lines⟩ | cases release

theorem regime_mastered : Regime Mastered Call.keepsMaster where
  orderly h := h.orderly
  connected h _ _ := h.connected
  after {settings call} h keeps := by
    obtain ⟨powered, enabled, lines⟩ := h
    cases call with
    | configure => exact ⟨powered, rfl, lines⟩
    | _ => first | exact ⟨powered, enabled, lines⟩ | cases keeps

end Settings

/-! ## Boards -/

/-- From the first board to the second the lines were in one pair of hands all the time. -/
def Board.Keeps (before after : Board) : Prop :=
  ∃ calls, Exchange before calls after ∧ before.settings.Keeps calls

namespace Board.Keeps

variable {first second third : Board} {calls : List Call}

theorem trans (h : first.Keeps second) (h' : second.Keeps third) : first.Keeps third := by
  obtain ⟨calls, exchange, keeps⟩ := h
  obtain ⟨more, exchange', keeps'⟩ := h'
  refine ⟨calls ++ more, exchange.append exchange', Settings.keeps_append.2 ⟨keeps, ?_⟩⟩
  rw [← exchange.settings_eq]
  exact keeps'

/-- Calls of a regime. -/
theorem of_regime {P : Settings → Prop} {p : Call → Bool} (regime : Settings.Regime P p)
    (start : P first.settings) (makes : first.Makes p second) : first.Keeps second := by
  obtain ⟨calls, exchange, all⟩ := makes
  exact ⟨calls, exchange, (regime.keeps start all).1⟩

theorem of_rest (rest : first.settings.AtRest) (makes : first.Makes Call.keepsRest second) :
    first.Keeps second :=
  of_regime Settings.regime_atRest rest makes

theorem of_mastered (mastered : first.settings.Mastered)
    (makes : first.Makes Call.keepsMaster second) : first.Keeps second :=
  of_regime Settings.regime_mastered mastered makes

end Board.Keeps

/-! ## From one regime to the next -/

namespace Settings

variable {settings : Settings}

/-- The lines are handed over before the bus master is switched on. -/
theorem keeps_attach (rest : settings.AtRest) (powered : settings.powered = true) (speed : Speed) :
    settings.Keeps
      [.setLineMode .scl .busMaster, .setLineMode .sda .busMaster, .configure speed] := by
  have lends : [Call.setLineMode .scl .busMaster, .setLineMode .sda .busMaster].all
      Call.keepsRest = true := rfl
  obtain ⟨lent, free⟩ := regime_atRest.keeps rest lends
  have mastered : (((settings.after (.setLineMode .scl .busMaster)).after
      (.setLineMode .sda .busMaster)).after (.configure speed)).Mastered := by
    refine ⟨powered, rfl, ?_⟩
    intro line
    cases line with
    | scl => exact congrArg (LineState.mk .busMaster) (rest.released .scl)
    | sda => exact congrArg (LineState.mk .busMaster) (rest.released .sda)
  exact keeps_append.2 ⟨lent, keeps_single rfl free.orderly mastered.orderly⟩

/-- The bus master is switched off before the lines are left to themselves. -/
theorem Mastered.atRest_disable (h : settings.Mastered) (inactive : settings.transferActive = false) :
    (settings.after .disable).AtRest where
  enabled := rfl
  inactive := inactive
  released line := congrArg LineState.drivenLow (h.lines line)

/-- A reset takes the bus master off the bus, and the transfer is stopped behind it. -/
theorem Mastered.keeps_reset (h : settings.Mastered) :
    settings.Keeps [.reset, .stopTransfer] ∧
      ((settings.after .reset).after .stopTransfer).AtRest := by
  have released : ∀ line, (settings.line line).drivenLow = false := fun line =>
    congrArg LineState.drivenLow (h.lines line)
  have rest : ((settings.after .reset).after .stopTransfer).AtRest := ⟨rfl, rfl, released⟩
  have reset : (settings.after .reset).Orderly := by
    refine ⟨fun line other => absurd (h.connected.lines line) other, fun line low => ?_⟩
    have high : ((settings.after .reset).line line).drivenLow = false := released line
    rw [high] at low
    cases low
  exact ⟨⟨h.orderly, nofun, keeps_single rfl reset rest.orderly⟩, rest⟩

end Settings

end StatusDisplay
