import StatusDisplay.Engine.Interrupt
import StatusDisplay.Sync

/-!
# The foreground's waits

The foreground may wait for its text to reach the glass, and it powers the display on. A character
display that has just been found is lit only after its setup has gone out.
-/

namespace StatusDisplay.Engine

/-- Waits until everything written so far is on the glass; `relax` runs in between. -/
def sync (engine : Engine) (relax : Engine → Except Defect Engine) (limit : Nat) :
    Except Defect (Waited Engine) :=
  waitForFrames (·.display.refreshCount) relax limit engine

/-- Sets the backlight flag. -/
def setBacklight (engine : Engine) (on : Bool) : Engine :=
  { engine with display := engine.display.setBacklight on }

/--
Follows up on a bring-up: a character display found just now has its setup flushed and is lit. The
answer says whether the bring-up succeeded; none if patience ran out.
-/
def finishPowerOn (engine : Engine) (result : Except BringUpError PowerOn)
    (relax : Engine → Except Defect Engine) (limit : Nat) :
    Except Defect (Option Bool × Waited Engine) :=
  match result with
  | .error _ => return (some false, ⟨engine, 0, true⟩)
  | .ok { controller := .character _, firstBoot := true } => do
    let waited ← engine.sync relax limit
    return if waited.done then
      (some true, { waited with state := waited.state.setBacklight true })
    else (none, waited)
  | .ok _ => return (some true, ⟨engine, 0, true⟩)

/-- Brings the display up and follows up on it. -/
def powerOn (engine : Engine) (relax : Engine → Except Defect Engine) (limit : Nat) :
    Except Defect (Option Bool × Waited Engine) := do
  let (result, engine) ← engine.bringUp
  engine.finishPowerOn result relax limit

end StatusDisplay.Engine
