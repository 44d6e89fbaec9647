/-!
# Waiting for frames

The foreground waits until two more frames have been counted: the one in flight when the wait
begins may hold text from before the last write. The counter wraps, so the wait looks at
differences. The waiter is idle in between; what goes on meanwhile is up to a hook, and `limit` is
its patience.
-/

namespace StatusDisplay

/-- How a wait ended. -/
structure Waited (σ : Type) where
  state : σ
  /-- How often the hook ran. -/
  ticks : Nat
  /-- Whether the frames were counted; otherwise patience ran out first. -/
  done : Bool
  deriving Repr

/-- Frames that a wait has to see. -/
def framesToWait : UInt8 := 2

/-- Runs `relax` until `count` is two frames past `start`, but not more than `limit` times. -/
def waitSince {σ ε : Type} (count : σ → UInt8) (relax : σ → Except ε σ) (start : UInt8) :
    Nat → σ → Except ε (Waited σ)
  | 0, state => return ⟨state, 0, framesToWait ≤ count state - start⟩
  | limit + 1, state =>
    if framesToWait ≤ count state - start then return ⟨state, 0, true⟩
    else do
      let rest ← waitSince count relax start limit (← relax state)
      return { rest with ticks := rest.ticks + 1 }

/-- Waits for two frames from now on. -/
def waitForFrames {σ ε : Type} (count : σ → UInt8) (relax : σ → Except ε σ) (limit : Nat)
    (state : σ) : Except ε (Waited σ) :=
  waitSince count relax (count state) limit state

end StatusDisplay
