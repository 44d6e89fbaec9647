/-!
# Status words

The bus master reports its state as sixteen flags. Seven of them are errors; the rest tell how far
a transaction has come.
-/

namespace StatusDisplay

/-- A word of flags read from the bus master. -/
@[ext] structure Status where
  bits : UInt16
  deriving DecidableEq, Repr, Inhabited

namespace Status

instance : OrOp Status := ⟨fun a b => ⟨a.bits ||| b.bits⟩⟩

instance : AndOp Status := ⟨fun a b => ⟨a.bits &&& b.bits⟩⟩

def none : Status := ⟨0x0000⟩

/-- A start condition is on the bus. -/
def startSent : Status := ⟨0x0001⟩

/-- A peer acknowledged its address. -/
def addressAcked : Status := ⟨0x0002⟩

/-- The last byte has left the shift register. -/
def byteTransferred : Status := ⟨0x0004⟩

/-- The data register can take a byte. -/
def dataEmpty : Status := ⟨0x0080⟩

/-- A start or stop condition stood where none belongs. -/
def busError : Status := ⟨0x0100⟩

def arbitrationLost : Status := ⟨0x0200⟩

/-- No peer acknowledged. -/
def ackFailure : Status := ⟨0x0400⟩

def overrun : Status := ⟨0x0800⟩

/-- A received checksum was wrong. -/
def checksumError : Status := ⟨0x1000⟩

/-- A peer held the clock for too long. -/
def clockTimeout : Status := ⟨0x4000⟩

def alert : Status := ⟨0x8000⟩

/-- Every error flag. -/
def errorFlags : Status :=
  busError ||| arbitrationLost ||| ackFailure ||| overrun ||| checksumError ||| clockTimeout |||
    alert

/-- Whether every flag of `flags` is set. -/
def contains (word flags : Status) : Bool := word &&& flags == flags

/-- Whether some flag of `flags` is set. -/
def intersects (word flags : Status) : Bool := word &&& flags != none

/-- Whether an error flag is set. -/
def hasErrors (word : Status) : Bool := word.intersects errorFlags

/-- The error flags that are set. -/
def errors (word : Status) : Status := word &&& errorFlags

/-- The word with the flags of `flags` removed. -/
def without (word flags : Status) : Status := ⟨word.bits &&& ~~~flags.bits⟩

theorem hasErrors_iff {word : Status} : word.hasErrors = true ↔ word.errors ≠ none := by
  simp [hasErrors, intersects, errors]

theorem hasErrors_errors (word : Status) : word.errors.hasErrors = word.hasErrors := by
  have idle : word.errors.errors = word.errors := by
    ext1
    show (word.bits &&& _) &&& _ = word.bits &&& _
    rw [UInt16.and_assoc, UInt16.and_self]
  rw [Bool.eq_iff_iff, hasErrors_iff, hasErrors_iff, idle]

theorem hasErrors_without (word : Status) : (word.without .errorFlags).hasErrors = false := by
  have gone : (word.without .errorFlags).errors = none := by
    ext1
    show (word.bits &&& ~~~errorFlags.bits) &&& errorFlags.bits = 0
    rw [UInt16.and_assoc, UInt16.and_comm (~~~errorFlags.bits), UInt16.and_not_self, UInt16.and_zero]
  rw [← Bool.not_eq_true, hasErrors_iff]
  exact not_not_intro gone

end Status

end StatusDisplay
