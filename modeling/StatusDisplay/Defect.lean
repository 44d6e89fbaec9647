/-!
# Defects

A defect is a broken rule of the driver itself, not a condition of the hardware: an index outside
a table, or a wire payload that outgrows its buffer. Nothing recovers from one; the operation that
meets it stops there.
-/

namespace StatusDisplay

/-- The ways in which the driver can break its own rules. -/
inductive Defect where
  /-- A table of `length` entries was asked for entry `index`. -/
  | outOfBounds (length index : Nat)
  /-- An append would take a payload past its capacity. -/
  | payloadOverflow
  deriving DecidableEq, Repr

/-- The diagnostic text of a defect. -/
def Defect.message : Defect → String
  | .outOfBounds length index =>
    "index out of bounds: the len is " ++ length.repr ++ " but the index is " ++ index.repr
  | .payloadOverflow => "transfer buffer overflow"

end StatusDisplay
