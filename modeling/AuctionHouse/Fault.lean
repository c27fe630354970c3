/-!
# Faults

An operation stops with a fault when its arithmetic has no answer: an amount that no decimal
holds, a quotient by zero, a moment outside the calendar, a round after the last.  A fault is no
refusal of the house; it ends the call at the step that met it, and what the call had written before
stays written.  Sums of fixed width are checked, so they fault where others would wrap around.
-/

namespace AuctionHouse

/-- The ways in which arithmetic on amounts, moments and rounds has no answer. -/
inductive Fault where
  | sumTooLarge
  | differenceTooLarge
  | productTooLarge
  | divisionByZero
  | durationOutOfRange
  | momentOutOfRange
  | roundTooLarge
deriving DecidableEq, Repr

namespace Fault

/-- What is reported of a fault. -/
def message : Fault → String
  | sumTooLarge => "Addition overflowed"
  | differenceTooLarge => "Subtraction overflowed"
  | productTooLarge => "Multiplication overflowed"
  | divisionByZero => "Division by zero"
  | durationOutOfRange => "TimeDelta::seconds out of bounds"
  | momentOutOfRange => "`DateTime + TimeDelta` overflowed"
  | roundTooLarge => "attempt to add with overflow"

end Fault

end AuctionHouse
