import AuctionHouse.Decimal.Printer
import AuctionHouse.Money

/-!
# Fee ranges

A range of the fee table: from a sale price on, a fraction of the price and a flat amount are owed.
-/

namespace AuctionHouse

/-- The fees from a sale price on. -/
structure FeeRange where
  start : Decimal
  fraction : Decimal
  flat : Decimal
deriving DecidableEq

namespace FeeRange

/-- Why a range is not acceptable. -/
inductive Flaw where
  | fractionOutside (fraction : Decimal)
  | flatNegative (flat : Decimal)
  /-- Any other reason, in words. -/
  | other (reason : String)
deriving DecidableEq

/-- What is said of a flaw. -/
def Flaw.message : Flaw → String
  | fractionOutside fraction => "fraction " ++ fraction.text ++ " is outside 0..=1"
  | flatNegative flat => "flat fee " ++ flat.text ++ " is negative"
  | other reason => reason

/-- The flaw of a range, if it has one: its fraction is not between zero and one, or its flat fee is
negative (`check_range`). -/
def flaw? (range : FeeRange) : Option Flaw :=
  if range.fraction < .zero ∨ .one < range.fraction then some (.fractionOutside range.fraction)
  else if range.flat < .zero then some (.flatNegative range.flat)
  else none

/-- The ranges of a house that has not set its own (`default_fee_ranges`). -/
def standard : List FeeRange :=
  [⟨.zero, .ofParts 3 2, .whole 15⟩,
   ⟨.whole 10000, .ofParts 25 3, .whole 50⟩,
   ⟨.whole 100000, .ofParts 2 2, .whole 100⟩]

end FeeRange

end AuctionHouse
