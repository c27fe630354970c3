import AuctionHouse.Decimal.Arithmetic
import AuctionHouse.Decimal.Quotient
import AuctionHouse.Text.Digits

/-!
# Money

Amounts are settled in cents, a half going away from zero.  For people they are written with two
fraction digits and the digits before the point in groups of three.  An item without a step of its
own takes one from a ladder by price.
-/

namespace AuctionHouse

/-- The amount in whole cents (`round_cents`). -/
def Decimal.roundCents (amount : Decimal) : Decimal := amount.round 2

/-- The part of an amount that a percentage makes, `percent / 100` of it (`percent_of`). -/
def Decimal.percentOf (amount percent : Decimal) : Except Fault Decimal := do
  (← amount.mul percent).divInt 100

namespace Money

/-- The magnitude of an amount of at most two fraction digits, in cents. -/
def cents (amount : Decimal) : Nat :=
  amount.magnitude * tenTo (2 - amount.scale)

/-- Characters in threes. -/
def threes : List Char → List (List Char)
  | a :: b :: c :: rest => [a, b, c] :: threes rest
  | [] => []
  | rest => [rest]

/-- Digits in groups of three from the right. -/
def groups (digits : List Char) : List (List Char) :=
  let first := digits.length % 3
  if first = 0 then threes digits else digits.take first :: threes (digits.drop first)

/-- An amount in whole cents with `point` before the cents and `comma` between the groups
(`show_as_cents`). -/
def format (amount : Decimal) (point comma : String) : String :=
  let rounded := amount.roundCents
  let sign := if rounded.isNegative then "-" else ""
  let units := groups (Nat.toDigits 10 (cents rounded / 100))
  sign ++ comma.intercalate (units.map String.ofList) ++ point ++
    String.ofList (Digits.padded 2 (cents rounded % 100))

/-- A rung of the ladder of steps: the price that it ends below, and its step. -/
structure Rung where
  below : Decimal
  step : Decimal

/-- The steps that go with prices, the lowest first. -/
def ladder : List Rung :=
  [⟨.whole 300, .whole 25⟩, ⟨.whole 500, .whole 50⟩, ⟨.whole 2000, .whole 100⟩,
   ⟨.whole 5000, .whole 250⟩, ⟨.whole 10000, .whole 500⟩, ⟨.whole 20000, .whole 1000⟩,
   ⟨.whole 50000, .whole 2500⟩, ⟨.whole 100000, .whole 5000⟩, ⟨.whole 300000, .whole 10000⟩,
   ⟨.whole 1000000, .whole 25000⟩, ⟨.whole 2000000, .whole 50000⟩,
   ⟨.whole 3000000, .whole 100000⟩, ⟨.whole 5000000, .whole 250000⟩,
   ⟨.whole 10000000, .whole 500000⟩]

/-- The step for prices above the ladder. -/
def topStep : Decimal := .whole 1000000

/-- The step for an item of a price (`suggested_bid_step`). -/
def suggestedStep (price : Decimal) : Decimal :=
  ((ladder.find? fun rung => price < rung.below).map Rung.step).getD topStep

end Money

end AuctionHouse
