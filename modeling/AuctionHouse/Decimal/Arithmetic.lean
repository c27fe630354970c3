import AuctionHouse.Decimal.Rounding

/-!
# Arithmetic on amounts

Sums, differences and products are exact as long as a coefficient holds them.  One that needs more
than 96 bits loses fraction digits, the last kept one rounded to even, and is a fault if it does
not fit without a fraction.  The scale of a result is part of it: a sum has the larger of the two
scales, a product has their sum, and a summand of value zero leaves the other one as it is.
-/

namespace AuctionHouse.Decimal

/-- The exact sum of two amounts over the larger of their scales, cut to what a coefficient
holds. -/
def sum? (a b : Decimal) : Option Decimal :=
  if a.coeff = 0 then some b
  else if b.coeff = 0 then some a
  else
    let scale := max a.scale b.scale
    nearest? (a.coeff * tenTo (scale - a.scale) + b.coeff * tenTo (scale - b.scale)) (tenTo scale)
      scale (Nat.max_le.2 ⟨a.scale_le, b.scale_le⟩)

/-- The sum of two amounts. -/
def add (a b : Decimal) : Except Fault Decimal :=
  (sum? a b).elim (.error .sumTooLarge) .ok

/-- The difference of two amounts. -/
def sub (a b : Decimal) : Except Fault Decimal :=
  (sum? a b.neg).elim (.error .differenceTooLarge) .ok

/-- The product of two amounts.  Zero times anything is zero at scale zero. -/
def mul (a b : Decimal) : Except Fault Decimal :=
  if a.coeff = 0 ∨ b.coeff = 0 then .ok zero
  else
    let scale := a.scale + b.scale
    (nearest? (a.coeff * b.coeff) (tenTo scale) (min scale maxScale) (Nat.min_le_right ..)).elim
      (.error .productTooLarge) .ok

end AuctionHouse.Decimal
