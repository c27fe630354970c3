import AuctionHouse.Decimal.Basic
import AuctionHouse.Text.Digits

/-!
# Amounts in text

The plain form of an amount: a minus sign if it has one, the digits before the point without
superfluous zeros, and exactly `scale` digits behind it.
-/

namespace AuctionHouse.Decimal

/-- The digits of a magnitude with a point before the last `scale` of them. -/
def pointed (magnitude scale : Nat) : List Char :=
  let digits := Digits.padded (scale + 1) magnitude
  let before := digits.take (digits.length - scale)
  if scale = 0 then before else before ++ '.' :: digits.drop (digits.length - scale)

/-- The characters of the plain form. -/
def chars (amount : Decimal) : List Char :=
  (if amount.negative then ['-'] else []) ++ pointed amount.magnitude amount.scale

/-- The plain form. -/
def text (amount : Decimal) : String :=
  String.ofList amount.chars

instance : ToString Decimal := ⟨text⟩

end AuctionHouse.Decimal
