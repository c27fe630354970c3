import AuctionHouse.Decimal.Rounding
import AuctionHouse.Fault

/-!
# Quotients of amounts

An amount is divided by an integer.  A quotient that comes out even keeps the scale of the amount.
For any other the digits behind it are developed nine at a time, until it comes out even or no more
of them fit, and then zeros at the end are taken away in groups.  The groups are of four, two and
one, so that some zeros may be left.
-/

namespace AuctionHouse.Decimal

/-- The amount without `count` zeros at the end of its coefficient, if there are so many behind the
point and a condition on the coefficient holds. -/
def dropZeros (count : Nat) (allowed : Int → Bool) (amount : Decimal) : Decimal :=
  if count ≤ amount.scale ∧ allowed amount.coeff ∧ amount.coeff % tenTo count = 0 then
    ofCoeff (amount.coeff / tenTo count) (amount.scale - count)
      (Nat.lt_of_le_of_lt (Int.natAbs_ediv_le_natAbs ..) amount.coeff_lt)
      (Nat.le_trans (Nat.sub_le ..) amount.scale_le)
  else amount

/-- The amount without groups of zeros at its end.  A group of eight goes, and again one, as long as
the coefficient is a multiple of 2^32. -/
def dropZeroGroups (amount : Decimal) : Decimal :=
  let eight := dropZeros 8 fun coeff => coeff % twoTo 32 = 0
  let any : Int → Bool := fun _ => true
  (eight (eight (eight amount)) |> dropZeros 4 any |> dropZeros 2 any |> dropZeros 1 any)

/-- How many more digits of the quotient of an amount are developed: a multiple of nine at which it
comes out even, or as many as there may be. -/
def furtherPlaces (amount : Decimal) (divisor : Nat) : Nat :=
  let most := maxScale - amount.scale
  (([9, 18, 27].filter (· ≤ most)).find? fun places =>
    amount.coeff * tenTo places % divisor = 0).getD most

/-- The quotient of an amount by a natural number above zero. -/
def divPos (amount : Decimal) (divisor : Nat) (pos : 0 < divisor) : Decimal :=
  if amount.coeff % divisor = 0 then
    ofCoeff (amount.coeff / divisor) amount.scale
      (Nat.lt_of_le_of_lt (Int.natAbs_ediv_le_natAbs ..) amount.coeff_lt) amount.scale_le
  else
    dropZeroGroups <| nearest amount.coeff (divisor * tenTo amount.scale)
      (Nat.lt_of_le_of_lt
        (roundQuotient_le_self _ (Nat.mul_pos pos (tenTo_pos _))) amount.coeff_lt)
      (min (amount.scale + furtherPlaces amount divisor) maxScale) (Nat.min_le_right ..)

/-- The quotient of an amount by an integer.  That of nothing is nothing, without a fraction. -/
def divInt (amount : Decimal) (divisor : Int) : Except Fault Decimal :=
  if h : divisor = 0 then .error .divisionByZero
  else if amount.coeff = 0 then .ok zero
  else
    let quotient := divPos amount divisor.natAbs (Int.natAbs_pos.2 h)
    .ok (if divisor < 0 then quotient.neg else quotient)

/-- The only fault of a quotient is that the divisor is zero. -/
theorem divInt_eq_error_iff {amount : Decimal} {divisor : Int} {fault : Fault} :
    amount.divInt divisor = .error fault ↔ divisor = 0 ∧ fault = .divisionByZero := by
  unfold divInt
  split
  · simp_all [eq_comm]
  · split <;> simp_all

end AuctionHouse.Decimal
