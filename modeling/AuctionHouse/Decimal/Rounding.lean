import AuctionHouse.Decimal.Basic

/-!
# Rounding

`roundQuotient` rounds a quotient of naturals to the nearest natural.  Everything that drops
digits of an amount goes through it: `cut` and `round` leave an amount a number of places, `nearest`
finds the finest scale at which a quotient fits a coefficient, `normalize` takes away zeros that
say nothing.
-/

namespace AuctionHouse

/-- Which neighbour a quotient that lies half-way between two goes to. -/
inductive Tie where
  | toEven
  | awayFromZero
deriving DecidableEq, Repr

/-- The natural number nearest to `num / den`. -/
def roundQuotient (tie : Tie) (num den : Nat) : Nat :=
  let quotient := num / den
  let twice := 2 * (num % den)
  if twice < den then quotient
  else if den < twice then quotient + 1
  else match tie with
    | .toEven => if quotient % 2 = 0 then quotient else quotient + 1
    | .awayFromZero => quotient + 1

theorem roundQuotient_le_succ (tie : Tie) (num den : Nat) :
    roundQuotient tie num den ≤ num / den + 1 := by
  unfold roundQuotient
  grind

theorem div_le_roundQuotient (tie : Tie) (num den : Nat) :
    num / den ≤ roundQuotient tie num den := by
  unfold roundQuotient
  grind

/-- Dividing by two or more does not round up past the dividend. -/
theorem roundQuotient_le (tie : Tie) {num den : Nat} (h : 2 ≤ den) :
    roundQuotient tie num den ≤ num := by
  by_cases small : num < den
  · unfold roundQuotient
    simp only [Nat.div_eq_of_lt small, Nat.mod_eq_of_lt small]
    cases tie <;> grind
  · have bound := roundQuotient_le_succ tie num den
    have key : num / den * 2 ≤ num :=
      Nat.le_trans (Nat.mul_le_mul_left _ h) (Nat.div_mul_le_self num den)
    have pos : 1 ≤ num / den := (Nat.one_le_div_iff (by omega)).2 (by omega)
    omega

/-- Dividing by one or more does not round up past the dividend. -/
theorem roundQuotient_le_self (tie : Tie) {num den : Nat} (h : 0 < den) :
    roundQuotient tie num den ≤ num := by
  rcases Nat.lt_or_ge 1 den with big | small
  · exact roundQuotient_le tie big
  · obtain rfl : den = 1 := by omega
    simp [roundQuotient, Nat.mod_one]

namespace Decimal

/-- The amount with at most `places` fraction digits, a half going away from zero.  It keeps its
sign even if nothing is left of it.  An amount that has no more digits stays as it is. -/
def cut (places : Nat) (amount : Decimal) : Decimal :=
  if h : places < amount.scale then
    { negative := amount.negative
      magnitude := roundQuotient .awayFromZero amount.magnitude (tenTo (amount.scale - places))
      scale := places
      magnitude_lt := by
        refine Nat.lt_of_le_of_lt (roundQuotient_le _ ?_) amount.magnitude_lt
        calc 2 ≤ tenTo 1 := by decide
          _ ≤ tenTo (amount.scale - places) := tenTo_le_tenTo (by omega)
      scale_le := Nat.le_of_lt (Nat.lt_of_lt_of_le h amount.scale_le) }
  else amount

/-- The amount with at most `places` fraction digits, a half going away from zero.  An amount that
becomes zero loses its sign, a zero keeps it. -/
def round (places : Nat) (amount : Decimal) : Decimal :=
  let rounded := amount.cut places
  if amount.magnitude ≠ 0 ∧ rounded.magnitude = 0 then rounded.unsigned else rounded

theorem cut_of_scale_le {places : Nat} {amount : Decimal} (h : amount.scale ≤ places) :
    amount.cut places = amount := by
  simp [cut, Nat.not_lt.2 h]

theorem round_of_scale_le {places : Nat} {amount : Decimal} (h : amount.scale ≤ places) :
    amount.round places = amount := by
  unfold round
  rw [cut_of_scale_le h]
  grind

/-- The amount nearest to `num / den` whose scale is the largest, from `top` downwards, at which
the coefficient fits; a half goes to the even neighbour.  Without a fraction it must fit. -/
def nearest (num : Int) (den : Nat) (fits : roundQuotient .toEven num.natAbs den < limit) :
    (top : Nat) → top ≤ maxScale → Decimal
  | 0, h =>
    ofCoeff (withSign (num < 0) (roundQuotient .toEven num.natAbs den)) 0 (by simpa using fits) h
  | below + 1, h =>
    let magnitude := roundQuotient .toEven (num.natAbs * tenTo (below + 1)) den
    if here : magnitude < limit then
      ofCoeff (withSign (num < 0) magnitude) (below + 1) (by rwa [natAbs_withSign]) h
    else nearest num den fits below (Nat.le_of_succ_le h)

/-- The nearest amount, or none if the value is too large even without a fraction. -/
def nearest? (num : Int) (den : Nat) (top : Nat) (h : top ≤ maxScale) : Option Decimal :=
  if fits : roundQuotient .toEven num.natAbs den < limit then some (nearest num den fits top h)
  else none

/-- The amount of the same value with the smallest scale.  Zero loses its sign. -/
def normalize (amount : Decimal) : Decimal :=
  go amount.scale amount.coeff amount.coeff_lt amount.scale_le
where
  /-- Takes away the last digit as long as it is a zero behind the point. -/
  go : (scale : Nat) → (coeff : Int) → coeff.natAbs < limit → scale ≤ maxScale → Decimal
    | 0, coeff, fits, le => ofCoeff coeff 0 fits le
    | scale + 1, coeff, fits, le =>
      if coeff % 10 = 0 then
        go scale (coeff / 10) (by omega) (Nat.le_of_succ_le le)
      else
        ofCoeff coeff (scale + 1) fits le

end Decimal

end AuctionHouse
