import AuctionHouse.Decimal.Rounding

/-!
# Binary floating point numbers

The numbers of the 64-bit binary interchange format: a significand below 2^53 times a power of two.
`ofRatio` rounds an exact ratio to the nearest of them, a tie going to the even significand; every
operation here is an exact one followed by that rounding.
-/

namespace AuctionHouse

/-- A floating point number.  A finite one is `significand * 2 ^ exponent`, with the largest
significand below 2^53 that the least exponent, -1074, leaves room for. -/
inductive Binary64 where
  | finite (negative : Bool) (significand : Nat) (exponent : Int)
  | infinite (negative : Bool)
  | nan
deriving DecidableEq, Repr

namespace Binary64

/-- The least exponent of a finite number. -/
def leastExponent : Int := -1074

/-- The largest exponent of a finite number. -/
def largestExponent : Int := 971

/-- Zero, which has a sign. -/
def zero (negative : Bool) : Binary64 := finite negative 0 leastExponent

/-- Whether the number is a zero of either sign. -/
def isZero : Binary64 → Bool
  | finite _ 0 _ => true
  | _ => false

/-- Whether the number has a value. -/
def isFinite : Binary64 → Bool
  | finite .. => true
  | _ => false

/-- The numerator and denominator of `num / den * 2 ^ exponent`. -/
def timesPowerOfTwo (num den : Nat) (exponent : Int) : Nat × Nat :=
  if exponent < 0 then (num, den * twoTo exponent.natAbs) else (num * twoTo exponent.natAbs, den)

/-- The number nearest to `num / den`. -/
def ofRatio (negative : Bool) (num den : Nat) : Binary64 :=
  if num = 0 then zero negative
  else
    let estimate := max leastExponent ((num.log2 : Int) - den.log2 - 53)
    let (n, d) := timesPowerOfTwo num den (-estimate)
    let exponent := if n / d < twoTo 53 then estimate else estimate + 1
    let (n, d) := timesPowerOfTwo num den (-exponent)
    let significand := roundQuotient .toEven n d
    let (significand, exponent) :=
      if significand < twoTo 53 then (significand, exponent) else (twoTo 52, exponent + 1)
    if largestExponent < exponent then infinite negative
    else finite negative significand exponent

/-- The ratio that a finite number stands for, without its sign. -/
def ratio (significand : Nat) (exponent : Int) : Nat × Nat :=
  timesPowerOfTwo significand 1 exponent

/-- The number nearest to a decimal `coeff * 10 ^ power`. -/
def ofDecimal (negative : Bool) (coeff : Nat) (power : Int) : Binary64 :=
  if power < 0 then ofRatio negative coeff (tenTo power.natAbs)
  else ofRatio negative (coeff * tenTo power.natAbs) 1

/-- The product with a power of ten that is itself rounded first. -/
def timesTen (x : Binary64) (power : Nat) : Binary64 :=
  match x, ofDecimal false 1 power with
  | finite negative s e, finite _ t f =>
    let (n, d) := ratio s e
    let (m, c) := ratio t f
    ofRatio negative (n * m) (d * c)
  | x, _ => x

/-- The quotient by a power of ten that is itself rounded first. -/
def overTen (x : Binary64) (power : Nat) : Binary64 :=
  match x, ofDecimal false 1 power with
  | finite negative s e, finite _ t f =>
    let (n, d) := ratio s e
    let (m, c) := ratio t f
    ofRatio negative (n * c) (d * m)
  | x, _ => x

end Binary64

end AuctionHouse
