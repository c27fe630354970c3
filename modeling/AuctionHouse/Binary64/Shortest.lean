import AuctionHouse.Binary64.Basic
import AuctionHouse.Text.Digits

/-!
# Shortest decimal form

The decimal of a finite number is the one of fewest digits that rounds back to it, and of those the
nearest to it; if two are equally near, the format says which.  A number is the nearest one to every
value of an interval around it that reaches half-way to its neighbours; the search goes from coarse
powers of ten to fine ones and stops at the first whose grid has a point in the interval.
-/

namespace AuctionHouse.Binary64

/-- The values that round to a number: those between `low / den` and `high / den`, with the ends
or without.  `mid / den` is the number itself. -/
structure Interval where
  low : Nat
  mid : Nat
  high : Nat
  den : Nat
  closed : Bool

/-- The interval of a finite number other than zero.  Below a power of two the neighbour is only
half as far away. -/
def interval (significand : Nat) (exponent : Int) : Interval :=
  let below := if significand = twoTo 52 ∧ leastExponent < exponent then 1 else 2
  let (unit, den) := timesPowerOfTwo 1 4 exponent
  { low := (4 * significand - below) * unit
    mid := 4 * significand * unit
    high := (4 * significand + 2) * unit
    den
    closed := significand % 2 = 0 }

namespace Interval

/-- Whether `digits * 10 ^ power` lies in the interval. -/
def contains (i : Interval) (digits : Nat) (power : Int) : Bool :=
  let (point, scale) := if power < 0 then (digits * i.den, tenTo power.natAbs)
    else (digits * tenTo power.natAbs * i.den, 1)
  if i.closed then i.low * scale ≤ point && point ≤ i.high * scale
  else i.low * scale < point && point < i.high * scale

/-- The point of a grid that lies in the interval nearest to its middle, if there is one.  Only
the two points around the middle need a look. -/
def onGrid? (tie : Tie) (i : Interval) (power : Int) : Option Nat :=
  let (num, den) := if power < 0 then (i.mid * tenTo power.natAbs, i.den)
    else (i.mid, i.den * tenTo power.natAbs)
  let below := num / den
  match i.contains below power, i.contains (below + 1) power with
  | true, true => some (roundQuotient tie num den)
  | true, false => some below
  | false, true => some (below + 1)
  | false, false => none

/-- The first of `fuel` grids, from `power` downwards, that has a point in the interval. -/
def search (tie : Tie) (i : Interval) : (fuel : Nat) → (power : Int) → Nat × Int
  | 0, power => ((i.onGrid? tie power).getD 0, power)
  | fuel + 1, power =>
    match i.onGrid? tie power with
    | some digits => (digits, power)
    | none => search tie i fuel (power - 1)

end Interval

/-- The digits and the power of ten of the shortest decimal of a finite number. -/
def shortest (tie : Tie) (significand : Nat) (exponent : Int) : Nat × Int :=
  if significand = 0 then (0, 0)
  else
    let i := interval significand exponent
    let places (n : Nat) : Int := (Nat.toDigits 10 n).length
    i.search tie 20 (places i.mid - places i.den + 1)

/-- `digits * 10 ^ power` without an exponent. -/
def positional (digits : Nat) (power : Int) : List Char :=
  if 0 ≤ power then
    if digits = 0 then ['0'] else Nat.toDigits 10 digits ++ List.replicate power.natAbs '0'
  else
    let all := Digits.padded (power.natAbs + 1) digits
    all.take (all.length - power.natAbs) ++ '.' :: all.drop (all.length - power.natAbs)

/-- `digits * 10 ^ power` as data formats write it: with a fraction where the point falls at most
five places before or sixteen behind the first digit, and with an exponent elsewhere. -/
def withExponent (digits : Nat) (power : Int) : List Char :=
  if digits = 0 then "0.0".toList
  else
    let written := Nat.toDigits 10 digits
    let point := written.length + power
    if 0 ≤ power ∧ point ≤ 16 then positional digits power ++ ['.', '0']
    else if -5 < point ∧ point ≤ 16 then positional digits power
    else
      let mantissa := match written with
        | [single] => [single]
        | first :: rest => first :: '.' :: rest
        | [] => []
      mantissa ++ 'e' :: (if point < 1 then '-' else '+') ::
        Nat.toDigits 10 (point - 1).natAbs

/-- How a format writes numbers: which of two equally near decimals it takes, and how it writes the
digits of a decimal and its power of ten. -/
structure Style where
  tie : Tie
  layout : Nat → Int → List Char

namespace Style

/-- Numbers as amounts are read from: without an exponent, and with the larger of two decimals. -/
def amount : Style := ⟨.awayFromZero, positional⟩

/-- Numbers as data carry them: with an exponent where they are very large or small, and with the
even one of two decimals. -/
def data : Style := ⟨.toEven, withExponent⟩

end Style

/-- The number as a decimal in a style. -/
def render (style : Style) : Binary64 → List Char
  | finite negative significand exponent =>
    let (digits, power) := shortest style.tie significand exponent
    (if negative then ['-'] else []) ++ style.layout digits power
  | infinite negative => if negative then "-inf".toList else "inf".toList
  | nan => "NaN".toList

end AuctionHouse.Binary64
