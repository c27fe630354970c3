import AuctionHouse.Decimal.Rounding
import AuctionHouse.Text.Digits

/-!
# Reading amounts

The plain grammar is one sign at most, digits with one point at most, and underscores anywhere
behind the first digit.  Fraction digits that no amount can hold are dropped: a first dropped digit
of five or more raises the last kept one.  Underscores right behind the last place are passed over
if the digits before that place take up a word of 64 bits, and else the first of them counts as a
dropped zero.  A text that is not of this form may be a plain amount before an `e` and an exponent
behind it.
-/

namespace AuctionHouse.Decimal

/-- A coefficient and a scale as they are read, before the sign. -/
structure Magnitude where
  coeff : Nat
  scale : Nat
  coeff_lt : coeff < limit
  scale_le : scale ≤ maxScale

/-- From here on a coefficient does not take up another digit within 64 bits, with some room to
spare. -/
def wide : Nat := twoTo 64 / 10 - 255

namespace Magnitude

/-- The amount of this magnitude. -/
def signed (m : Magnitude) (negative : Bool) : Decimal :=
  ofCoeff (withSign negative m.coeff) m.scale (by simpa using m.coeff_lt) m.scale_le

/-- The magnitude with one more unit in its last place.  If the coefficient cannot hold it, the
last place is given up; without a place there is no such magnitude. -/
def raise? (m : Magnitude) : Option Magnitude :=
  if h : m.coeff + 1 < limit then some ⟨m.coeff + 1, m.scale, h, m.scale_le⟩
  else if m.scale = 0 then none
  else some ⟨roundQuotient .awayFromZero (m.coeff + 1) 10, m.scale - 1, by
      have := roundQuotient_le_succ .awayFromZero (m.coeff + 1) 10
      have := m.coeff_lt
      simp only [limit_eq] at *
      omega, Nat.le_trans (Nat.sub_le ..) m.scale_le⟩

/-- What becomes of a magnitude when `dropped` is the first digit that it cannot take up and
`rest` the text behind: the rest must still be digits. -/
def settle? (m : Magnitude) (dropped : Nat) (rest : List Char) : Option Magnitude :=
  if rest.all fun c => c.isDigit || c == '_' then
    if 5 ≤ dropped then m.raise? else some m
  else
    none

/-- What becomes of a magnitude that has all its places, with the text behind them. -/
def settleFull? (m : Magnitude) : List Char → Option Magnitude
  | [] => some m
  | '_' :: rest =>
    if wide ≤ m.coeff / 10 then
      match rest.dropWhile (· = '_') with
      | [] => some m
      | c :: rest => if c.isDigit then m.settle? (Digits.value [c]) rest else none
    else m.settle? 0 rest
  | c :: rest => if c.isDigit then m.settle? (Digits.value [c]) rest else none

/-- Reads digits onto a magnitude.  `started` says whether there was a digit before, `pointed`
whether there was a point; behind the point the scale grows, and a digit that does not fit ends
the reading. -/
def read? (m : Magnitude) (started pointed : Bool) : List Char → Option Magnitude
  | [] => if started then some m else none
  | c :: rest =>
    if full : pointed ∧ m.scale = maxScale then m.settleFull? (c :: rest)
    else if c.isDigit then
      let digit := Digits.value [c]
      let scale := if pointed then m.scale + 1 else m.scale
      if h : 10 * m.coeff + digit < limit then
        read? ⟨10 * m.coeff + digit, scale, h, by
          have := m.scale_le
          simp only [maxScale] at *
          grind⟩ true pointed rest
      else if pointed then m.settle? digit rest
      else none
    else if c = '.' ∧ ¬ pointed then read? m started true rest
    else if c = '_' ∧ started then read? m started pointed rest
    else none

end Magnitude

/-- Reads an amount in plain form. -/
def plain? (text : List Char) : Option Decimal :=
  let start : Magnitude := ⟨0, 0, Nat.le_of_ble_eq_true rfl, Nat.zero_le _⟩
  match text with
  | '-' :: rest => (start.read? false false rest).map fun m => m.signed true
  | '+' :: rest => (start.read? false false rest).map fun m => m.signed false
  | rest => (start.read? false false rest).map fun m => m.signed false

/-- The amount a power of ten smaller.  Digits beyond the last place are cut off first. -/
def shiftDown? (amount : Decimal) (power : Nat) : Option Decimal :=
  let left := amount.cut (maxScale - power)
  if h : left.scale + power ≤ maxScale then
    some { left with scale := left.scale + power, scale_le := h }
  else
    none

/-- The amount a power of ten larger: the point moves as far as there are digits behind it, and
zeros are put before it only if it moves further. -/
def shiftUp? (amount : Decimal) (power : Nat) : Option Decimal :=
  if power ≤ amount.scale then
    some { amount with
      scale := amount.scale - power
      scale_le := Nat.le_trans (Nat.sub_le ..) amount.scale_le }
  else if power ≤ maxScale then ofInt? (amount.coeff * tenTo (power - amount.scale))
  else none

/-- Reads an amount with an exponent.  A plus sign may stand before the digits of the exponent, even
behind a minus sign. -/
def scientific? (text : List Char) : Option Decimal := do
  let isMark := fun c => c == 'e' || c == 'E'
  let base := text.takeWhile fun c => !isMark c
  match text.drop base.length with
  | [] => none
  | _ :: '-' :: exponent => (← plain? base).shiftDown? (← Digits.unsigned? exponent)
  | _ :: exponent => (← plain? base).shiftUp? (← Digits.unsigned? exponent)

/-- Reads an amount in either form. -/
def ofChars? (text : List Char) : Option Decimal :=
  plain? text <|> scientific? text

/-- Reads an amount in either form. -/
def ofText? (text : String) : Option Decimal :=
  ofChars? text.toList

end AuctionHouse.Decimal
