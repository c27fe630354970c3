import AuctionHouse.Power

/-!
# Numbers in text

Digits of natural numbers: writing them to a least width, reading a run of them.  Only the ten ASCII
digits count, and for larger bases the letters behind them; every format of this library admits no
others.  Reading gives back what writing put down (`value_padded`).
-/

namespace AuctionHouse.Digits

/-- The number that a run of digits spells. -/
def value (digits : List Char) : Nat :=
  Nat.ofDigitChars 10 digits 0

/-- The digits of a number, no fewer than `width` of them. -/
def padded (width number : Nat) : List Char :=
  (Nat.toDigits 10 number).leftpad width '0'

/-- Reads the run of digits at the head of a text, which must not be empty. -/
def run? (text : List Char) : Option (Nat × List Char) :=
  let digits := text.takeWhile Char.isDigit
  if digits.isEmpty then none else some (value digits, text.drop digits.length)

/-- Reads at most `width` digits at the head of a text, and one at least. -/
def upTo? (width : Nat) (text : List Char) : Option (Nat × List Char) :=
  let digits := (text.take width).takeWhile Char.isDigit
  if digits.isEmpty then none else some (value digits, text.drop digits.length)

/-- Reads exactly `width` digits. -/
def exactly? (width : Nat) (text : List Char) : Option (Nat × List Char) :=
  let digits := text.take width
  if digits.length = width ∧ digits.all Char.isDigit then
    some (value digits, text.drop width)
  else
    none

/-- Reads a text that is a run of digits and nothing else. -/
def whole? (text : List Char) : Option Nat :=
  match run? text with
  | some (number, []) => some number
  | _ => none

/-- Reads digits after at most one plus sign. -/
def unsigned? : List Char → Option Nat
  | '+' :: rest => whole? rest
  | text => whole? text

/-- Reads digits after at most one sign of either kind. -/
def signed? : List Char → Option Int
  | '-' :: rest => (whole? rest).map fun n => -(n : Int)
  | text => (unsigned? text).map fun n => (n : Int)

/-- An integer with a minus sign where it is negative. -/
def integer (number : Int) : List Char :=
  if number < 0 then '-' :: Nat.toDigits 10 number.natAbs else Nat.toDigits 10 number.natAbs

/-- The value of a digit of base sixteen. -/
def hexValue? (c : Char) : Option Nat :=
  if c.isDigit then some (c.toNat - '0'.toNat)
  else if 'a' ≤ c ∧ c ≤ 'f' then some (c.toNat - 'a'.toNat + 10)
  else if 'A' ≤ c ∧ c ≤ 'F' then some (c.toNat - 'A'.toNat + 10)
  else none

/-- The number that digits of a base up to sixteen spell. -/
def valueIn? (base : Nat) (digits : List Char) : Option Nat :=
  digits.foldlM (fun sum c => do
    let digit ← hexValue? c
    if digit < base then return base * sum + digit else none) 0

theorem ofDigitChars_replicate_zero (count start : Nat) :
    Nat.ofDigitChars 10 (List.replicate count '0') start = tenTo count * start := by
  induction count generalizing start with
  | zero => simp [Nat.ofDigitChars]
  | succ count ih =>
    rw [List.replicate_succ, Nat.ofDigitChars_cons, ih, tenTo_succ]
    simp [Nat.mul_assoc, Nat.mul_left_comm]

/-- Leading zeros do not change a number. -/
theorem value_padded (width number : Nat) : value (padded width number) = number := by
  simp only [value, padded, List.leftpad, Nat.ofDigitChars_append, ofDigitChars_replicate_zero,
    Nat.mul_zero]
  exact Nat.ofDigitChars_toDigits (by decide) (by decide)

theorem isDigit_of_mem_padded {width number : Nat} {c : Char} (h : c ∈ padded width number) :
    c.isDigit = true := by
  simp only [padded, List.leftpad, List.mem_append, List.mem_replicate] at h
  rcases h with ⟨_, rfl⟩ | h
  · decide
  · exact Nat.isDigit_of_mem_toDigits (by decide) (by decide) h

theorem padded_ne_nil (width number : Nat) : padded width number ≠ [] := by
  simp [padded, List.leftpad, Nat.toDigits_ne_nil]

end AuctionHouse.Digits
