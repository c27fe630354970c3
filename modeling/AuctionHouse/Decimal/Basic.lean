import AuctionHouse.Power
import AuctionHouse.Fault

/-!
# Decimal amounts

An amount is a sign and a magnitude below 2^96 over a power of ten of at most 28.  The power, its
*scale*, belongs to the amount: `5`, `5.0` and `5.00` are three amounts of one value.  So does the
sign of a zero, which an amount may keep that is cut down to nothing.  Comparison looks at the value
only, that is at the signed magnitude over the power of ten.
-/

namespace AuctionHouse

/-- The least magnitude that is too large for a coefficient. -/
def Decimal.limit : Nat := twoTo 96

theorem Decimal.limit_eq : Decimal.limit = 79228162514264337593543950336 := by decide

/-- The largest scale. -/
def Decimal.maxScale : Nat := 28

/-- The number `magnitude / 10 ^ scale`, or its opposite. -/
structure Decimal where
  negative : Bool
  magnitude : Nat
  scale : Nat
  magnitude_lt : magnitude < Decimal.limit
  scale_le : scale ≤ Decimal.maxScale
deriving DecidableEq

namespace Decimal

/-- The magnitude with a sign before it. -/
def withSign (negative : Bool) (magnitude : Nat) : Int :=
  if negative then -(magnitude : Int) else magnitude

@[simp] theorem natAbs_withSign (negative : Bool) (magnitude : Nat) :
    (withSign negative magnitude).natAbs = magnitude := by
  cases negative <;> simp [withSign]

/-- The coefficient: the whole number that the amount is over its power of ten.  It is the same for
both signs of zero. -/
def coeff (amount : Decimal) : Int := withSign amount.negative amount.magnitude

@[simp] theorem natAbs_coeff (amount : Decimal) : amount.coeff.natAbs = amount.magnitude :=
  natAbs_withSign ..

theorem coeff_lt (amount : Decimal) : amount.coeff.natAbs < limit := by
  simpa using amount.magnitude_lt

/-- The amount `coeff / 10 ^ scale`.  Zero gets no minus sign. -/
def ofCoeff (coeff : Int) (scale : Nat) (coeff_lt : coeff.natAbs < limit)
    (scale_le : scale ≤ maxScale) : Decimal :=
  ⟨coeff < 0, coeff.natAbs, scale, coeff_lt, scale_le⟩

@[simp] theorem coeff_ofCoeff {coeff : Int} {scale : Nat} (coeff_lt : coeff.natAbs < limit)
    (scale_le : scale ≤ maxScale) : (ofCoeff coeff scale coeff_lt scale_le).coeff = coeff := by
  simp only [ofCoeff, Decimal.coeff, withSign, decide_eq_true_eq]
  omega

@[simp] theorem scale_ofCoeff {coeff : Int} {scale : Nat} (coeff_lt : coeff.natAbs < limit)
    (scale_le : scale ≤ maxScale) : (ofCoeff coeff scale coeff_lt scale_le).scale = scale :=
  rfl

/-- Whether an amount may have a magnitude and a scale. -/
def fits (magnitude scale : Nat) : Bool := Nat.blt magnitude limit && Nat.ble scale maxScale

/-- The amount `magnitude / 10 ^ scale`. -/
def ofParts (magnitude scale : Nat)
    (h : fits magnitude scale = true := by exact Eq.refl true) : Decimal :=
  have both := Bool.and_eq_true_iff.1 h
  ⟨false, magnitude, scale, Nat.le_of_ble_eq_true both.1, Nat.le_of_ble_eq_true both.2⟩

/-- A natural number at scale zero. -/
def whole (number : Nat) (h : fits number 0 = true := by exact Eq.refl true) : Decimal :=
  ofParts number 0 h

/-- An integer at scale zero, if it fits. -/
def ofInt? (number : Int) : Option Decimal :=
  if h : number.natAbs < limit then some (ofCoeff number 0 h (Nat.zero_le _)) else none

/-- The amount of nothing. -/
def zero : Decimal := whole 0

/-- One unit. -/
def one : Decimal := whole 1

/-- A hundred units. -/
def hundred : Decimal := whole 100

instance : Inhabited Decimal := ⟨zero⟩

/-- The coefficient that the amount would have over the sum of its own and `other`'s scale. -/
def alignedWith (amount other : Decimal) : Int :=
  amount.coeff * tenTo other.scale

/-- The order of values: both sides are brought over one power of ten. -/
instance : LT Decimal := ⟨fun a b => a.alignedWith b < b.alignedWith a⟩

instance : LE Decimal := ⟨fun a b => a.alignedWith b ≤ b.alignedWith a⟩

theorem lt_def {a b : Decimal} : a < b ↔ a.alignedWith b < b.alignedWith a := Iff.rfl

theorem le_def {a b : Decimal} : a ≤ b ↔ a.alignedWith b ≤ b.alignedWith a := Iff.rfl

instance (a b : Decimal) : Decidable (a < b) :=
  inferInstanceAs (Decidable (a.alignedWith b < b.alignedWith a))

instance (a b : Decimal) : Decidable (a ≤ b) :=
  inferInstanceAs (Decidable (a.alignedWith b ≤ b.alignedWith a))

/-- Two amounts of one value, whatever their scales. -/
def SameValue (a b : Decimal) : Prop := a.alignedWith b = b.alignedWith a

instance (a b : Decimal) : Decidable (a.SameValue b) :=
  inferInstanceAs (Decidable (a.alignedWith b = b.alignedWith a))

/-- The order of values as a three-way comparison. -/
instance : Ord Decimal := ⟨fun a b => compare (a.alignedWith b) (b.alignedWith a)⟩

/-- The larger of two amounts, the first of them where their values agree. -/
instance : Max Decimal := ⟨fun a b => if a < b then b else a⟩

/-- The smaller of two amounts, the first of them where their values agree. -/
instance : Min Decimal := ⟨fun a b => if b < a then b else a⟩

theorem max_def (a b : Decimal) : max a b = if a < b then b else a := rfl

theorem min_def (a b : Decimal) : min a b = if b < a then b else a := rfl

theorem lt_irrefl (a : Decimal) : ¬ a < a := Int.lt_irrefl _

theorem le_refl (a : Decimal) : a ≤ a := Int.le_refl _

theorem not_lt {a b : Decimal} : ¬ a < b ↔ b ≤ a := Int.not_lt

theorem not_le {a b : Decimal} : ¬ a ≤ b ↔ b < a := Int.not_le

theorem le_total (a b : Decimal) : a ≤ b ∨ b ≤ a := Int.le_total _ _

theorem le_of_lt {a b : Decimal} (h : a < b) : a ≤ b := Int.le_of_lt h

/-- The amount with the other sign.  A zero keeps its own. -/
def neg (amount : Decimal) : Decimal :=
  if amount.magnitude = 0 then amount else { amount with negative := !amount.negative }

@[simp] theorem coeff_neg (amount : Decimal) : amount.neg.coeff = -amount.coeff := by
  unfold neg
  split
  · next h => cases amount.negative <;> simp [coeff, withSign, h]
  · cases h : amount.negative <;> simp [coeff, withSign, h]

/-- The amount without a minus sign. -/
def unsigned (amount : Decimal) : Decimal := { amount with negative := false }

/-- Whether the value is below zero. -/
def isNegative (amount : Decimal) : Bool := amount.coeff < 0

end Decimal

end AuctionHouse
