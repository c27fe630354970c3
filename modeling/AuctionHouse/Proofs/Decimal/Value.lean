import AuctionHouse.Decimal.Arithmetic
import Mathlib.Algebra.Order.Field.Basic
import Mathlib.Algebra.Order.Field.Rat
import Mathlib.Tactic.FieldSimp
import Mathlib.Tactic.Linarith
import Mathlib.Tactic.Ring

/-!
# The value of an amount

The rational number that an amount stands for.  Amounts are compared by their values
(`le_iff_value_le`, `lt_iff_value_lt`), so that all questions of order are settled over the
rationals.  Two amounts can have one value, so the order of amounts is a preorder.
-/

namespace AuctionHouse

theorem tenTo_cast_pos (places : Nat) : (0 : ℚ) < tenTo places := by
  exact_mod_cast tenTo_pos places

namespace Decimal

/-- The number `coeff / 10 ^ scale`. -/
def value (amount : Decimal) : ℚ := amount.coeff / tenTo amount.scale

theorem alignedWith_cast (a b : Decimal) :
    (a.alignedWith b : ℚ) = a.value * (tenTo a.scale * tenTo b.scale) := by
  have := (tenTo_cast_pos a.scale).ne'
  rw [alignedWith, value]
  push_cast
  field_simp

theorem lt_iff_value_lt {a b : Decimal} : a < b ↔ a.value < b.value := by
  have pos := mul_pos (tenTo_cast_pos a.scale) (tenTo_cast_pos b.scale)
  rw [lt_def, ← Int.cast_lt (R := ℚ), alignedWith_cast, alignedWith_cast b,
    mul_comm (tenTo b.scale : ℚ)]
  exact mul_lt_mul_iff_left₀ pos

theorem le_iff_value_le {a b : Decimal} : a ≤ b ↔ a.value ≤ b.value := by
  rw [← not_lt, lt_iff_value_lt, Rat.not_lt]

theorem sameValue_iff_value_eq {a b : Decimal} : a.SameValue b ↔ a.value = b.value := by
  rw [Rat.le_antisymm_iff, ← le_iff_value_le, ← le_iff_value_le, SameValue, le_def, le_def]
  exact Int.le_antisymm_iff

instance : Preorder Decimal where
  le_refl := le_refl
  le_trans a b c := by
    simp only [le_iff_value_le]
    exact Rat.le_trans
  lt_iff_le_not_ge a b := by
    simp only [le_iff_value_le, lt_iff_value_lt]
    exact Rat.lt_iff_le_not_ge _ _

theorem min_of_le {a b : Decimal} (h : a ≤ b) : min a b = a := if_neg (not_lt.2 h)

theorem min_of_lt {a b : Decimal} (h : b < a) : min a b = b := if_pos h

theorem max_of_le {a b : Decimal} (h : b ≤ a) : max a b = a := if_neg (not_lt.2 h)

theorem max_of_lt {a b : Decimal} (h : a < b) : max a b = b := if_pos h

/-- Amounts of different values are in order. -/
theorem lt_or_lt_of_differ {a b : Decimal} (differ : ¬ a.SameValue b) : a < b ∨ b < a := by
  rw [sameValue_iff_value_eq] at differ
  rw [lt_iff_value_lt, lt_iff_value_lt]
  exact lt_or_gt_of_ne differ

/-- Of amounts of one value the first is the smaller one, so that their order counts. -/
theorem min_comm_of_differ {a b : Decimal} (differ : ¬ a.SameValue b) : min a b = min b a := by
  rcases lt_or_lt_of_differ differ with less | more
  · rw [min_of_le (le_of_lt less), min_of_lt less]
  · rw [min_of_lt more, min_of_le (le_of_lt more)]

theorem max_comm_of_differ {a b : Decimal} (differ : ¬ a.SameValue b) : max a b = max b a := by
  rcases lt_or_lt_of_differ differ with less | more
  · rw [max_of_lt less, max_of_le (le_of_lt less)]
  · rw [max_of_le (le_of_lt more), max_of_lt more]

/-- The three-way comparison is that of the values. -/
theorem compare_eq_compare_value (a b : Decimal) : compare a b = compare a.value b.value := by
  rcases lt_trichotomy a.value b.value with below | same | above
  · rw [compare_lt_iff_lt.2 below]
    exact compare_lt_iff_lt.2 (lt_def.1 (lt_iff_value_lt.2 below))
  · rw [compare_eq_iff_eq.2 same]
    exact compare_eq_iff_eq.2 (sameValue_iff_value_eq.2 same)
  · rw [compare_gt_iff_gt.2 above]
    exact compare_gt_iff_gt.2 (lt_def.1 (lt_iff_value_lt.2 above))

@[simp] theorem value_max (a b : Decimal) : (max a b).value = max a.value b.value := by
  rw [max_def]
  split
  · next h => exact (max_eq_right (lt_iff_value_lt.1 h).le).symm
  · next h => exact (max_eq_left (le_iff_value_le.1 (not_lt.1 h))).symm

@[simp] theorem value_min (a b : Decimal) : (min a b).value = min a.value b.value := by
  rw [min_def]
  split
  · next h => exact (min_eq_right (lt_iff_value_lt.1 h).le).symm
  · next h => exact (min_eq_left (le_iff_value_le.1 (not_lt.1 h))).symm

protected theorem le_max_left (a b : Decimal) : a ≤ max a b := by
  rw [le_iff_value_le, value_max]
  exact le_max_left _ _

protected theorem le_max_right (a b : Decimal) : b ≤ max a b := by
  rw [le_iff_value_le, value_max]
  exact le_max_right _ _

protected theorem max_le {a b bound : Decimal} (ha : a ≤ bound) (hb : b ≤ bound) :
    max a b ≤ bound := by
  rw [le_iff_value_le] at *
  rw [value_max]
  exact max_le ha hb

protected theorem min_le_left (a b : Decimal) : min a b ≤ a := by
  rw [le_iff_value_le, value_min]
  exact min_le_left _ _

protected theorem min_le_right (a b : Decimal) : min a b ≤ b := by
  rw [le_iff_value_le, value_min]
  exact min_le_right _ _

protected theorem le_min {a b bound : Decimal} (ha : bound ≤ a) (hb : bound ≤ b) :
    bound ≤ min a b := by
  rw [le_iff_value_le] at *
  rw [value_min]
  exact le_min ha hb

@[simp] theorem value_neg (amount : Decimal) : amount.neg.value = -amount.value := by
  have scale_eq : amount.neg.scale = amount.scale := by
    unfold neg
    split <;> rfl
  rw [value, value, coeff_neg, scale_eq]
  push_cast
  ring

theorem value_ofCoeff {coeff : Int} {scale : Nat} (fits : coeff.natAbs < limit)
    (le : scale ≤ maxScale) : (ofCoeff coeff scale fits le).value = coeff / tenTo scale := by
  rw [value, coeff_ofCoeff, scale_ofCoeff]

theorem value_of_coeff_eq_zero {amount : Decimal} (zero : amount.coeff = 0) :
    amount.value = 0 := by
  rw [value, zero, Int.cast_zero, zero_div]

@[simp] theorem value_zero : zero.value = 0 := value_of_coeff_eq_zero rfl

theorem value_whole (number : Nat) (h : fits number 0 = true) :
    (whole number h).value = number := by
  have coeff_eq : (whole number h).coeff = number := rfl
  have scale_eq : (whole number h).scale = 0 := rfl
  rw [value, coeff_eq, scale_eq, tenTo_zero, Int.cast_natCast, Nat.cast_one, div_one]

theorem value_one : one.value = 1 := (value_whole 1 _).trans Nat.cast_one

theorem value_hundred : hundred.value = 100 := value_whole 100 _

/-- The magnitude over the power of ten is the value without its sign. -/
theorem abs_value (amount : Decimal) : |amount.value| = amount.magnitude / tenTo amount.scale := by
  rw [value, abs_div, abs_of_pos (tenTo_cast_pos _), ← Int.cast_abs, Int.abs_eq_natAbs,
    natAbs_coeff, Int.cast_natCast]

end Decimal

end AuctionHouse
