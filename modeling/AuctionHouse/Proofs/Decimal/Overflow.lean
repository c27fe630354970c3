import AuctionHouse.Proofs.Decimal.Sum

/-!
# Sums and products that are too large

A sum is a fault exactly if no amount is near enough to it, that is if it is half a unit below the
limit of coefficients or further out (`add_eq_error_iff`), and so is a product (`mul_eq_error_iff`).
The difference of two amounts that are not negative is never one (`exists_sub_of_nonneg`), and a
product that an amount holds with all its places is exact (`mul_of_fits`).
-/

namespace AuctionHouse

/-- A quotient is rounded to an even number or above if it is not less than half a unit below. -/
theorem even_le_roundQuotient_iff {num den half : Nat} (pos : 0 < den) :
    2 * half ≤ roundQuotient .toEven num den ↔ 4 * half * den ≤ 2 * num + den := by
  have split_num : num / den * den + num % den = num := Nat.div_add_mod' num den
  have rest_lt := Nat.mod_lt num pos
  constructor
  · intro large
    have upper := (roundQuotient_bounds .toEven num pos).1
    have scaled := Nat.mul_le_mul_right den large
    have regroup : 4 * half * den = 2 * (2 * half * den) := by ring
    omega
  · intro near
    by_contra small
    have quotient_lt : num / den < 2 * half :=
      Nat.lt_of_le_of_lt (div_le_roundQuotient .toEven num den) (Nat.lt_of_not_le small)
    -- The quotient is the odd number below, so that half a unit more is rounded up.
    have quotient_eq : num / den + 1 = 2 * half := by
      by_contra lower
      have scaled := Nat.mul_le_mul_right den (show num / den + 2 ≤ 2 * half by omega)
      have regroup : 4 * half * den = 2 * (2 * half * den) := by ring
      rw [Nat.add_mul] at scaled
      omega
    have regroup : 4 * half * den = 2 * (num / den * den) + 2 * den := by
      rw [show 4 * half = 2 * (num / den + 1) by omega]
      ring
    have half_up : den ≤ 2 * (num % den) := by omega
    apply small
    unfold roundQuotient
    simp only
    split
    · omega
    · split
      · omega
      · rw [if_neg (by omega)]
        omega

namespace Decimal

/-- Whether the sum of two amounts is half a unit below the limit of coefficients or further out. -/
def SumOverflows (a b : Decimal) : Prop := (limit - 1 / 2 : ℚ) ≤ |a.value + b.value|

variable {a b : Decimal}

theorem abs_value_le (amount : Decimal) : |amount.value| ≤ limit - 1 := by
  have lt_limit : amount.magnitude + 1 ≤ limit := amount.magnitude_lt
  have one_le : (1 : ℚ) ≤ tenTo amount.scale := by exact_mod_cast tenTo_pos amount.scale
  have magnitude_le : (amount.magnitude : ℚ) ≤ limit - 1 := by
    rw [le_sub_iff_add_le]
    exact_mod_cast lt_limit
  rw [abs_value]
  exact le_trans (div_le_self (Nat.cast_nonneg _) one_le) magnitude_le

/-- An amount by itself does not overflow. -/
theorem not_overflows_value (amount : Decimal) : ¬ (limit - 1 / 2 : ℚ) ≤ |amount.value| := by
  have := abs_value_le amount
  intro far
  linarith

/-- No amount is near enough to a quotient exactly if it is half a unit below the limit or further
out. -/
theorem nearest?_eq_none_iff {num : Int} {den top : Nat} (pos : 0 < den) (h : top ≤ maxScale) :
    nearest? num den top h = none ↔ (limit - 1 / 2 : ℚ) ≤ |(num / den : ℚ)| := by
  have den_cast_pos : (0 : ℚ) < den := by exact_mod_cast pos
  have limit_even : limit = 2 * (limit / 2) := by decide
  have abs_eq : |(num / den : ℚ)| = num.natAbs / den := by
    rw [abs_div, abs_of_pos den_cast_pos, ← Int.cast_abs, Int.abs_eq_natAbs, Int.cast_natCast]
  have far_iff : (limit - 1 / 2 : ℚ) ≤ |(num / den : ℚ)| ↔
      limit ≤ roundQuotient .toEven num.natAbs den := by
    have rounded := @even_le_roundQuotient_iff num.natAbs den (limit / 2) pos
    rw [← limit_even, show 4 * (limit / 2) = 2 * limit by omega] at rounded
    rw [abs_eq, le_div_iff₀ den_cast_pos, rounded, ← Nat.cast_le (α := ℚ)]
    push_cast
    constructor <;> intro far <;> linarith
  rw [far_iff]
  unfold nearest?
  split
  · next fits => exact iff_of_false (Option.some_ne_none _) (Nat.not_le.2 fits)
  · next large => exact iff_of_true rfl (Nat.not_lt.1 large)

theorem sum?_eq_none_iff : sum? a b = none ↔ a.SumOverflows b := by
  unfold sum? SumOverflows
  split
  · next zero =>
    rw [value_of_coeff_eq_zero zero, zero_add]
    exact iff_of_false (Option.some_ne_none b) (not_overflows_value b)
  · split
    · next zero =>
      rw [value_of_coeff_eq_zero zero, add_zero]
      exact iff_of_false (Option.some_ne_none a) (not_overflows_value a)
    · rw [← sum_eq_quotient]
      exact_mod_cast nearest?_eq_none_iff (tenTo_pos _) _

/-- The only fault of a sum is that it is too large, and it is one exactly if it overflows. -/
theorem add_eq_error_iff {fault : Fault} :
    a.add b = .error fault ↔ fault = .sumTooLarge ∧ a.SumOverflows b := by
  rw [← sum?_eq_none_iff]
  unfold add
  cases sum? a b with
  | none => exact ⟨fun h => ⟨(Except.error.inj h).symm, rfl⟩, fun h => congrArg _ h.1.symm⟩
  | some sum => exact ⟨nofun, nofun⟩

/-- Two amounts have a sum exactly if it does not overflow. -/
theorem exists_add_iff : (∃ sum, a.add b = .ok sum) ↔ ¬ a.SumOverflows b := by
  cases added : a.add b with
  | ok sum =>
    refine iff_of_true ⟨sum, rfl⟩ fun overflows => ?_
    rw [add_eq_error_iff.2 ⟨rfl, overflows⟩] at added
    cases added
  | error fault => exact iff_of_false nofun (not_not.2 (add_eq_error_iff.1 added).2)

/-- Of two amounts that are not negative, the one is taken away from the other without a fault. -/
theorem exists_sub_of_nonneg (ha : 0 ≤ a.value) (hb : 0 ≤ b.value) :
    ∃ difference, a.sub b = .ok difference := by
  cases found : sum? a b.neg with
  | some difference => exact ⟨difference, sub_eq_ok.2 found⟩
  | none =>
    have far := sum?_eq_none_iff.1 found
    have a_le := abs_value_le a
    have b_le := abs_value_le b
    rw [abs_of_nonneg ha] at a_le
    rw [abs_of_nonneg hb] at b_le
    rw [SumOverflows, value_neg] at far
    have near : |a.value + -b.value| ≤ limit - 1 := by
      rw [abs_le]
      constructor <;> linarith
    linarith

/-- The exact product as the quotient that is rounded. -/
theorem product_eq_quotient (a b : Decimal) :
    ((a.coeff * b.coeff : ℤ) / (tenTo (a.scale + b.scale) : ℕ) : ℚ) = a.value * b.value := by
  rw [value, value, tenTo_add, div_mul_div_comm]
  push_cast
  rfl

/-- A product that an amount can hold with all its places is exact. -/
theorem mul_of_fits (fits : a.magnitude * b.magnitude < limit)
    (places : a.scale + b.scale ≤ maxScale) :
    ∃ product, a.mul b = .ok product ∧ product.value = a.value * b.value := by
  unfold mul
  split
  · next zero =>
    refine ⟨Decimal.zero, rfl, ?_⟩
    rcases zero with zero | zero
    · rw [value_zero, value_of_coeff_eq_zero zero, zero_mul]
    · rw [value_zero, value_of_coeff_eq_zero zero, mul_zero]
  · have coeff_fits : (a.coeff * b.coeff).natAbs < limit := by
      rwa [Int.natAbs_mul, natAbs_coeff, natAbs_coeff]
    have rounded := Nat.lt_of_le_of_lt
      (roundQuotient_le_self .toEven (tenTo_pos (a.scale + b.scale))) coeff_fits
    simp only [nearest?, rounded, dif_pos, Option.elim]
    refine ⟨_, rfl, ?_⟩
    rw [← product_eq_quotient]
    have exact_eq := value_ofCoeff coeff_fits places
    rw [← exact_eq]
    exact value_nearest_of_exact (tenTo_pos _) rounded _
      (Nat.le_min.2 ⟨Nat.le_refl _, places⟩) exact_eq

/-- Whether the product of two amounts is half a unit below the limit of coefficients or further
out. -/
def ProductOverflows (a b : Decimal) : Prop := (limit - 1 / 2 : ℚ) ≤ |a.value * b.value|

/-- The only fault of a product is that it is too large, and it is one exactly if it overflows. -/
theorem mul_eq_error_iff {fault : Fault} :
    a.mul b = .error fault ↔ fault = .productTooLarge ∧ a.ProductOverflows b := by
  unfold mul ProductOverflows
  split
  · next zero =>
    have product_zero : a.value * b.value = 0 := by
      rcases zero with zero | zero
      · rw [value_of_coeff_eq_zero zero, zero_mul]
      · rw [value_of_coeff_eq_zero zero, mul_zero]
    have near := not_overflows_value Decimal.zero
    rw [value_zero, ← product_zero] at near
    exact iff_of_false nofun fun far => near far.2
  · rw [← product_eq_quotient,
      ← nearest?_eq_none_iff (tenTo_pos _) (Nat.min_le_right (a.scale + b.scale) maxScale)]
    simp only
    cases nearest? (a.coeff * b.coeff) (tenTo (a.scale + b.scale)) _ _ with
    | none => exact ⟨fun h => ⟨(Except.error.inj h).symm, rfl⟩, fun h => congrArg _ h.1.symm⟩
    | some product => exact ⟨nofun, nofun⟩

end Decimal

end AuctionHouse
