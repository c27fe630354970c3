import AuctionHouse.Money
import AuctionHouse.Proofs.Decimal.Value
import Mathlib.Tactic.NormNum

/-!
# Whole cents

An amount is in whole cents if its value is, whatever its scale.  Rounding to cents goes to an
amount in whole cents (`isCents_roundCents`), keeps the order (`roundCents_le_roundCents`) and
leaves whole cents where they are (`value_roundCents`).  So it never goes past a whole number of
cents: `roundCents_le`, `le_roundCents`.
-/

namespace AuctionHouse

/-- A rounded quotient is at most half a unit away from the quotient. -/
theorem roundQuotient_bounds (tie : Tie) (num : Nat) {den : Nat} (pos : 0 < den) :
    2 * (roundQuotient tie num den * den) ≤ 2 * num + den ∧
      2 * num ≤ 2 * (roundQuotient tie num den * den) + den := by
  have split_num : num / den * den + num % den = num := Nat.div_add_mod' num den
  have succ_mul : (num / den + 1) * den = num / den * den + den := Nat.succ_mul _ _
  have rest_lt := Nat.mod_lt num pos
  unfold roundQuotient
  simp only
  split
  · omega
  · split
    · omega
    · cases tie with
      | awayFromZero => simp only; omega
      | toEven => simp only; split <;> omega

/-- If a half goes away from zero, the rounded quotient is less than half a unit below the
quotient. -/
theorem lt_roundQuotient_awayFromZero (num : Nat) {den : Nat} (pos : 0 < den) :
    2 * num < 2 * (roundQuotient .awayFromZero num den * den) + den := by
  have split_num : num / den * den + num % den = num := Nat.div_add_mod' num den
  have succ_mul : (num / den + 1) * den = num / den * den + den := Nat.succ_mul _ _
  have rest_lt := Nat.mod_lt num pos
  unfold roundQuotient
  simp only
  split
  · omega
  · split <;> omega

namespace Decimal

/-- Whether the value is a whole number of cents. -/
def IsCents (amount : Decimal) : Prop := ∃ cents : ℤ, amount.value = cents / 100

/-- The sign of an amount as a factor. -/
def sign (amount : Decimal) : ℚ := if amount.negative then -1 else 1

theorem sign_cases (amount : Decimal) : amount.sign = -1 ∨ amount.sign = 1 := by
  unfold sign
  split
  · exact .inl rfl
  · exact .inr rfl

theorem value_eq_sign_mul (amount : Decimal) :
    amount.value = amount.sign * (amount.magnitude / tenTo amount.scale) := by
  unfold value coeff withSign sign
  split
  · push_cast
    ring
  · push_cast
    ring

theorem hundred_eq {scale : Nat} (h : scale ≤ 2) :
    (100 : ℚ) = tenTo (2 - scale) * tenTo scale := by
  rw [← Nat.cast_mul, ← tenTo_add, Nat.sub_add_cancel h]
  norm_num [tenTo]

theorem isCents_of_scale_le {amount : Decimal} (h : amount.scale ≤ 2) : amount.IsCents := by
  refine ⟨amount.coeff * tenTo (2 - amount.scale), ?_⟩
  have := (tenTo_cast_pos amount.scale).ne'
  have := (tenTo_cast_pos (2 - amount.scale)).ne'
  rw [value, hundred_eq h]
  push_cast
  field_simp

theorem isCents_zero : zero.IsCents := isCents_of_scale_le (Nat.zero_le 2)

theorem IsCents.max {a b : Decimal} (ha : a.IsCents) (hb : b.IsCents) : (max a b).IsCents := by
  rw [max_def]
  split
  · exact hb
  · exact ha

/-- The greater of whole cents and an amount is not in whole cents if it is the amount. -/
theorem not_isCents_max_iff {a b : Decimal} (ha : a.IsCents) :
    ¬ (Max.max a b).IsCents ↔ a < b ∧ ¬ b.IsCents := by
  rw [max_def]
  split
  · next less => exact ⟨fun fraction => ⟨less, fraction⟩, fun h => h.2⟩
  · next above => exact ⟨fun fraction => absurd ha fraction, fun h => absurd h.1 above⟩

theorem IsCents.min {a b : Decimal} (ha : a.IsCents) (hb : b.IsCents) : (min a b).IsCents := by
  rw [min_def]
  split
  · exact hb
  · exact ha

/-- Rounding differs from cutting in the sign of a zero only. -/
theorem value_round (places : Nat) (amount : Decimal) :
    (amount.round places).value = (amount.cut places).value := by
  unfold round
  simp only
  split
  · next h => simp [value_eq_sign_mul, unsigned, h.2]
  · rfl

/-- What rounding to cents does to the value, up to its sign: the number of cents is the nearest
one, a half going up. -/
theorem exists_roundCents (amount : Decimal) :
    ∃ cents : ℕ, amount.roundCents.value = amount.sign * (cents / 100) ∧
      (cents / 100 : ℚ) ≤ amount.magnitude / tenTo amount.scale + 1 / 200 ∧
      (amount.magnitude / tenTo amount.scale : ℚ) < cents / 100 + 1 / 200 := by
  rw [roundCents, value_round]
  by_cases long : 2 < amount.scale
  · have split_scale : (tenTo amount.scale : ℚ) = tenTo (amount.scale - 2) * 100 := by
      have hundred : (100 : ℚ) = (tenTo 2 : ℕ) := by norm_num [tenTo]
      rw [hundred, ← Nat.cast_mul, ← tenTo_add, Nat.sub_add_cancel (Nat.le_of_lt long)]
    have step_pos := tenTo_cast_pos (amount.scale - 2)
    have upper := (roundQuotient_bounds .awayFromZero amount.magnitude
      (tenTo_pos (amount.scale - 2))).1
    have lower := lt_roundQuotient_awayFromZero amount.magnitude (tenTo_pos (amount.scale - 2))
    have upper_cast := (Nat.cast_le (α := ℚ)).2 upper
    have lower_cast := (Nat.cast_lt (α := ℚ)).2 lower
    push_cast at upper_cast lower_cast
    refine ⟨roundQuotient .awayFromZero amount.magnitude (tenTo (amount.scale - 2)), ?_, ?_, ?_⟩
    · rw [value_eq_sign_mul, cut, dif_pos long]
      norm_num [sign, tenTo]
    · rw [split_scale, div_add_div _ _ (by positivity) (by norm_num),
        div_le_div_iff₀ (by norm_num) (by positivity)]
      linarith
    · rw [split_scale, div_add_div _ _ (by norm_num) (by norm_num),
        div_lt_div_iff₀ (by positivity) (by norm_num)]
      linarith
  · have short := Nat.not_lt.1 long
    have := (tenTo_cast_pos amount.scale).ne'
    have := (tenTo_cast_pos (2 - amount.scale)).ne'
    have same : ((amount.magnitude * tenTo (2 - amount.scale) : ℕ) / 100 : ℚ) =
        amount.magnitude / tenTo amount.scale := by
      rw [hundred_eq short]
      push_cast
      field_simp
    refine ⟨amount.magnitude * tenTo (2 - amount.scale), ?_, ?_, ?_⟩
    · rw [cut_of_scale_le short, same, value_eq_sign_mul]
    · linarith
    · linarith

theorem isCents_roundCents (amount : Decimal) : amount.roundCents.IsCents := by
  obtain ⟨cents, eq, -, -⟩ := exists_roundCents amount
  rcases sign_cases amount with neg | pos
  · exact ⟨-cents, by rw [eq, neg]; push_cast; ring⟩
  · exact ⟨cents, by rw [eq, pos, one_mul, Int.cast_natCast]⟩

/-- Rounding keeps the order. -/
theorem roundCents_le_roundCents {a b : Decimal} (h : a ≤ b) : a.roundCents ≤ b.roundCents := by
  obtain ⟨low, low_eq, low_le, lt_low⟩ := exists_roundCents a
  obtain ⟨high, high_eq, high_le, lt_high⟩ := exists_roundCents b
  rw [le_iff_value_le] at h ⊢
  rw [value_eq_sign_mul, value_eq_sign_mul b] at h
  rw [low_eq, high_eq]
  have low_nonneg : (0 : ℚ) ≤ low := Nat.cast_nonneg low
  have high_nonneg : (0 : ℚ) ≤ high := Nat.cast_nonneg high
  have a_nonneg : (0 : ℚ) ≤ a.magnitude / tenTo a.scale := by positivity
  have b_nonneg : (0 : ℚ) ≤ b.magnitude / tenTo b.scale := by positivity
  generalize (a.magnitude / tenTo a.scale : ℚ) = x at *
  generalize (b.magnitude / tenTo b.scale : ℚ) = y at *
  rcases sign_cases a with a_sign | a_sign <;> rcases sign_cases b with b_sign | b_sign <;>
    rw [a_sign, b_sign] at h ⊢
  · have : (high : ℚ) < low + 1 := by linarith
    have : high ≤ low := Nat.lt_succ_iff.1 (by exact_mod_cast this)
    have : (high : ℚ) ≤ low := by exact_mod_cast this
    linarith
  · linarith
  · -- A value that is both positive and below a negative one is zero.
    have : (low : ℚ) < 1 := by linarith
    have low_zero : low = 0 := Nat.lt_one_iff.1 (by exact_mod_cast this)
    have : (high : ℚ) < 1 := by linarith
    have high_zero : high = 0 := Nat.lt_one_iff.1 (by exact_mod_cast this)
    simp [low_zero, high_zero]
  · have : (low : ℚ) < high + 1 := by linarith
    have : low ≤ high := Nat.lt_succ_iff.1 (by exact_mod_cast this)
    have : (low : ℚ) ≤ high := by exact_mod_cast this
    linarith

/-- Rounding does not see the scale of an amount. -/
theorem sameValue_roundCents {a b : Decimal} (same : a.SameValue b) :
    a.roundCents.SameValue b.roundCents := by
  rw [sameValue_iff_value_eq] at *
  have upward : a ≤ b := le_iff_value_le.2 same.le
  have downward : b ≤ a := le_iff_value_le.2 same.ge
  exact Rat.le_antisymm (le_iff_value_le.1 (roundCents_le_roundCents upward))
    (le_iff_value_le.1 (roundCents_le_roundCents downward))

/-- Whole cents are not changed by rounding. -/
theorem value_roundCents {amount : Decimal} (whole : amount.IsCents) :
    amount.roundCents.value = amount.value := by
  obtain ⟨cents, eq⟩ := whole
  obtain ⟨rounded, eq', le_mag, mag_lt⟩ := exists_roundCents amount
  rw [value_eq_sign_mul] at eq
  rw [eq', value_eq_sign_mul]
  generalize (amount.magnitude / tenTo amount.scale : ℚ) = x at *
  rcases sign_cases amount with neg | pos
  · rw [neg] at eq ⊢
    have : (rounded : ℚ) < -cents + 1 := by linarith
    have : (rounded : ℤ) ≤ -cents := Int.lt_add_one_iff.1 (by exact_mod_cast this)
    have : (-cents : ℚ) < rounded + 1 := by linarith
    have : -cents ≤ (rounded : ℤ) := Int.lt_add_one_iff.1 (by exact_mod_cast this)
    have : ((rounded : ℤ) : ℚ) = (-cents : ℤ) := by congr 1; omega
    push_cast at this
    linarith
  · rw [pos] at eq ⊢
    have : (rounded : ℚ) < cents + 1 := by linarith
    have : (rounded : ℤ) ≤ cents := Int.lt_add_one_iff.1 (by exact_mod_cast this)
    have : (cents : ℚ) < rounded + 1 := by linarith
    have : cents ≤ (rounded : ℤ) := Int.lt_add_one_iff.1 (by exact_mod_cast this)
    have : ((rounded : ℤ) : ℚ) = (cents : ℤ) := by congr 1; omega
    push_cast at this
    linarith

/-- Whole cents are what rounding does not change. -/
theorem isCents_iff_sameValue {amount : Decimal} :
    amount.IsCents ↔ amount.roundCents.SameValue amount := by
  rw [sameValue_iff_value_eq]
  constructor
  · exact value_roundCents
  · intro same
    obtain ⟨cents, eq⟩ := isCents_roundCents amount
    exact ⟨cents, same.symm.trans eq⟩

/-- What is not above a whole number of cents is not rounded above it. -/
theorem roundCents_le {amount bound : Decimal} (whole : bound.IsCents) (h : amount ≤ bound) :
    amount.roundCents ≤ bound := by
  have := roundCents_le_roundCents h
  rwa [le_iff_value_le, value_roundCents whole, ← le_iff_value_le] at this

/-- What is not below a whole number of cents is not rounded below it. -/
theorem le_roundCents {amount bound : Decimal} (whole : bound.IsCents) (h : bound ≤ amount) :
    bound ≤ amount.roundCents := by
  have := roundCents_le_roundCents h
  rwa [le_iff_value_le, value_roundCents whole, ← le_iff_value_le] at this

/-- Rounding goes above a whole number of cents from half a cent above it on. -/
theorem lt_roundCents_iff {amount bound : Decimal} (whole : bound.IsCents)
    (nonneg : 0 ≤ bound.value) :
    bound < amount.roundCents ↔ bound.value + 1 / 200 ≤ amount.value := by
  obtain ⟨cents, bound_eq⟩ := whole
  obtain ⟨rounded, rounded_eq, le_magnitude, magnitude_lt⟩ := exists_roundCents amount
  rw [bound_eq] at nonneg
  rw [lt_iff_value_lt, rounded_eq, value_eq_sign_mul amount, bound_eq]
  have rounded_nonneg : (0 : ℚ) ≤ rounded := Nat.cast_nonneg rounded
  have magnitude_nonneg : (0 : ℚ) ≤ amount.magnitude / tenTo amount.scale := by positivity
  generalize (amount.magnitude / tenTo amount.scale : ℚ) = x at *
  rcases sign_cases amount with negative | positive
  · rw [negative]
    constructor <;> intro above <;> linarith
  · rw [positive, one_mul, one_mul]
    constructor
    · intro above
      have : (cents : ℚ) < rounded := by linarith
      have : cents + 1 ≤ (rounded : ℤ) := Int.add_one_le_iff.2 (by exact_mod_cast this)
      have : (cents + 1 : ℚ) ≤ rounded := by exact_mod_cast this
      linarith
    · intro above
      linarith

theorem scale_roundCents_le (amount : Decimal) : amount.roundCents.scale ≤ 2 := by
  have cut_le : (amount.cut 2).scale ≤ 2 := by
    unfold cut
    split
    · exact Nat.le_refl 2
    · next short => exact Nat.not_lt.1 short
  unfold roundCents round
  simp only
  split
  · exact cut_le
  · exact cut_le

end Decimal

end AuctionHouse
