import AuctionHouse.Proofs.Decimal.Cents
import Mathlib.Data.Rat.Floor

/-!
# Sums of amounts

A sum that needs too many digits is rounded, so it is not always the sum of the values.  But an
amount of no more places than the summands is never passed over: it lies on the same side of the
rounded sum as of the exact one, and if it is the exact sum, it is the rounded one too.  Main
statements: adding what is not negative does not lower an amount (`le_add`), taking it away does not
raise it (`sub_le`), and sums of whole cents that have room are exact (`add_of_isCents`,
`sub_of_isCents`).
-/

namespace AuctionHouse

/-- A whole number that is not above a quotient is not above the rounded quotient. -/
theorem le_roundQuotient (tie : Tie) {num den whole : Nat} (pos : 0 < den)
    (h : whole * den ≤ num) : whole ≤ roundQuotient tie num den :=
  Nat.le_trans ((Nat.le_div_iff_mul_le pos).2 h) (div_le_roundQuotient tie num den)

/-- A whole number that is not below a quotient is not below the rounded quotient. -/
theorem roundQuotient_le_of_le (tie : Tie) {num den whole : Nat} (pos : 0 < den)
    (h : num ≤ whole * den) : roundQuotient tie num den ≤ whole := by
  have upper := (roundQuotient_bounds tie num pos).1
  have : roundQuotient tie num den * den < (whole + 1) * den := by
    rw [Nat.add_mul]
    omega
  exact Nat.lt_succ_iff.1 (Nat.lt_of_mul_lt_mul_right this)

namespace Decimal

/-- What is rounded out of the coefficients is, with a digit less, rounded to no less than a tenth
of their limit. -/
theorem limit_le_ten_mul_roundQuotient {num den : Nat} (pos : 0 < den)
    (big : limit ≤ roundQuotient .toEven (10 * num) den) :
    limit ≤ 10 * roundQuotient .toEven num den := by
  have upper := (roundQuotient_bounds .toEven (10 * num) pos).1
  have lower := (roundQuotient_bounds .toEven num pos).2
  have big_mul := Nat.mul_le_mul_right den big
  generalize roundQuotient .toEven num den = rounded at *
  rw [limit_eq] at *
  by_contra high
  have := Nat.mul_le_mul_right den (show rounded ≤ 7922816251426433759354395033 by omega)
  omega

/-- The nearest amount has the rounded coefficient at its scale, and at every finer scale the
coefficient would not fit. -/
theorem nearest_spec {num : Int} {den : Nat}
    (fits : roundQuotient .toEven num.natAbs den < limit) {top : Nat} (h : top ≤ maxScale) :
    (nearest num den fits top h).magnitude =
        roundQuotient .toEven (num.natAbs * tenTo (nearest num den fits top h).scale) den ∧
      (nearest num den fits top h).negative =
        decide (withSign (num < 0) (nearest num den fits top h).magnitude < 0) ∧
      ∀ finer ≤ top, (nearest num den fits top h).scale < finer →
        limit ≤ roundQuotient .toEven (num.natAbs * tenTo finer) den := by
  induction top with
  | zero =>
    refine ⟨?_, ?_, ?_⟩
    · simp [nearest, ofCoeff]
    · simp [nearest, ofCoeff]
    · intro finer small large
      omega
  | succ below ih =>
    by_cases here : roundQuotient .toEven (num.natAbs * tenTo (below + 1)) den < limit
    · rw [nearest]
      simp only [dif_pos here, ofCoeff, natAbs_withSign]
      refine ⟨trivial, trivial, ?_⟩
      intro finer small large
      omega
    · rw [nearest]
      simp only [dif_neg here]
      obtain ⟨magnitude_eq, negative_eq, full⟩ := ih (Nat.le_of_succ_le h)
      refine ⟨magnitude_eq, negative_eq, ?_⟩
      intro finer small large
      rcases Nat.lt_or_eq_of_le small with small | rfl
      · exact full finer (Nat.lt_succ_iff.1 small) large
      · exact Nat.not_lt.1 here

section Nearest

variable {num : Int} {den : Nat} (pos : 0 < den)
variable (fits : roundQuotient .toEven num.natAbs den < limit)
variable {top : Nat} (h : top ≤ maxScale) (bound : Decimal) (places : bound.scale ≤ top)

include pos places in
theorem magnitude_le_nearest
    (below : bound.magnitude * den ≤ num.natAbs * tenTo bound.scale) :
    bound.magnitude * tenTo (nearest num den fits top h).scale ≤
      (nearest num den fits top h).magnitude * tenTo bound.scale := by
  obtain ⟨magnitude_eq, -, full⟩ := nearest_spec fits h
  generalize nearest num den fits top h = result at *
  rcases Nat.lt_or_ge result.scale bound.scale with coarse | fine
  · -- The quotient is so large that its coefficient needs the place that was given up.
    have big := full (result.scale + 1) (by omega) (Nat.lt_succ_self _)
    rw [tenTo_succ, Nat.mul_left_comm] at big
    have := limit_le_ten_mul_roundQuotient pos big
    rw [← magnitude_eq] at this
    calc bound.magnitude * tenTo result.scale
        ≤ (10 * result.magnitude) * tenTo result.scale :=
          Nat.mul_le_mul_right _ (Nat.le_of_lt (Nat.lt_of_lt_of_le bound.magnitude_lt this))
      _ = result.magnitude * tenTo (result.scale + 1) := by rw [tenTo_succ]; ring
      _ ≤ result.magnitude * tenTo bound.scale := Nat.mul_le_mul_left _ (tenTo_le_tenTo coarse)
  · obtain ⟨further, scale_eq⟩ := Nat.exists_eq_add_of_le fine
    have : bound.magnitude * tenTo further ≤ result.magnitude := by
      rw [magnitude_eq, scale_eq, tenTo_add]
      apply le_roundQuotient _ pos
      calc bound.magnitude * tenTo further * den = bound.magnitude * den * tenTo further := by ring
        _ ≤ num.natAbs * tenTo bound.scale * tenTo further := Nat.mul_le_mul_right _ below
        _ = num.natAbs * (tenTo bound.scale * tenTo further) := by ring
    calc bound.magnitude * tenTo result.scale
        = bound.magnitude * tenTo further * tenTo bound.scale := by
          rw [scale_eq, tenTo_add]; ring
      _ ≤ result.magnitude * tenTo bound.scale := Nat.mul_le_mul_right _ this

include pos places in
theorem nearest_magnitude_le
    (above : num.natAbs * tenTo bound.scale ≤ bound.magnitude * den) :
    (nearest num den fits top h).magnitude * tenTo bound.scale ≤
      bound.magnitude * tenTo (nearest num den fits top h).scale := by
  obtain ⟨magnitude_eq, -, full⟩ := nearest_spec fits h
  generalize nearest num den fits top h = result at *
  rcases Nat.lt_or_ge result.scale bound.scale with coarse | fine
  · have big := full bound.scale places coarse
    have := roundQuotient_le_of_le .toEven pos above
    have := bound.magnitude_lt
    omega
  · obtain ⟨further, scale_eq⟩ := Nat.exists_eq_add_of_le fine
    have : result.magnitude ≤ bound.magnitude * tenTo further := by
      rw [magnitude_eq, scale_eq, tenTo_add]
      apply roundQuotient_le_of_le _ pos
      calc num.natAbs * (tenTo bound.scale * tenTo further)
          = num.natAbs * tenTo bound.scale * tenTo further := by ring
        _ ≤ bound.magnitude * den * tenTo further := Nat.mul_le_mul_right _ above
        _ = bound.magnitude * tenTo further * den := by ring
    calc result.magnitude * tenTo bound.scale
        ≤ bound.magnitude * tenTo further * tenTo bound.scale := Nat.mul_le_mul_right _ this
      _ = bound.magnitude * tenTo result.scale := by rw [scale_eq, tenTo_add]; ring

include pos places in
theorem abs_value_le_abs_nearest (below : |bound.value| ≤ |(num / den : ℚ)|) :
    |bound.value| ≤ |(nearest num den fits top h).value| := by
  have den_pos : (0 : ℚ) < den := by exact_mod_cast pos
  rw [abs_div, ← Int.cast_abs, Int.abs_eq_natAbs, abs_of_pos den_pos, abs_value,
    div_le_div_iff₀ (tenTo_cast_pos _) den_pos] at below
  rw [abs_value, abs_value, div_le_div_iff₀ (tenTo_cast_pos _) (tenTo_cast_pos _)]
  exact_mod_cast magnitude_le_nearest pos fits h bound places (by exact_mod_cast below)

include pos places in
theorem abs_nearest_le_abs_value (above : |(num / den : ℚ)| ≤ |bound.value|) :
    |(nearest num den fits top h).value| ≤ |bound.value| := by
  have den_pos : (0 : ℚ) < den := by exact_mod_cast pos
  rw [abs_div, ← Int.cast_abs, Int.abs_eq_natAbs, abs_of_pos den_pos, abs_value,
    div_le_div_iff₀ den_pos (tenTo_cast_pos _)] at above
  rw [abs_value, abs_value, div_le_div_iff₀ (tenTo_cast_pos _) (tenTo_cast_pos _)]
  exact_mod_cast nearest_magnitude_le pos fits h bound places (by exact_mod_cast above)

theorem nearest_nonneg (sign : 0 ≤ num) : 0 ≤ (nearest num den fits top h).value := by
  obtain ⟨-, negative_eq, -⟩ := nearest_spec fits h
  have : (nearest num den fits top h).negative = false := by
    rw [negative_eq, decide_eq_false (Int.not_lt.2 sign)]
    simp [withSign]
  rw [value_eq_sign_mul, Decimal.sign, this, if_neg Bool.false_ne_true, one_mul]
  positivity

theorem nearest_nonpos (sign : num < 0) : (nearest num den fits top h).value ≤ 0 := by
  obtain ⟨-, negative_eq, -⟩ := nearest_spec fits h
  rw [decide_eq_true sign] at negative_eq
  rw [value_eq_sign_mul, Decimal.sign, negative_eq]
  generalize nearest num den fits top h = result
  split
  · have : (0 : ℚ) ≤ result.magnitude / tenTo result.scale := by positivity
    linarith
  · next zero =>
    have : result.magnitude = 0 := by
      simp only [withSign, if_true, decide_eq_true_eq] at zero
      omega
    simp [this]

include pos places in
/-- An amount that is not above a quotient is not above the nearest amount. -/
theorem le_value_nearest (below : bound.value ≤ num / den) :
    bound.value ≤ (nearest num den fits top h).value := by
  have den_pos : (0 : ℚ) < den := by exact_mod_cast pos
  rcases lt_or_ge num 0 with neg | nonneg
  · have quotient_neg : (num / den : ℚ) < 0 := div_neg_of_neg_of_pos (by exact_mod_cast neg) den_pos
    have bound_neg := lt_of_le_of_lt below quotient_neg
    have := abs_nearest_le_abs_value pos fits h bound places (by
      rw [abs_of_neg quotient_neg, abs_of_neg bound_neg]
      linarith)
    rw [abs_of_neg bound_neg, abs_of_nonpos (nearest_nonpos fits h neg)] at this
    linarith
  · have result_nonneg := nearest_nonneg fits h nonneg
    rcases lt_or_ge bound.value 0 with bound_neg | bound_nonneg
    · linarith
    · have := abs_value_le_abs_nearest pos fits h bound places (by
        rwa [abs_of_nonneg bound_nonneg, abs_of_nonneg (le_trans bound_nonneg below)])
      rwa [abs_of_nonneg bound_nonneg, abs_of_nonneg result_nonneg] at this

include pos places in
/-- An amount that is not below a quotient is not below the nearest amount. -/
theorem value_nearest_le (above : num / den ≤ bound.value) :
    (nearest num den fits top h).value ≤ bound.value := by
  have den_pos : (0 : ℚ) < den := by exact_mod_cast pos
  rcases lt_or_ge num 0 with neg | nonneg
  · have quotient_neg : (num / den : ℚ) < 0 := div_neg_of_neg_of_pos (by exact_mod_cast neg) den_pos
    have result_nonpos := nearest_nonpos fits h neg
    rcases lt_or_ge bound.value 0 with bound_neg | bound_nonneg
    · have := abs_value_le_abs_nearest pos fits h bound places (by
        rw [abs_of_neg quotient_neg, abs_of_neg bound_neg]
        linarith)
      rw [abs_of_neg bound_neg, abs_of_nonpos result_nonpos] at this
      linarith
    · linarith
  · have quotient_nonneg : (0 : ℚ) ≤ num / den := div_nonneg (by exact_mod_cast nonneg) den_pos.le
    have bound_nonneg := le_trans quotient_nonneg above
    have := abs_nearest_le_abs_value pos fits h bound places (by
      rwa [abs_of_nonneg bound_nonneg, abs_of_nonneg quotient_nonneg])
    rwa [abs_of_nonneg bound_nonneg, abs_of_nonneg (nearest_nonneg fits h nonneg)] at this

include pos in
/-- The nearest amount of a quotient that some amount is exactly has the value of that amount. -/
theorem value_nearest_of_exact {exact : Decimal} (places : exact.scale ≤ top)
    (eq : exact.value = num / den) : (nearest num den fits top h).value = exact.value :=
  Rat.le_antisymm (value_nearest_le pos fits h exact places (le_of_eq eq.symm))
    (le_value_nearest pos fits h exact places (le_of_eq eq))

end Nearest

/-- The exact sum as the quotient that is rounded. -/
theorem sum_eq_quotient (a b : Decimal) :
    ((a.coeff * tenTo (max a.scale b.scale - a.scale) +
        b.coeff * tenTo (max a.scale b.scale - b.scale) : ℤ) /
          (tenTo (max a.scale b.scale) : ℕ) : ℚ) = a.value + b.value := by
  have scaled (amount : Decimal) {scale : Nat} (h : amount.scale ≤ scale) :
      (amount.coeff * tenTo (scale - amount.scale) / tenTo scale : ℚ) = amount.value := by
    have split_scale : (tenTo scale : ℚ) = tenTo (scale - amount.scale) * tenTo amount.scale := by
      rw [← Nat.cast_mul, ← tenTo_add, Nat.sub_add_cancel h]
    have := (tenTo_cast_pos amount.scale).ne'
    have := (tenTo_cast_pos (scale - amount.scale)).ne'
    rw [value, split_scale]
    field_simp
  push_cast
  rw [add_div, scaled a (Nat.le_max_left _ _), scaled b (Nat.le_max_right _ _)]

variable {a b sum : Decimal}

/-- No amount of the places of the summands lies between the sum of the values and the rounded
sum. -/
theorem le_of_sum?_eq_some (h : sum? a b = some sum) (bound : Decimal)
    (places : bound.scale ≤ max a.scale b.scale) :
    (bound.value ≤ a.value + b.value → bound.value ≤ sum.value) ∧
      (a.value + b.value ≤ bound.value → sum.value ≤ bound.value) := by
  unfold sum? at h
  split at h
  · next zero =>
    obtain rfl := Option.some.inj h
    rw [value_of_coeff_eq_zero zero, zero_add]
    exact ⟨id, id⟩
  · split at h
    · next zero =>
      obtain rfl := Option.some.inj h
      rw [value_of_coeff_eq_zero zero, add_zero]
      exact ⟨id, id⟩
    · simp only [nearest?] at h
      split at h
      · obtain rfl := Option.some.inj h
        rw [← sum_eq_quotient]
        exact ⟨le_value_nearest (tenTo_pos _) _ _ bound places,
          value_nearest_le (tenTo_pos _) _ _ bound places⟩
      · exact absurd h (by simp)

/-- A sum that some amount of the places of the summands is exactly is that amount's value. -/
theorem sum?_of_exact (exact : Decimal) (places : exact.scale ≤ max a.scale b.scale)
    (h : exact.value = a.value + b.value) :
    ∃ sum, sum? a b = some sum ∧ sum.value = exact.value := by
  cases found : sum? a b with
  | some sum =>
    obtain ⟨low, high⟩ := le_of_sum?_eq_some found exact places
    exact ⟨sum, rfl, Rat.le_antisymm (high (le_of_eq h.symm)) (low (le_of_eq h))⟩
  | none =>
    unfold sum? at found
    split at found
    · exact absurd found (by simp)
    · split at found
      · exact absurd found (by simp)
      · simp only [nearest?] at found
        split at found
        · exact absurd found (by simp)
        · next large =>
          -- The exact amount has at least as many digits as the quotient without a fraction.
          exfalso
          apply large
          refine Nat.lt_of_le_of_lt (roundQuotient_le_of_le _ (tenTo_pos _) ?_) exact.magnitude_lt
          rw [← sum_eq_quotient] at h
          generalize a.coeff * tenTo (max a.scale b.scale - a.scale) +
            b.coeff * tenTo (max a.scale b.scale - b.scale) = num at h
          have den_pos := tenTo_cast_pos (max a.scale b.scale)
          have := congrArg abs h
          rw [abs_value, abs_div, ← Int.cast_abs, Int.abs_eq_natAbs, abs_of_pos den_pos,
            div_eq_div_iff (tenTo_cast_pos _).ne' den_pos.ne'] at this
          have : exact.magnitude * tenTo (max a.scale b.scale) =
            num.natAbs * tenTo exact.scale := by exact_mod_cast this
          rw [this]
          exact Nat.le_mul_of_pos_right _ (tenTo_pos _)

theorem add_eq_ok : a.add b = .ok sum ↔ sum? a b = some sum := by
  unfold add
  cases sum? a b <;> simp

theorem sub_eq_ok : a.sub b = .ok sum ↔ sum? a b.neg = some sum := by
  unfold sub
  cases sum? a b.neg <;> simp

/-- Adding what is not negative does not lower an amount. -/
theorem le_add (h : a.add b = .ok sum) (nonneg : 0 ≤ b.value) : a ≤ sum := by
  rw [le_iff_value_le]
  exact (le_of_sum?_eq_some (add_eq_ok.1 h) a (Nat.le_max_left _ _)).1 (by linarith)

/-- Taking away what is not negative does not raise an amount. -/
theorem sub_le (h : a.sub b = .ok sum) (nonneg : 0 ≤ b.value) : sum ≤ a := by
  rw [le_iff_value_le]
  refine (le_of_sum?_eq_some (sub_eq_ok.1 h) a (Nat.le_max_left _ _)).2 ?_
  rw [value_neg]
  linarith

/-- Values below this have a coefficient at scale two. -/
def centsLimit : ℚ := 10 ^ 26

theorem natAbs_lt_limit {coeff : ℤ} {scale : Nat} (short : scale ≤ 2)
    (room : |(coeff / tenTo scale : ℚ)| < centsLimit) : coeff.natAbs < limit := by
  have scale_pos := tenTo_cast_pos scale
  rw [abs_div, abs_of_pos scale_pos, div_lt_iff₀ scale_pos, centsLimit] at room
  have : (10 ^ 26 * tenTo scale : ℚ) ≤ 10 ^ 26 * tenTo 2 := by
    have := (Nat.cast_le (α := ℚ)).2 (tenTo_le_tenTo short)
    linarith
  have : ((coeff.natAbs : ℕ) : ℚ) < ((10 ^ 26 * tenTo 2 : ℕ) : ℚ) := by
    rw [Nat.cast_natAbs, Int.cast_abs]
    push_cast
    linarith
  exact Nat.lt_trans (by exact_mod_cast this) (by decide)

/-- Amounts whose sum has room are added, whatever their places. -/
theorem exists_sum?_of_room (room : |a.value + b.value| < centsLimit) :
    ∃ sum, sum? a b = some sum := by
  unfold sum?
  split
  · exact ⟨b, rfl⟩
  · split
    · exact ⟨a, rfl⟩
    · rw [← sum_eq_quotient] at room
      simp only [nearest?]
      generalize a.coeff * tenTo (max a.scale b.scale - a.scale) +
        b.coeff * tenTo (max a.scale b.scale - b.scale) = num at room ⊢
      have den_pos := tenTo_cast_pos (max a.scale b.scale)
      rw [abs_div, abs_of_pos den_pos, div_lt_iff₀ den_pos, ← Int.cast_abs, Int.abs_eq_natAbs,
        centsLimit] at room
      have small : num.natAbs < 10 ^ 26 * tenTo (max a.scale b.scale) := by exact_mod_cast room
      have fits : roundQuotient .toEven num.natAbs (tenTo (max a.scale b.scale)) < limit := by
        have rounded := roundQuotient_le_of_le .toEven (tenTo_pos _) (Nat.le_of_lt small)
        exact Nat.lt_of_le_of_lt rounded (by decide)
      exact ⟨_, dif_pos fits⟩

theorem exists_add_of_room (room : |a.value + b.value| < centsLimit) :
    ∃ sum, a.add b = .ok sum := by
  obtain ⟨sum, found⟩ := exists_sum?_of_room room
  exact ⟨sum, add_eq_ok.2 found⟩

theorem exists_sub_of_room (room : |a.value - b.value| < centsLimit) :
    ∃ difference, a.sub b = .ok difference := by
  rw [sub_eq_add_neg, ← value_neg] at room
  obtain ⟨difference, found⟩ := exists_sum?_of_room room
  exact ⟨difference, sub_eq_ok.2 found⟩

/-- Whole cents that have room are an amount of the places of their summands. -/
theorem exists_of_isCents_sum (wholeA : a.IsCents) (wholeB : b.IsCents)
    (room : |a.value + b.value| < centsLimit) :
    ∃ exact : Decimal, exact.scale ≤ max a.scale b.scale ∧ exact.value = a.value + b.value := by
  by_cases two : 2 ≤ max a.scale b.scale
  · obtain ⟨centsA, eqA⟩ := wholeA
    obtain ⟨centsB, eqB⟩ := wholeB
    have sum_eq : a.value + b.value = ((centsA + centsB : ℤ) / (tenTo 2 : ℕ) : ℚ) := by
      rw [eqA, eqB]
      norm_num [tenTo]
      ring
    rw [sum_eq] at room ⊢
    refine ⟨ofCoeff (centsA + centsB) 2 (natAbs_lt_limit (Nat.le_refl 2) room) (by decide), two, ?_⟩
    rw [value_ofCoeff]
  · have short : max a.scale b.scale ≤ 2 := by omega
    rw [← sum_eq_quotient] at room ⊢
    refine ⟨ofCoeff _ (max a.scale b.scale) (natAbs_lt_limit short room)
      (Nat.max_le.2 ⟨a.scale_le, b.scale_le⟩), Nat.le_refl _, ?_⟩
    rw [value_ofCoeff]

theorem IsCents.add {sum : Decimal} (wholeA : a.IsCents) (wholeB : b.IsCents)
    (eq : sum.value = a.value + b.value) : sum.IsCents := by
  obtain ⟨centsA, eqA⟩ := wholeA
  obtain ⟨centsB, eqB⟩ := wholeB
  refine ⟨centsA + centsB, ?_⟩
  rw [eq, eqA, eqB]
  push_cast
  ring

theorem IsCents.neg (whole : a.IsCents) : a.neg.IsCents := by
  obtain ⟨cents, eq⟩ := whole
  exact ⟨-cents, by rw [value_neg, eq]; push_cast; ring⟩

/-- Sums of whole cents are exact. -/
theorem add_of_isCents (wholeA : a.IsCents) (wholeB : b.IsCents)
    (room : |a.value + b.value| < centsLimit) :
    ∃ sum, a.add b = .ok sum ∧ sum.IsCents ∧ sum.value = a.value + b.value := by
  obtain ⟨exact, places, eq⟩ := exists_of_isCents_sum wholeA wholeB room
  obtain ⟨sum, found, same⟩ := sum?_of_exact exact places eq
  have sum_eq := same.trans eq
  exact ⟨sum, add_eq_ok.2 found, wholeA.add wholeB sum_eq, sum_eq⟩

/-- Differences of whole cents are exact. -/
theorem sub_of_isCents (wholeA : a.IsCents) (wholeB : b.IsCents)
    (room : |a.value - b.value| < centsLimit) :
    ∃ difference, a.sub b = .ok difference ∧ difference.IsCents ∧
      difference.value = a.value - b.value := by
  have neg_eq : a.value + b.neg.value = a.value - b.value := by rw [value_neg, sub_eq_add_neg]
  obtain ⟨exact, places, eq⟩ := exists_of_isCents_sum wholeA wholeB.neg (by rwa [neg_eq])
  obtain ⟨difference, found, same⟩ := sum?_of_exact exact places eq
  have difference_eq := same.trans eq
  exact ⟨difference, sub_eq_ok.2 found, wholeA.add wholeB.neg difference_eq,
    difference_eq.trans neg_eq⟩

/-- A step of half a cent or more raises an amount in whole cents by half a cent at least, if there
is room for a tenth of a cent. -/
theorem half_cent_le_sum {amount step sum : Decimal} (short : amount.scale ≤ 2)
    (added : amount.add step = .ok sum) (half : 1 / 200 ≤ step.value) (nonneg : 0 ≤ amount.value)
    (room : amount.value + step.value < 10 ^ 25) : amount.value + 1 / 200 ≤ sum.value := by
  obtain ⟨cents, amount_eq⟩ := isCents_of_scale_le short
  by_cases fine : 3 ≤ max amount.scale step.scale
  · -- Half a cent above the amount is an amount of three places.
    have bound_eq : ((10 * cents + 5 : ℤ) / (tenTo 3 : ℕ) : ℚ) = amount.value + 1 / 200 := by
      rw [amount_eq]
      norm_num [tenTo]
      ring
    have cents_nonneg : (0 : ℚ) ≤ cents := by linarith
    have cents_lt : (cents : ℚ) < 10 ^ 27 := by linarith
    have cents_lower : 0 ≤ cents := by exact_mod_cast cents_nonneg
    have cents_upper : cents < 10 ^ 27 := by exact_mod_cast cents_lt
    have fits : (10 * cents + 5).natAbs < limit := by
      rw [limit_eq]
      omega
    have between := (le_of_sum?_eq_some (add_eq_ok.1 added)
      (ofCoeff (10 * cents + 5) 3 fits (by decide)) fine).1
    rw [value_ofCoeff, bound_eq] at between
    exact between (by linarith)
  · have wholeStep : step.IsCents := isCents_of_scale_le (by omega)
    have abs_lt : |amount.value + step.value| < centsLimit := by
      rw [abs_of_nonneg (by linarith), centsLimit]
      linarith
    obtain ⟨exact, added', -, exact_eq⟩ := add_of_isCents ⟨cents, amount_eq⟩ wholeStep abs_lt
    obtain rfl : exact = sum := Except.ok.inj (added'.symm.trans added)
    linarith

/-- A step in whole cents raises an amount past a whole number of cents, even if the amount is not in
whole cents and the sum is rounded. -/
theorem exists_cents_of_add {price step sum : Decimal} (wholeStep : step.IsCents)
    (nonneg : 0 ≤ price.value) (step_pos : 0 < step.value)
    (room : price.value + step.value < centsLimit) (added : price.add step = .ok sum) :
    ∃ whole : Decimal, whole.IsCents ∧ price < whole ∧ whole ≤ sum := by
  have abs_lt : |price.value + step.value| < centsLimit := by
    rwa [abs_of_nonneg (by linarith)]
  by_cases wholePrice : price.IsCents
  · obtain ⟨exact, added', wholeSum, exact_eq⟩ := add_of_isCents wholePrice wholeStep abs_lt
    obtain rfl : exact = sum := Except.ok.inj (added'.symm.trans added)
    refine ⟨exact, wholeSum, ?_, le_refl _⟩
    rw [lt_iff_value_lt, exact_eq]
    linarith
  · -- The cents below the price and those of the step together lie between the price and the sum.
    obtain ⟨cents, step_eq⟩ := wholeStep
    have fine : 2 < price.scale := Nat.lt_of_not_le fun short => wholePrice (isCents_of_scale_le short)
    have cents_pos : (0 : ℚ) < cents := by linarith
    have one_le : 1 ≤ cents := by exact_mod_cast cents_pos
    have one_le_cast : (1 : ℚ) ≤ cents := by exact_mod_cast one_le
    have floor_nonneg : (0 : ℚ) ≤ ⌊price.value * 100⌋ := by
      exact_mod_cast Int.floor_nonneg.2 (by linarith)
    have floor_le := Int.floor_le (price.value * 100)
    have lt_floor := Int.lt_floor_add_one (price.value * 100)
    generalize ⌊price.value * 100⌋ = below at *
    have whole_eq : ((below + cents : ℤ) / (tenTo 2 : ℕ) : ℚ) = (below + cents) / 100 := by
      norm_num [tenTo]
    have fits : (below + cents).natAbs < limit := by
      apply natAbs_lt_limit (Nat.le_refl 2)
      rw [whole_eq, abs_of_nonneg (by positivity)]
      linarith
    let whole := ofCoeff (below + cents) 2 fits (by decide)
    have value_eq : whole.value = (below + cents) / 100 := by
      rw [value_ofCoeff, whole_eq]
    refine ⟨whole, isCents_of_scale_le (Nat.le_refl 2), ?_, ?_⟩
    · rw [lt_iff_value_lt, value_eq]
      linarith
    · rw [le_iff_value_le]
      apply (le_of_sum?_eq_some (add_eq_ok.1 added) whole
        (Nat.le_trans (Nat.le_of_lt fine) (Nat.le_max_left _ _))).1
      rw [value_eq]
      linarith

end Decimal

end AuctionHouse
