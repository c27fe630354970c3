import AuctionHouse.Decimal.Quotient
import AuctionHouse.Proofs.Decimal.Sum

/-!
# The order of quotients

A quotient is developed in steps of nine digits and loses zeros afterwards.  None of this shows in
its value, which is that of the nearest amount of 28 places (`value_of_divInt`).  Rounding keeps the
order of what is rounded, also where it gives up places (`nearest_le_nearest`), so dividing by a
number above zero keeps the order of amounts (`divInt_le_divInt`).
-/

namespace AuctionHouse

/-- Rounding keeps the order of quotients. -/
theorem roundQuotient_le_roundQuotient (tie : Tie) {num den num' den' : Nat} (pos : 0 < den)
    (pos' : 0 < den') (le : num * den' ≤ num' * den) :
    roundQuotient tie num den ≤ roundQuotient tie num' den' := by
  have floor_le : num / den ≤ num' / den' := by
    rw [Nat.le_div_iff_mul_le pos']
    apply Nat.le_of_mul_le_mul_right _ pos
    calc num / den * den' * den = num / den * den * den' := by ring
      _ ≤ num * den' := Nat.mul_le_mul_right _ (Nat.div_mul_le_self num den)
      _ ≤ num' * den := le
  rcases Nat.lt_or_eq_of_le floor_le with less | same
  · calc roundQuotient tie num den ≤ num / den + 1 := roundQuotient_le_succ ..
      _ ≤ num' / den' := less
      _ ≤ roundQuotient tie num' den' := div_le_roundQuotient ..
  · -- Of one whole part, the rests decide.
    have rest_le : num % den * den' ≤ num' % den' * den := by
      rw [← Nat.div_add_mod' num den, ← Nat.div_add_mod' num' den', same] at le
      have regroup : num' / den' * den * den' = num' / den' * den' * den := by ring
      rw [Nat.add_mul, Nat.add_mul] at le
      omega
    have half (reached : den ≤ 2 * (num % den)) : den' ≤ 2 * (num' % den') := by
      apply Nat.le_of_mul_le_mul_right _ pos
      have scaled := Nat.mul_le_mul_right den' reached
      rw [Nat.mul_assoc, Nat.mul_comm den] at scaled
      rw [Nat.mul_assoc]
      omega
    have above (passed : den < 2 * (num % den)) : den' < 2 * (num' % den') := by
      apply Nat.lt_of_mul_lt_mul_right (a := den)
      have scaled := Nat.mul_lt_mul_of_pos_right passed pos'
      rw [Nat.mul_assoc, Nat.mul_comm den] at scaled
      rw [Nat.mul_assoc]
      omega
    unfold roundQuotient
    rw [same]
    grind

namespace Decimal

theorem scale_nearest_le {num : Int} {den : Nat}
    (fits : roundQuotient .toEven num.natAbs den < limit) {top : Nat} (h : top ≤ maxScale) :
    (nearest num den fits top h).scale ≤ top := by
  induction top with
  | zero => exact Nat.le_refl 0
  | succ below ih =>
    rw [nearest]
    split
    · exact Nat.le_refl _
    · exact Nat.le_succ_of_le (ih _)

section Order

variable {num num' : Int} {den den' : Nat} (pos : 0 < den) (pos' : 0 < den')
variable (fits : roundQuotient .toEven num.natAbs den < limit)
variable (fits' : roundQuotient .toEven num'.natAbs den' < limit)
variable {top : Nat} (h : top ≤ maxScale)

include pos pos' in
/-- The greater of two quotients keeps as many places as the other or less. -/
theorem scale_nearest_anti (le : num.natAbs * den' ≤ num'.natAbs * den) :
    (nearest num' den' fits' top h).scale ≤ (nearest num den fits top h).scale := by
  by_contra finer
  obtain ⟨-, -, full⟩ := nearest_spec fits h
  obtain ⟨magnitude_eq, -, -⟩ := nearest_spec fits' h
  have scale_le := scale_nearest_le fits' h
  have magnitude_lt := (nearest num' den' fits' top h).magnitude_lt
  generalize (nearest num' den' fits' top h).scale = scale at *
  have big := full scale scale_le (Nat.lt_of_not_le finer)
  have grown : roundQuotient .toEven (num.natAbs * tenTo scale) den ≤
      roundQuotient .toEven (num'.natAbs * tenTo scale) den' := by
    apply roundQuotient_le_roundQuotient _ pos pos'
    calc num.natAbs * tenTo scale * den' = num.natAbs * den' * tenTo scale := by ring
      _ ≤ num'.natAbs * den * tenTo scale := Nat.mul_le_mul_right _ le
      _ = num'.natAbs * tenTo scale * den := by ring
  omega

include pos pos' in
/-- Without their signs, the nearest amounts of quotients are ordered as the quotients. -/
theorem abs_nearest_le_abs_nearest (le : num.natAbs * den' ≤ num'.natAbs * den) :
    |(nearest num den fits top h).value| ≤ |(nearest num' den' fits' top h).value| := by
  have scale_le := scale_nearest_anti pos pos' fits fits' h le
  obtain ⟨magnitude_eq, -, -⟩ := nearest_spec fits h
  obtain ⟨magnitude_eq', -, full'⟩ := nearest_spec fits' h
  have scale_le_top := scale_nearest_le fits h
  generalize nearest num den fits top h = low at *
  generalize nearest num' den' fits' top h = high at *
  rw [abs_value, abs_value, div_le_div_iff₀ (tenTo_cast_pos _) (tenTo_cast_pos _)]
  suffices low.magnitude * tenTo high.scale ≤ high.magnitude * tenTo low.scale by
    exact_mod_cast this
  rcases Nat.lt_or_eq_of_le scale_le with coarser | same
  · -- The greater amount had to give up a place, so it has all the digits there are.
    have big := full' (high.scale + 1) (by omega) (Nat.lt_succ_self _)
    rw [tenTo_succ, Nat.mul_left_comm] at big
    have limit_le := limit_le_ten_mul_roundQuotient pos' big
    rw [← magnitude_eq'] at limit_le
    calc low.magnitude * tenTo high.scale
        ≤ 10 * high.magnitude * tenTo high.scale :=
          Nat.mul_le_mul_right _ (Nat.le_of_lt (Nat.lt_of_lt_of_le low.magnitude_lt limit_le))
      _ = high.magnitude * tenTo (high.scale + 1) := by rw [tenTo_succ]; ring
      _ ≤ high.magnitude * tenTo low.scale := Nat.mul_le_mul_left _ (tenTo_le_tenTo coarser)
  · rw [same, magnitude_eq, magnitude_eq', same]
    apply Nat.mul_le_mul_right
    apply roundQuotient_le_roundQuotient _ pos pos'
    calc num.natAbs * tenTo low.scale * den' = num.natAbs * den' * tenTo low.scale := by ring
      _ ≤ num'.natAbs * den * tenTo low.scale := Nat.mul_le_mul_right _ le
      _ = num'.natAbs * tenTo low.scale * den := by ring

include pos pos' in
/-- The nearest amounts of quotients are ordered as the quotients. -/
theorem nearest_le_nearest (le : (num / den : ℚ) ≤ num' / den') :
    nearest num den fits top h ≤ nearest num' den' fits' top h := by
  rw [div_le_div_iff₀ (by exact_mod_cast pos) (by exact_mod_cast pos')] at le
  have products : num * den' ≤ num' * den := by exact_mod_cast le
  rw [le_iff_value_le]
  rcases Int.lt_or_le num 0 with neg | nonneg
  · rcases Int.lt_or_le num' 0 with neg' | nonneg'
    · have magnitudes : num'.natAbs * den ≤ num.natAbs * den' := by
        zify
        rw [abs_of_neg neg, abs_of_neg neg']
        linarith
      have := abs_nearest_le_abs_nearest pos' pos fits' fits h magnitudes
      rw [abs_of_nonpos (nearest_nonpos fits h neg),
        abs_of_nonpos (nearest_nonpos fits' h neg')] at this
      linarith
    · exact le_trans (nearest_nonpos fits h neg) (nearest_nonneg fits' h nonneg')
  · have nonneg' : 0 ≤ num' := by
      have product_nonneg : 0 ≤ num * (den' : ℤ) := Int.mul_nonneg nonneg (Int.natCast_nonneg _)
      exact Int.nonneg_of_mul_nonneg_left (product_nonneg.trans products) (by exact_mod_cast pos)
    have magnitudes : num.natAbs * den' ≤ num'.natAbs * den := by
      zify
      rwa [abs_of_nonneg nonneg, abs_of_nonneg nonneg']
    have := abs_nearest_le_abs_nearest pos pos' fits fits' h magnitudes
    rwa [abs_of_nonneg (nearest_nonneg fits h nonneg),
      abs_of_nonneg (nearest_nonneg fits' h nonneg')] at this

end Order

/-- A magnitude gets the sign of the number that it is a multiple of. -/
theorem withSign_mul {num : Int} {magnitude den factor : Nat}
    (eq : num.natAbs * factor = den * magnitude) :
    withSign (num < 0) magnitude * den = num * factor := by
  zify at eq
  rcases Int.lt_or_le num 0 with neg | nonneg
  · rw [abs_of_neg neg] at eq
    simp only [withSign, neg, decide_true, if_true]
    linarith
  · rw [abs_of_nonneg nonneg] at eq
    simp only [withSign, Int.not_lt.2 nonneg, decide_false, Bool.false_eq_true, if_false]
    linarith

section Exact

variable {num : Int} {den : Nat} (pos : 0 < den)
variable (fits : roundQuotient .toEven num.natAbs den < limit)
variable {top : Nat} (h : top ≤ maxScale)

include pos in
/-- A quotient that comes out even in some places has the same value in more of them. -/
theorem value_nearest_of_dvd {places : Nat} (le : places ≤ top)
    (even : den ∣ num.natAbs * tenTo places) :
    (nearest num den fits top h).value =
      (nearest num den fits places (Nat.le_trans le h)).value := by
  induction top with
  | zero =>
    obtain rfl : places = 0 := Nat.le_zero.1 le
    rfl
  | succ below ih =>
    rcases Nat.lt_or_eq_of_le le with less | rfl
    · by_cases here : roundQuotient .toEven (num.natAbs * tenTo (below + 1)) den < limit
      · -- What fits with more places fits with these, and is the quotient itself.
        obtain ⟨magnitude, magnitude_eq⟩ := even
        have magnitude_lt : magnitude < limit := by
          refine Nat.lt_of_le_of_lt (le_roundQuotient .toEven pos ?_) here
          rw [Nat.mul_comm, ← magnitude_eq]
          exact Nat.mul_le_mul_left _ (tenTo_le_tenTo le)
        let exact := ofCoeff (withSign (num < 0) magnitude) places (by simpa using magnitude_lt)
          (Nat.le_trans le h)
        have exact_eq : exact.value = num / den := by
          rw [value_ofCoeff, div_eq_div_iff (tenTo_cast_pos _).ne' (by exact_mod_cast pos.ne')]
          exact_mod_cast withSign_mul magnitude_eq
        exact (value_nearest_of_exact pos fits h le exact_eq).trans
          (value_nearest_of_exact pos fits (Nat.le_trans le h) (Nat.le_refl _) exact_eq).symm
      · rw [nearest]
        simp only [dif_neg here]
        exact ih (Nat.le_of_succ_le h) (Nat.lt_succ_iff.1 less)
    · rfl

end Exact

/-- A coefficient that is divided without a rest. -/
theorem value_ofCoeff_ediv {coeff : Int} {divisor scale : Nat} (pos : 0 < divisor)
    (even : coeff % divisor = 0) (fits : (coeff / divisor : ℤ).natAbs < limit)
    (le : scale ≤ maxScale) :
    (ofCoeff (coeff / divisor) scale fits le).value = coeff / (divisor * tenTo scale : ℕ) := by
  have divisor_ne : ((divisor : ℤ) : ℚ) ≠ 0 := by exact_mod_cast pos.ne'
  rw [value_ofCoeff, Int.cast_div (Int.dvd_of_emod_eq_zero even) divisor_ne, div_div,
    Int.cast_natCast, Nat.cast_mul]

/-- Taking away zeros keeps the value. -/
theorem value_dropZeros (count : Nat) (allowed : Int → Bool) (amount : Decimal) :
    (dropZeros count allowed amount).value = amount.value := by
  unfold dropZeros
  split
  · next zeros =>
    obtain ⟨short, -, none_lost⟩ := zeros
    rw [value_ofCoeff_ediv (tenTo_pos count) none_lost, ← tenTo_add, Nat.add_sub_cancel' short,
      value]
  · rfl

theorem value_dropZeroGroups (amount : Decimal) :
    (dropZeroGroups amount).value = amount.value := by
  simp only [dropZeroGroups, value_dropZeros]

/-- As many digits are developed as make the quotient even, or as there may be. -/
theorem furtherPlaces_spec (amount : Decimal) (divisor : Nat) :
    amount.furtherPlaces divisor ≤ maxScale - amount.scale ∧
      ((divisor : ℤ) ∣ amount.coeff * tenTo (amount.furtherPlaces divisor) ∨
        amount.furtherPlaces divisor = maxScale - amount.scale) := by
  unfold furtherPlaces
  simp only
  cases found : List.find? _ _ with
  | none => exact ⟨Nat.le_refl _, .inr rfl⟩
  | some places =>
    have member := List.mem_of_find?_eq_some found
    have even := List.find?_some found
    simp only [List.mem_filter, decide_eq_true_eq] at member even
    exact ⟨member.2, .inl (Int.dvd_of_emod_eq_zero even)⟩

/-- A quotient has the value of the nearest amount of 28 places. -/
theorem value_divPos (amount : Decimal) {divisor : Nat} (pos : 0 < divisor) :
    ∃ fits, (divPos amount divisor pos).value =
      (nearest amount.coeff (divisor * tenTo amount.scale) fits maxScale
        (Nat.le_refl _)).value := by
  have den_pos := Nat.mul_pos pos (tenTo_pos amount.scale)
  refine ⟨Nat.lt_of_le_of_lt (roundQuotient_le_self _ den_pos) amount.coeff_lt, ?_⟩
  unfold divPos
  split
  · next even =>
    have exact_eq := value_ofCoeff_ediv pos even
      (Nat.lt_of_le_of_lt (Int.natAbs_ediv_le_natAbs ..) amount.coeff_lt) amount.scale_le
    refine (value_nearest_of_exact den_pos _ _ ?_ exact_eq).symm
    exact amount.scale_le
  · rw [value_dropZeroGroups]
    obtain ⟨further_le, even | all⟩ := furtherPlaces_spec amount divisor
    · symm
      apply value_nearest_of_dvd den_pos _ _ (Nat.min_le_right _ _)
      have fine := amount.scale_le
      rw [Nat.min_eq_left (by omega), tenTo_add, Nat.mul_comm (tenTo amount.scale),
        ← Nat.mul_assoc]
      apply Nat.mul_dvd_mul_right
      have := Int.natAbs_dvd_natAbs.2 even
      rwa [Int.natAbs_mul, Int.natAbs_natCast, Int.natAbs_natCast] at this
    · have fine := amount.scale_le
      have top_eq : min (amount.scale + amount.furtherPlaces divisor) maxScale = maxScale := by
        omega
      simp only [top_eq]

section Divide

variable {amount quotient bound a b low high : Decimal} {divisor : Int} (pos : 0 < divisor)

include pos in
theorem scaledDivisor_pos (amount : Decimal) : 0 < divisor.natAbs * tenTo amount.scale :=
  Nat.mul_pos (Int.natAbs_pos.2 pos.ne') (tenTo_pos _)

include pos in
theorem value_of_divInt (divided : amount.divInt divisor = .ok quotient) :
    ∃ fits, quotient.value =
      (nearest amount.coeff (divisor.natAbs * tenTo amount.scale) fits maxScale
        (Nat.le_refl _)).value := by
  unfold divInt at divided
  rw [dif_neg pos.ne'] at divided
  split at divided
  · next nothing =>
    obtain rfl := Except.ok.inj divided
    have den_pos := scaledDivisor_pos pos amount
    refine ⟨Nat.lt_of_le_of_lt (roundQuotient_le_self _ den_pos) amount.coeff_lt, ?_⟩
    symm
    apply value_nearest_of_exact den_pos _ _ zero.scale_le
    rw [value_zero, nothing, Int.cast_zero, zero_div]
  · simp only [Int.not_lt.2 pos.le, if_false] at divided
    obtain rfl := Except.ok.inj divided
    exact value_divPos amount (Int.natAbs_pos.2 pos.ne')

include pos in
/-- The quotient of the values as the one that is rounded. -/
theorem value_div_eq_quotient (amount : Decimal) :
    (amount.coeff / (divisor.natAbs * tenTo amount.scale : ℕ) : ℚ) = amount.value / divisor := by
  have divisor_eq : (divisor.natAbs : ℚ) = divisor := by
    rw [Nat.cast_natAbs, abs_of_pos pos]
  rw [value, div_div, Nat.cast_mul, divisor_eq, mul_comm (tenTo amount.scale : ℚ)]

include pos in
/-- Dividing by a number above zero keeps the order. -/
theorem divInt_le_divInt (le : a ≤ b) (divided : a.divInt divisor = .ok low)
    (divided' : b.divInt divisor = .ok high) : low ≤ high := by
  obtain ⟨fits, low_eq⟩ := value_of_divInt pos divided
  obtain ⟨fits', high_eq⟩ := value_of_divInt pos divided'
  rw [le_iff_value_le, low_eq, high_eq, ← le_iff_value_le]
  apply nearest_le_nearest (scaledDivisor_pos pos a) (scaledDivisor_pos pos b)
  rw [value_div_eq_quotient pos, value_div_eq_quotient pos]
  exact div_le_div_of_nonneg_right (le_iff_value_le.1 le) (by exact_mod_cast pos.le)

include pos in
/-- A quotient that is not below an amount is not rounded below it. -/
theorem le_of_divInt (divided : amount.divInt divisor = .ok quotient)
    (le : bound.value ≤ amount.value / divisor) : bound ≤ quotient := by
  obtain ⟨fits, eq⟩ := value_of_divInt pos divided
  rw [le_iff_value_le, eq]
  apply le_value_nearest (scaledDivisor_pos pos amount) _ _ _ bound.scale_le
  rwa [value_div_eq_quotient pos]

include pos in
/-- A quotient that is not above an amount is not rounded above it. -/
theorem divInt_le (divided : amount.divInt divisor = .ok quotient)
    (le : amount.value / divisor ≤ bound.value) : quotient ≤ bound := by
  obtain ⟨fits, eq⟩ := value_of_divInt pos divided
  rw [le_iff_value_le, eq]
  apply value_nearest_le (scaledDivisor_pos pos amount) _ _ _ bound.scale_le
  rwa [value_div_eq_quotient pos]

end Divide

end Decimal

end AuctionHouse
