import AuctionHouse.Visibility
import AuctionHouse.Proofs.Decimal.Overflow
import AuctionHouse.Proofs.Settlement

/-!
# When a buy-now offer can be judged

Whether the offer is shown follows from the part of the window that has passed, which is between
zero and one in hundredths (`timeFraction_bounds`), and from the threshold part of the buy-now
price.  The first needs a window of a millisecond or more, the second a product that an amount can
hold (`Item.Judgeable`).  Nothing else fails (`exists_buyNowVisible_iff`), and each of the two fails
with a fault of its own (`buyNowVisible_of_brief`, `buyNowVisible_of_overflow`).
-/

namespace AuctionHouse

namespace Decimal

theorem value_clamped (share : Decimal) :
    (min (max share zero) one).value = min (max share.value 0) 1 := by
  rw [value_min, value_max, value_zero, value_one]

/-- An amount of at most one, in hundredths, has at most a hundred of them. -/
theorem magnitude_le_hundred {amount : Decimal} (scale_le : amount.scale ≤ 2)
    (nonneg : zero ≤ amount) (le_one : amount ≤ one) : amount.magnitude ≤ 100 := by
  rw [le_iff_value_le, value_zero] at nonneg
  rw [le_iff_value_le, value_one] at le_one
  have magnitude_eq := abs_value amount
  rw [abs_of_nonneg nonneg] at magnitude_eq
  rw [magnitude_eq, div_le_one (tenTo_cast_pos _)] at le_one
  have bound : amount.magnitude ≤ tenTo amount.scale := by exact_mod_cast le_one
  exact Nat.le_trans bound (tenTo_le_tenTo scale_le)

end Decimal

/-- The whole milliseconds are none exactly if the moments are less than one apart. -/
theorem Instant.millisSince_eq_zero_iff {later earlier : Instant} :
    later.millisSince earlier = 0 ↔ (later.nanosSince earlier).natAbs < 1000000 := by
  rw [← Int.natAbs_eq_zero, millisSince, Int.natAbs_tdiv]
  exact Nat.div_eq_zero_iff_lt (by decide)

/-- Whether a window closes less than a millisecond after it opens. -/
def Window.Brief (window : Window) : Prop :=
  (window.closes.nanosSince window.opens).natAbs < 1000000

instance (window : Window) : Decidable window.Brief := inferInstanceAs (Decidable (_ < _))

namespace Stop

variable {α : Type} {answer : Except Fault α} {value : α}

theorem ofFault_eq_ok_iff : ofFault answer = .ok value ↔ answer = .ok value := by
  cases answer with
  | ok found => exact ⟨fun h => by cases h; rfl, fun h => by cases h; rfl⟩
  | error fault => exact ⟨nofun, nofun⟩

end Stop

namespace Item

variable {item : Item} {now : Instant} {fraction price : Decimal}

/-- The part of a well-formed window that has passed, before it is known whether there is one. -/
theorem timeFraction_eq_ok_iff (formed : item.window.WellFormed) :
    item.timeFraction now = .ok fraction ↔ ∃ share,
      (item.window.opens.elapsed now).divInt
        (item.window.closes.millisSince item.window.opens) = .ok share ∧
      fraction = (min (max share .zero) .one).roundCents := by
  unfold timeFraction
  simp only [formed, not_true_eq_false, if_false]
  rw [bind_eq_ok_iff]
  constructor
  · rintro ⟨share, divided, rounded⟩
    cases rounded
    exact ⟨share, Stop.ofFault_eq_ok_iff.1 divided, rfl⟩
  · rintro ⟨share, divided, rfl⟩
    exact ⟨share, Stop.ofFault_eq_ok_iff.2 divided, rfl⟩

/-- The part of the window that has passed is between zero and one, in hundredths. -/
theorem timeFraction_bounds (formed : item.window.WellFormed)
    (passed : item.timeFraction now = .ok fraction) :
    .zero ≤ fraction ∧ fraction ≤ .one ∧ fraction.scale ≤ 2 := by
  obtain ⟨share, -, rfl⟩ := (timeFraction_eq_ok_iff formed).1 passed
  have one_whole : Decimal.one.IsCents := Decimal.isCents_of_scale_le (Nat.zero_le 2)
  refine ⟨?_, ?_, Decimal.scale_roundCents_le _⟩
  · apply Decimal.le_roundCents Decimal.isCents_zero
    rw [Decimal.le_iff_value_le, Decimal.value_clamped, Decimal.value_zero]
    exact le_min (le_max_right _ _) zero_le_one
  · exact Decimal.roundCents_le one_whole (Decimal.min_le_right _ _)

/-- The part of a window that has passed is computed exactly if the window has milliseconds. -/
theorem exists_timeFraction_iff (formed : item.window.WellFormed) :
    (∃ fraction, item.timeFraction now = .ok fraction) ↔
      item.window.closes.millisSince item.window.opens ≠ 0 := by
  constructor
  · rintro ⟨fraction, passed⟩ none_last
    obtain ⟨share, divided, -⟩ := (timeFraction_eq_ok_iff formed).1 passed
    rw [Decimal.divInt_eq_error_iff.2 ⟨none_last, rfl⟩] at divided
    cases divided
  · intro lasts
    cases divided : (item.window.opens.elapsed now).divInt
      (item.window.closes.millisSince item.window.opens) with
    | error fault => exact absurd (Decimal.divInt_eq_error_iff.1 divided).1 lasts
    | ok share => exact ⟨_, (timeFraction_eq_ok_iff formed).2 ⟨share, divided, rfl⟩⟩

/-- Whether the threshold in time has been reached is always computed, and exactly. -/
theorem isLate_eq (formed : item.window.WellFormed)
    (passed : item.timeFraction now = .ok fraction) :
    item.isLate fraction = .ok (decide (item.thresholdPercent.value ≤ 100 * fraction.value)) := by
  obtain ⟨nonneg, le_one, scale_le⟩ := timeFraction_bounds formed passed
  have magnitude_le := Decimal.magnitude_le_hundred scale_le nonneg le_one
  have fits : fraction.magnitude * Decimal.hundred.magnitude < Decimal.limit :=
    Nat.lt_of_le_of_lt (Nat.mul_le_mul_right _ magnitude_le) (by decide)
  have places : fraction.scale + Decimal.hundred.scale ≤ Decimal.maxScale :=
    Nat.le_trans scale_le (by decide)
  obtain ⟨percent, multiplied, percent_eq⟩ := Decimal.mul_of_fits fits places
  rw [Decimal.value_hundred, mul_comm] at percent_eq
  refine bind_eq_ok_iff.2 ⟨percent, multiplied, ?_⟩
  simp only [Decimal.le_iff_value_le, percent_eq]
  rfl

/-- Whether a price has come close to the buy-now price is computed exactly if there is none or an
amount can hold its product with the threshold. -/
theorem exists_isCloseToBuyNow_iff : (∃ close, item.isCloseToBuyNow price = .ok close) ↔
    (item.buyNow?.isSome →
      ∃ product, item.buyNowPrice.mul item.thresholdPercent = .ok product) := by
  unfold isCloseToBuyNow Decimal.percentOf
  split
  · next offered =>
    simp only [offered, true_implies]
    constructor
    · rintro ⟨close, computed⟩
      obtain ⟨part, parted, -⟩ := bind_eq_ok_iff.1 computed
      obtain ⟨product, multiplied, -⟩ := bind_eq_ok_iff.1 parted
      exact ⟨product, multiplied⟩
    · rintro ⟨product, multiplied⟩
      cases divided : product.divInt 100 with
      | error fault => exact absurd (Decimal.divInt_eq_error_iff.1 divided).1 (by decide)
      | ok part =>
        exact ⟨_, bind_eq_ok_iff.2 ⟨part, bind_eq_ok_iff.2 ⟨product, multiplied, divided⟩, rfl⟩⟩
  · next not_offered => exact ⟨fun _ offered => absurd offered not_offered, fun _ => ⟨false, rfl⟩⟩

/-- The terms on which an offer to buy at once can be judged: the window lasts for a millisecond,
and the threshold part of the buy-now price can be computed if it is asked for. -/
structure Judgeable (item : Item) : Prop where
  lasts : item.window.closes.millisSince item.window.opens ≠ 0
  part : item.instantOnly = false → item.buyNow?.isSome →
    ∃ product, item.buyNowPrice.mul item.thresholdPercent = .ok product

/-- An offer of an item that is open to bids is shown as long as neither the time nor the price has
come close. -/
theorem buyNowVisible_eq_ok_iff (bids : item.instantOnly = false) {visible : Bool} :
    item.buyNowVisible now price = .ok visible ↔ ∃ fraction late close,
      item.timeFraction now = .ok fraction ∧ item.isLate fraction = .ok late ∧
      item.isCloseToBuyNow price = .ok close ∧ visible = !(late || close) := by
  unfold buyNowVisible
  simp only [bids, Bool.false_eq_true, if_false, bind_eq_ok_iff, Stop.ofFault_eq_ok_iff]
  constructor
  · rintro ⟨fraction, passed, late, judged, close, closed, answered⟩
    exact ⟨fraction, late, close, passed, judged, closed, (Except.ok.inj answered).symm⟩
  · rintro ⟨fraction, late, close, passed, judged, closed, rfl⟩
    exact ⟨fraction, passed, late, judged, close, closed, rfl⟩

/-- Whether an offer is shown is computed exactly if it can be judged, at every time and price. -/
theorem exists_buyNowVisible_iff (formed : item.window.WellFormed) (now : Instant)
    (price : Decimal) :
    (∃ visible, item.buyNowVisible now price = .ok visible) ↔ item.Judgeable := by
  cases instant : item.instantOnly with
  | true =>
    have judged : item.Judgeable ↔ ∃ fraction, item.timeFraction now = .ok fraction := by
      rw [exists_timeFraction_iff formed]
      exact ⟨Judgeable.lasts, fun lasts => ⟨lasts, fun bids => by simp [bids] at instant⟩⟩
    rw [judged]
    unfold buyNowVisible
    simp only [instant, if_true, bind_eq_ok_iff]
    exact ⟨fun ⟨_, fraction, passed, _⟩ => ⟨fraction, passed⟩,
      fun ⟨fraction, passed⟩ => ⟨true, fraction, passed, rfl⟩⟩
  | false =>
    simp only [buyNowVisible_eq_ok_iff instant]
    constructor
    · rintro ⟨visible, fraction, late, close, passed, -, closed, -⟩
      exact ⟨(exists_timeFraction_iff formed).1 ⟨fraction, passed⟩,
        fun _ => exists_isCloseToBuyNow_iff.1 ⟨close, closed⟩⟩
    · rintro ⟨lasts, part⟩
      obtain ⟨fraction, passed⟩ : ∃ fraction, item.timeFraction now = .ok fraction :=
        (exists_timeFraction_iff formed).2 lasts
      obtain ⟨close, closed⟩ : ∃ close, item.isCloseToBuyNow price = .ok close :=
        exists_isCloseToBuyNow_iff.2 (part instant)
      exact ⟨_, fraction, _, close, passed, isLate_eq formed passed, closed, rfl⟩

/-- Whether the threshold part of the buy-now price is asked for and its product is too large. -/
def PartOverflows (item : Item) : Prop :=
  item.instantOnly = false ∧ item.buyNow?.isSome ∧
    item.buyNowPrice.ProductOverflows item.thresholdPercent

/-- An offer can be judged exactly if the window is not brief and no product is too large. -/
theorem judgeable_iff : item.Judgeable ↔ ¬ item.window.Brief ∧ ¬ item.PartOverflows := by
  constructor
  · rintro ⟨lasts, part⟩
    refine ⟨fun brief => lasts (Instant.millisSince_eq_zero_iff.2 brief), ?_⟩
    rintro ⟨not_instant, offered, overflows⟩
    obtain ⟨product, multiplied⟩ := part not_instant offered
    rw [Decimal.mul_eq_error_iff.2 ⟨rfl, overflows⟩] at multiplied
    cases multiplied
  · rintro ⟨lasts, no_overflow⟩
    refine ⟨fun none => lasts (Instant.millisSince_eq_zero_iff.1 none), ?_⟩
    intro not_instant offered
    cases multiplied : item.buyNowPrice.mul item.thresholdPercent with
    | ok product => exact ⟨product, rfl⟩
    | error fault =>
      exact absurd ⟨not_instant, offered, (Decimal.mul_eq_error_iff.1 multiplied).2⟩ no_overflow

/-- In a brief window no part has passed. -/
theorem timeFraction_of_brief (formed : item.window.WellFormed) (brief : item.window.Brief)
    (now : Instant) : item.timeFraction now = .error (.faulted .divisionByZero) := by
  have divided : (item.window.opens.elapsed now).divInt
      (item.window.closes.millisSince item.window.opens) = .error .divisionByZero :=
    Decimal.divInt_eq_error_iff.2 ⟨Instant.millisSince_eq_zero_iff.2 brief, rfl⟩
  unfold timeFraction
  simp only [formed, not_true_eq_false, if_false]
  rw [divided]
  rfl

theorem buyNowVisible_of_brief (formed : item.window.WellFormed) (brief : item.window.Brief)
    (now : Instant) (price : Decimal) :
    item.buyNowVisible now price = .error (.faulted .divisionByZero) := by
  unfold buyNowVisible
  rw [timeFraction_of_brief formed brief]
  rfl

/-- Only after the time has been judged, the product is found to be too large. -/
theorem buyNowVisible_of_overflow (formed : item.window.WellFormed) (lasts : ¬ item.window.Brief)
    (overflows : item.PartOverflows) (now : Instant) (price : Decimal) :
    item.buyNowVisible now price = .error (.faulted .productTooLarge) := by
  obtain ⟨not_instant, offered, overflows⟩ := overflows
  obtain ⟨fraction, passed⟩ : ∃ fraction, item.timeFraction now = .ok fraction :=
    (exists_timeFraction_iff formed).2 fun none => lasts (Instant.millisSince_eq_zero_iff.1 none)
  have multiplied := Decimal.mul_eq_error_iff.2 ⟨rfl, overflows⟩
  have close : item.isCloseToBuyNow price = .error .productTooLarge := by
    unfold isCloseToBuyNow Decimal.percentOf
    rw [if_pos offered, multiplied]
    rfl
  unfold buyNowVisible
  rw [passed]
  simp only [bind, Except.bind, not_instant, isLate_eq formed passed, close, Stop.ofFault,
    Bool.false_eq_true, if_false]

end Item

end AuctionHouse
