import AuctionHouse.Proofs.Decimal.Quotient
import AuctionHouse.Proofs.House.Run
import AuctionHouse.Proofs.Instant.Clock
import AuctionHouse.Proofs.Validation
import AuctionHouse.Proofs.Visibility

/-!
# Offers that are hidden for good

The part of a window that has passed is a difference of moments, cut to milliseconds, divided,
clamped and rounded.  Each of these keeps the order, so the part grows with time, from zero at the
opening to one at the close.  An offer to buy at once is shown as long as the part is below the
threshold and the price below its part of the buy-now price (`Item.ShownAfter`).  So what is hidden
is hidden at every later moment and higher price (`Item.offer_stays_hidden`).
-/

namespace AuctionHouse

theorem Instant.value_elapsed (earlier later : Instant) :
    (earlier.elapsed later).value = later.millisSince earlier := by
  rw [elapsed, Decimal.value_ofCoeff, tenTo_zero, Nat.cast_one, div_one]

namespace Item

variable {item : Item} {now earlier later : Instant} {fraction first second price : Decimal}

/-- Whether an offer to buy at once is shown when a part of the window has passed and at a price. -/
def ShownAfter (item : Item) (part : ℚ) (price : Decimal) : Prop :=
  100 * part < item.thresholdPercent.value ∧
    (item.buyNow?.isSome → ∀ threshold,
      item.buyNowPrice.percentOf item.thresholdPercent = .ok threshold → price < threshold)

theorem ShownAfter.mono {part part' : ℚ} {price' : Decimal} (shown : item.ShownAfter part' price')
    (part_le : part ≤ part') (price_le : price ≤ price') : item.ShownAfter part price := by
  obtain ⟨early, below⟩ := shown
  refine ⟨by linarith, fun offered threshold parted => ?_⟩
  exact lt_of_le_of_lt price_le (below offered threshold parted)

/-- After the whole of the window no offer is shown, as the threshold is a hundred percent or
less. -/
theorem not_shownAfter_one (sound : item.problems = []) : ¬ item.ShownAfter 1 price := by
  rintro ⟨early, -⟩
  have in_range := not_affects_of_problems_eq_nil sound .thresholdOutOfRange
  have le_hundred := Decimal.not_lt.1 (not_or.1 in_range).2
  rw [Decimal.le_iff_value_le, Decimal.value_hundred] at le_hundred
  linarith

theorem isCloseToBuyNow_eq_false_iff {close : Bool}
    (judged : item.isCloseToBuyNow price = .ok close) :
    close = false ↔ (item.buyNow?.isSome → ∀ threshold,
      item.buyNowPrice.percentOf item.thresholdPercent = .ok threshold → price < threshold) := by
  unfold isCloseToBuyNow at judged
  split at judged
  · next offered =>
    obtain ⟨threshold, parted, answered⟩ := bind_eq_ok_iff.1 judged
    obtain rfl := Except.ok.inj answered
    rw [decide_eq_false_iff_not, Decimal.not_le]
    constructor
    · intro below _ threshold' parted'
      obtain rfl := Except.ok.inj (parted.symm.trans parted')
      exact below
    · intro below
      exact below offered threshold parted
  · next not_offered =>
    obtain rfl := Except.ok.inj judged
    exact iff_of_true rfl fun offered => absurd offered not_offered

/-- The time decides over an offer only by the part of the window that has passed. -/
theorem buyNowVisible_iff (formed : item.window.WellFormed) (bids : item.instantOnly = false)
    (passed : item.timeFraction now = .ok fraction) {visible : Bool}
    (judged : item.buyNowVisible now price = .ok visible) :
    visible = true ↔ item.ShownAfter fraction.value price := by
  obtain ⟨fraction', late, close, passed', judgedLate, judgedClose, rfl⟩ :=
    (buyNowVisible_eq_ok_iff bids).1 judged
  obtain rfl := Except.ok.inj (passed'.symm.trans passed)
  obtain rfl := Except.ok.inj (judgedLate.symm.trans (isLate_eq formed passed))
  rw [ShownAfter, ← isCloseToBuyNow_eq_false_iff judgedClose, Bool.not_eq_true',
    Bool.or_eq_false_iff, decide_eq_false_iff_not, not_le]

section Window

variable (formed : item.window.WellFormed)
variable (lasts : 0 < item.window.closes.millisSince item.window.opens)
variable (passed : item.timeFraction now = .ok fraction)

include formed lasts in
/-- The part of the window that has passed is not less the more milliseconds have. -/
theorem timeFraction_le (passed : item.timeFraction earlier = .ok first)
    (passed' : item.timeFraction later = .ok second)
    (le : earlier.millisSince item.window.opens ≤ later.millisSince item.window.opens) :
    first ≤ second := by
  obtain ⟨share, divided, rfl⟩ := (timeFraction_eq_ok_iff formed).1 passed
  obtain ⟨share', divided', rfl⟩ := (timeFraction_eq_ok_iff formed).1 passed'
  have elapsed_le : item.window.opens.elapsed earlier ≤ item.window.opens.elapsed later := by
    rw [Decimal.le_iff_value_le, Instant.value_elapsed, Instant.value_elapsed]
    exact_mod_cast le
  have share_le :=
    Decimal.le_iff_value_le.1 (Decimal.divInt_le_divInt lasts elapsed_le divided divided')
  apply Decimal.roundCents_le_roundCents
  rw [Decimal.le_iff_value_le, Decimal.value_clamped, Decimal.value_clamped]
  exact min_le_min_right _ (max_le_max_right _ share_le)

include formed lasts passed in
/-- Before the opening no part of the window has passed. -/
theorem value_timeFraction_of_opening (early : now.millisSince item.window.opens ≤ 0) :
    fraction.value = 0 := by
  obtain ⟨share, divided, rfl⟩ := (timeFraction_eq_ok_iff formed).1 passed
  have share_le : share ≤ .zero := by
    apply Decimal.divInt_le lasts divided
    rw [Instant.value_elapsed, Decimal.value_zero]
    exact div_nonpos_of_nonpos_of_nonneg (by exact_mod_cast early) (by exact_mod_cast lasts.le)
  rw [Decimal.le_iff_value_le, Decimal.value_zero] at share_le
  have clamped : (min (max share .zero) .one).value = 0 := by
    rw [Decimal.value_clamped, max_eq_right share_le]
    exact min_eq_left zero_le_one
  have whole : (min (max share .zero) .one).IsCents := ⟨0, by rw [clamped]; norm_num⟩
  rw [Decimal.value_roundCents whole, clamped]

include formed lasts passed in
/-- After the close all of the window has passed. -/
theorem value_timeFraction_of_close
    (late : item.window.closes.millisSince item.window.opens ≤ now.millisSince item.window.opens) :
    fraction.value = 1 := by
  obtain ⟨share, divided, rfl⟩ := (timeFraction_eq_ok_iff formed).1 passed
  have le_share : Decimal.one ≤ share := by
    apply Decimal.le_of_divInt lasts divided
    rw [Instant.value_elapsed, Decimal.value_one, one_le_div (by exact_mod_cast lasts)]
    exact_mod_cast late
  rw [Decimal.le_iff_value_le, Decimal.value_one] at le_share
  have clamped : (min (max share .zero) .one).value = 1 := by
    rw [Decimal.value_clamped]
    exact min_eq_right (le_max_of_le_left le_share)
  have whole : (min (max share .zero) .one).IsCents := ⟨100, by rw [clamped]; norm_num⟩
  rw [Decimal.value_roundCents whole, clamped]

end Window

/-- How the offer of an item fades from one moment to a later one, when the parts `first` and
`second` of its window have passed. -/
structure Fading (item : Item) (earlier later : Instant) (first second : Decimal) : Prop where
  passed : item.timeFraction earlier = .ok first
  passed_later : item.timeFraction later = .ok second
  nonneg : .zero ≤ first
  grows : first ≤ second
  le_one : second ≤ .one
  /-- Up to the opening nothing has passed. -/
  opening : earlier ≤ item.window.opens → first.value = 0
  /-- From the close on all has. -/
  closing : item.window.closes ≤ later → second.value = 1
  /-- Apart from the part that has passed, the moment does not matter. -/
  shown_iff : ∀ price visible, item.buyNowVisible earlier price = .ok visible →
    (visible = true ↔ item.ShownAfter first.value price)
  shown_later_iff : ∀ price visible, item.buyNowVisible later price = .ok visible →
    (visible = true ↔ item.ShownAfter second.value price)

/-- The offer of an item that lasts for a millisecond fades between any two moments. -/
theorem exists_fading (formed : item.window.WellFormed) (bids : item.instantOnly = false)
    (lasts : 0 < item.window.closes.millisSince item.window.opens) (order : earlier ≤ later)
    (exact : Instant.Exact [item.window.opens, item.window.closes, earlier, later]) :
    ∃ first second, item.Fading earlier later first second := by
  obtain ⟨first, passed⟩ : ∃ first, item.timeFraction earlier = .ok first :=
    (exists_timeFraction_iff formed).2 lasts.ne'
  obtain ⟨second, passed_later⟩ : ∃ second, item.timeFraction later = .ok second :=
    (exists_timeFraction_iff formed).2 lasts.ne'
  have since_le {a b} (a_mem : a ∈ [item.window.opens, item.window.closes, earlier, later])
      (b_mem : b ∈ [item.window.opens, item.window.closes, earlier, later]) (le : a ≤ b) :
      a.millisSince item.window.opens ≤ b.millisSince item.window.opens :=
    exact.millisSince_le List.mem_cons_self a_mem b_mem le
  refine ⟨first, second, ?_⟩
  exact
    { passed
      passed_later
      nonneg := (timeFraction_bounds formed passed).1
      grows := timeFraction_le formed lasts passed passed_later
        (since_le (by simp) (by simp) order)
      le_one := (timeFraction_bounds formed passed_later).2.1
      opening := fun early => value_timeFraction_of_opening formed lasts passed <| by
        simpa using since_le (by simp) (by simp) early
      closing := fun late => value_timeFraction_of_close formed lasts passed_later <|
        since_le (by simp) (by simp) late
      shown_iff := fun price visible => buyNowVisible_iff formed bids passed
      shown_later_iff := fun price visible => buyNowVisible_iff formed bids passed_later }

/-- Once an offer to buy at once is hidden, it is hidden at all later moments and higher prices, and
from the close of the window on in any case.  It fades with the part of the window that has
passed. -/
theorem offer_stays_hidden (sound : item.problems = []) (bids : item.instantOnly = false)
    (lasts : 1 ≤ item.window.closes.millisSince item.window.opens) (order : earlier ≤ later)
    (exact : Instant.Exact [item.window.opens, item.window.closes, earlier, later]) :
    (∃ first second, item.Fading earlier later first second) ∧
      (∀ low high shown shown_later, low ≤ high → item.buyNowVisible earlier low = .ok shown →
        item.buyNowVisible later high = .ok shown_later → shown_later = true → shown = true) ∧
      (item.window.closes ≤ later → ∀ price visible,
        item.buyNowVisible later price = .ok visible → visible = false) := by
  have formed := window_wellFormed sound
  obtain ⟨first, second, fading⟩ := exists_fading formed bids lasts order exact
  refine ⟨⟨first, second, fading⟩, ?_, ?_⟩
  · intro low high shown shown_later price_le judged judged_later visible
    have after := (fading.shown_later_iff high shown_later judged_later).1 visible
    exact (fading.shown_iff low shown judged).2
      (after.mono (Decimal.le_iff_value_le.1 fading.grows) price_le)
  · intro closed price visible judged
    rw [← Bool.not_eq_true, fading.shown_later_iff price visible judged, fading.closing closed]
    exact not_shownAfter_one sound

theorem offer_stays_hidden_vase :
    (∃ first second, Item.vase.Fading (.hour 0) (.hour 19) first second) ∧
      Item.vase.buyNowVisible (.hour 0) (.whole 12) = .ok true ∧
      Item.vase.buyNowVisible (.hour 19) (.whole 12) = .ok false := by
  have sound : Item.vase.problems = [] := by decide +kernel
  have lasts : 1 ≤ Item.vase.window.closes.millisSince Item.vase.window.opens := by decide +kernel
  have exact : Instant.Exact
      [Item.vase.window.opens, Item.vase.window.closes, .hour 0, .hour 19] :=
    Instant.exact_of_not_leap (by decide +kernel)
  refine ⟨(offer_stays_hidden sound rfl lasts (by decide +kernel) exact).1, ?_, ?_⟩
  · decide +kernel
  · decide +kernel

-- A window that opens in a leap second loses a second at midnight, and an offer comes back.
example :
    let leap : Instant := ⟨0, 59, 1000000000, by decide +kernel, by decide +kernel, by decide,
      by decide, fun _ => by decide⟩
    let closes : Instant := ⟨2, 1684, 0, by decide +kernel, by decide +kernel, by decide,
      by decide, fun leap => absurd leap (by decide)⟩
    let beforeMidnight : Instant := ⟨0, 86399, 999000000, by decide +kernel, by decide +kernel,
      by decide, by decide, fun leap => absurd leap (by decide)⟩
    let midnight : Instant := ⟨1, 0, 0, by decide +kernel, by decide +kernel, by decide,
      by decide, fun leap => absurd leap (by decide)⟩
    let item : Item := { Item.vase with thresholdPercent := .whole 50, window := ⟨leap, closes⟩ }
    item.problems = [] ∧ item.buyNowVisible beforeMidnight (.whole 12) = .ok false ∧
      item.buyNowVisible midnight (.whole 12) = .ok true := by
  decide +kernel

end Item

end AuctionHouse
