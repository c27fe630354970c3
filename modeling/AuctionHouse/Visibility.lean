import AuctionHouse.Refusal

/-!
# Visibility of the buy-now price

The offer to buy at once is shown until a part of the window has passed or the price has come close
to it; both parts are the item's threshold.  An item that is only sold at once always shows it.
-/

namespace AuctionHouse

/-- The milliseconds from one moment to another as an amount. -/
def Instant.elapsed (earlier later : Instant) : Decimal :=
  .ofCoeff (later.millisSince earlier) 0
    (Nat.lt_of_lt_of_le (later.natAbs_millisSince_lt earlier) (Nat.le_of_ble_eq_true rfl))
    (Nat.zero_le _)

namespace Item

/-- The part of the window that has passed, between zero and one, in hundredths (`time_fraction`).
-/
def timeFraction (item : Item) (now : Instant) : Except Stop Decimal := do
  if ¬ item.window.WellFormed then throw (.ofConfig (.malformedWindow item.id))
  let total := item.window.closes.millisSince item.window.opens
  let share ← Stop.ofFault ((item.window.opens.elapsed now).divInt total)
  return (min (max share .zero) .one).round 2

/-- Whether the threshold of the item in time has been reached. -/
def isLate (item : Item) (fraction : Decimal) : Except Fault Bool := do
  return item.thresholdPercent ≤ (← fraction.mul .hundred)

/-- Whether a price has reached the threshold part of the buy-now price. -/
def isCloseToBuyNow (item : Item) (price : Decimal) : Except Fault Bool :=
  if item.buyNow?.isSome then do
    return (← item.buyNowPrice.percentOf item.thresholdPercent) ≤ price
  else
    .ok false

/-- Whether the offer to buy at once is shown (`buy_now_visible`). -/
def buyNowVisible (item : Item) (now : Instant) (price : Decimal) : Except Stop Bool := do
  let fraction ← item.timeFraction now
  if item.instantOnly then return true
  let late ← Stop.ofFault (item.isLate fraction)
  let close ← Stop.ofFault (item.isCloseToBuyNow price)
  return !(late || close)

end Item

end AuctionHouse
