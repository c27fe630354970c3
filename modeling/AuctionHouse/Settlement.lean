import AuctionHouse.Bid

/-!
# Settlement

How standing ceilings turn into bids.  A bid made by hand is answered once, for the strongest rival
proxy.  A ceiling that has just been set is settled against the strongest rival ceiling: the higher
one leads a step above the lower, or with all of itself if a step is too much, and of equal ones
the caller's leads.
-/

namespace AuctionHouse

/-- Which of two proxies of equal ceilings is the stronger. -/
inductive ProxyOrdering where
  | earliestFirst
  | latestFirst
deriving DecidableEq, Repr

namespace ProxyOrdering

/-- Both orderings. -/
def all : List ProxyOrdering := [earliestFirst, latestFirst]

/-- The name of an ordering in data. -/
def name : ProxyOrdering → String
  | earliestFirst => "earliest_first"
  | latestFirst => "latest_first"

/-- The ordering of a name in data. -/
def ofName? (name : String) : Option ProxyOrdering :=
  all.find? (·.name = name)

@[simp] theorem ofName?_name (o : ProxyOrdering) : ofName? o.name = some o := by cases o <;> rfl

/-- Compares two proxies, the stronger one being the lesser: by ceiling, then by time and number as
the ordering says. -/
def compareStrength (ordering : ProxyOrdering) (a b : Proxy) : Ordering :=
  let byTime := (compare a.createdAt b.createdAt).then (compare a.id b.id)
  (compare b.ceiling a.ceiling).then
    (match ordering with
     | earliestFirst => byTime
     | latestFirst => byTime.swap)

end ProxyOrdering

/-- The strongest active proxy of another user, the first of them in the list if there are several
of one strength (`strongest_rival`). -/
def strongestRival? (proxies : List Proxy) (user : UserId) (ordering : ProxyOrdering) :
    Option Proxy :=
  match proxies.filter fun proxy => proxy.active && proxy.user ≠ user with
  | [] => none
  | first :: rest => some <| rest.foldl
      (fun best proxy => if ordering.compareStrength best proxy = .gt then proxy else best) first

/-- The two sides of a settlement. -/
inductive Side where
  /-- The user who has just set a ceiling. -/
  | caller
  /-- The owner of the strongest other proxy. -/
  | rival
deriving DecidableEq, Repr

namespace Side

/-- The other side. -/
def other : Side → Side
  | caller => rival
  | rival => caller

/-- The name of a side. -/
def name : Side → String
  | caller => "Caller"
  | rival => "Rival"

end Side

/-- What two ceilings come to: who leads, and with what amounts (`Reconciliation`). -/
structure Settlement where
  leader : Side
  leading : Decimal
  trailing : Decimal
deriving DecidableEq

namespace Settlement

/-- The amount of the higher of two ceilings: a step above the lower one, or all of itself. -/
def overbid (lower higher step : Decimal) : Except Fault Decimal := do
  return min higher (← lower.add step)

/-- Settles the caller's ceiling against the rival's, in whole cents (`reconcile`). -/
def reconcile (caller rival step : Decimal) : Except Fault Settlement := do
  if caller.SameValue rival then
    let below := max (← caller.sub step) .zero
    return ⟨.caller, caller.roundCents, below.roundCents⟩
  else if caller < rival then
    return ⟨.rival, (← overbid caller rival step).roundCents, caller.roundCents⟩
  else
    return ⟨.caller, (← overbid rival caller step).roundCents, rival.roundCents⟩

/-- The amount of one side (`amount_for`). -/
def amountOf (settlement : Settlement) (side : Side) : Decimal :=
  if side = settlement.leader then settlement.leading else settlement.trailing

/-- The settlement with both amounts raised to a price that the round has reached (`floored_at`). -/
def flooredAt (settlement : Settlement) (price : Decimal) : Settlement :=
  { settlement with
    leading := max settlement.leading price
    trailing := max settlement.trailing price }

/-- An automatic bid. -/
def autoBid (item : ItemId) (round : Round) (user : UserId) (amount : Decimal) (now : Instant) :
    NewBid :=
  { item, user, amount, kind := .auto, offer := .notApplicable, round, createdAt := now }

/-- The two bids of a settlement, the leading one first (`into_bids`). -/
def bids (settlement : Settlement) (item : ItemId) (round : Round) (caller rival : UserId)
    (now : Instant) : List NewBid :=
  [settlement.leader, settlement.leader.other].map fun side =>
    let user := match side with
      | .caller => caller
      | .rival => rival
    autoBid item round user (settlement.amountOf side) now

/-- The amount with which a proxy answers a bid, if its ceiling is above the bid: a step more, but
not more than the ceiling (`counter_amount`). -/
def counterAmount (amount ceiling step : Decimal) : Except Fault (Option Decimal) :=
  if ceiling ≤ amount then .ok none
  else do return some (min (← amount.add step) ceiling).roundCents

/-- The amount with which a ceiling opens against a leader without a proxy that could compete: a
step above the price, but not more than the ceiling (`opening_amount`). -/
def openingAmount (price ceiling step : Decimal) : Except Fault Decimal := do
  return (min (← price.add step) ceiling).roundCents

end Settlement

end AuctionHouse
