import AuctionHouse.House.Basic
import AuctionHouse.Validation

/-!
# Bidding

The calls that change an auction: a bid, a purchase at the buy-now price, a ceiling set or taken
back.  Each reads what it needs, checks the rules, writes, and tells those who have lost a lead.
-/

namespace AuctionHouse

/-- Who makes a call, and when (`CallContext`). -/
structure Caller where
  user : UserId
  now : Instant

/-- An accepted bid, and the automatic bid that answered it (`BidReceipt`). -/
structure Receipt where
  bid : Bid
  counter : Option Bid
deriving DecidableEq

namespace Receipt

/-- The bid that leads once all is settled. -/
def top (receipt : Receipt) : Bid := receipt.counter.getD receipt.bid

/-- The user who leads once all is settled (`leader`). -/
def leader (receipt : Receipt) : UserId := receipt.top.user

end Receipt

namespace House

/-- Stops if there are violations (`reject`). -/
def demand (violations : List Violation) : Action Unit :=
  if violations.isEmpty then pure () else .refuse (.rejected violations)

/-- Tells a leader who is not the new one that the lead is lost (`notify_outbid`). -/
def notifyOutbid (item : ItemId) (round : Round) (previous : Option UserId) (leader : UserId)
    (amount : Decimal) : Action Unit :=
  match previous with
  | some user =>
    if user = leader then pure () else .notify (.outbid item round user leader amount)
  | none => pure ()

/-- The automatic bid that answers a bid, if a rival proxy can (part of `place_bid`). -/
def counterBid (ordering : ProxyOrdering) (item : Item) (bid : NewBid) (proxies : List Proxy) :
    Except Fault (Option NewBid) := do
  match strongestRival? proxies bid.user ordering with
  | none => return none
  | some rival =>
    let amount ← Settlement.counterAmount bid.amount rival.ceiling item.bidStep
    return amount.map fun amount =>
      Settlement.autoBid bid.item bid.round rival.user amount bid.createdAt

/-- Takes a bid made by hand (`place_bid`). -/
def placeBid (house : House) (caller : Caller) (itemId : ItemId) (round : Round)
    (amount : Decimal) (kind : BidKind) : Action Receipt := do
  house.authorize caller.user
  let amount := amount.roundCents
  let _ ← Action.loadRound itemId round
  let item ← Action.loadRound itemId round
  let before ← Action.standing item round
  demand (Validation.bidViolations item (item.window.statusAt caller.now) before caller.user amount
    kind)
  let bid : NewBid :=
    { item := itemId, user := caller.user, amount, kind, offer := .notApplicable, round,
      createdAt := caller.now }
  let counter ←
    if house.config.autobidEnabled then do
      let proxies ← Action.activeProxies itemId round
      Action.compute (counterBid house.config.proxyOrdering item bid proxies)
    else pure none
  match ← Action.append (bid :: counter.toList) with
  | [] => .refuse (.storage .nothingWritten)
  | written :: rest =>
    let receipt : Receipt := ⟨written, rest.head?⟩
    notifyOutbid itemId round before.leader? receipt.leader receipt.top.amount
    if receipt.leader ≠ caller.user then
      notifyOutbid itemId round (some caller.user) receipt.leader receipt.top.amount
    return receipt

/-- Sells an item at its buy-now price (`place_buy_now`).  This ends the round. -/
def placeBuyNow (house : House) (caller : Caller) (itemId : ItemId) : Action Bid := do
  house.authorize caller.user
  let round := (← Action.loadItem itemId).round
  let item ← Action.loadRound itemId round
  demand (Validation.buyNowViolations item (item.window.statusAt caller.now))
  let before ← Action.standing item round
  let bid ← Action.appendClosing
    { item := itemId, user := caller.user, amount := item.buyNowPrice.roundCents, kind := .instant,
      offer := .purchased, round, createdAt := caller.now } .finished
  notifyOutbid itemId round before.leader? caller.user bid.amount
  .notify (.closed itemId round caller.user bid.amount)
  return bid

/-- The proxy with which a user sets a ceiling: the one that stands, changed, or a new one (part of
`set_proxy`). -/
def raised (previous : Option Proxy) (caller : Caller) (item : ItemId) (round : Round)
    (ceiling : Decimal) : Proxy :=
  match previous with
  | some proxy => { proxy with ceiling, updatedAt := caller.now }
  | none =>
    { id := 0, item, user := caller.user, ceiling, round, active := true,
      createdAt := caller.now, updatedAt := caller.now }

/-- The automatic bids that follow from a ceiling: it is settled against the strongest rival ceiling
above the price, or opens against another leader; else there are none (part of `set_proxy`). -/
def ceilingBids (ordering : ProxyOrdering) (item : Item) (round : Round) (caller : Caller)
    (ceiling : Decimal) (standing : Standing) (proxies : List Proxy) :
    Except Fault (List NewBid) := do
  let able := proxies.filter fun proxy => standing.minPrice < proxy.ceiling
  match strongestRival? able caller.user ordering with
  | some rival =>
    let settlement ← Settlement.reconcile ceiling rival.ceiling item.bidStep
    return (settlement.flooredAt standing.minPrice).bids item.id round caller.user rival.user
      caller.now
  | none =>
    match standing.leader? with
    | none => return []
    | some leader =>
      if leader = caller.user then return []
      let amount ← Settlement.openingAmount standing.minPrice ceiling item.bidStep
      return [Settlement.autoBid item.id round caller.user amount caller.now]

/-- Puts the proxies of a user back to what they were before a ceiling was set (part of
`set_proxy`). -/
def restore (previous : Option Proxy) (saved : Proxy) : Action Unit := do
  match previous with
  | some proxy => let _ ← Action.putProxy proxy
  | none => Action.deleteProxy saved.id

/-- Sets the ceiling of a user (`set_proxy`).  If the bids that follow from it cannot be written,
the ceiling is taken back. -/
def setProxy (house : House) (caller : Caller) (itemId : ItemId) (round : Round)
    (ceiling : Decimal) : Action Proxy := do
  house.authorize caller.user
  let ceiling := ceiling.roundCents
  let _ ← Action.loadRound itemId round
  let item ← Action.loadRound itemId round
  let before ← Action.standing item round
  demand (Validation.ceilingViolations item (item.window.statusAt caller.now) before ceiling
    house.config.autobidEnabled)
  let previous ← Action.activeProxy? itemId round caller.user
  let saved ← Action.putProxy (raised previous caller itemId round ceiling)
  let proxies ← Action.activeProxies itemId round
  let bids ← Action.compute
    (ceilingBids house.config.proxyOrdering item round caller ceiling before proxies)
  if bids.isEmpty then return saved
  match ← (Action.append bids).attempt with
  | .error refusal =>
    let _ ← (restore previous saved).attempt
    .refuse refusal
  | .ok _ =>
    let after ← Action.standing item round
    if let some leader := after.leader? then
      notifyOutbid itemId round before.leader? leader after.minPrice
      if before.leader? ≠ some caller.user then
        notifyOutbid itemId round (some caller.user) leader after.minPrice
    return saved

/-- Takes a user's ceiling back (`remove_proxy`).  Answers whether there was one. -/
def removeProxy (caller : Caller) (itemId : ItemId) (round : Round) : Action Bool := do
  let _ ← Action.loadRound itemId round
  let _ ← Action.loadRound itemId round
  match ← Action.activeProxy? itemId round caller.user with
  | none => return false
  | some proxy =>
    let _ ← Action.putProxy { proxy with active := false, updatedAt := caller.now }
    return true

end House

end AuctionHouse
