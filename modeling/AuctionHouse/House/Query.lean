import AuctionHouse.House.Basic
import AuctionHouse.Phase

/-!
# Queries

What can be asked of the house.  A query reads the store and writes nothing.
-/

namespace AuctionHouse

/-- A round of an item as it is shown (`AuctionStateView`). -/
structure AuctionView where
  item : ItemId
  round : Round
  phase : Phase
  startPassed : Bool
  endPassed : Bool
  isOpen : Bool
  isClosed : Bool
  minPrice : Decimal
  leader : Option UserId
  buyNowVisible : Bool
  bidCount : Nat
deriving DecidableEq

/-- A user's proxy in a round.  It is outbid if its ceiling does not beat the price and its owner
does not lead. -/
structure ProxyStatus where
  proxy : Option Proxy
  minPrice : Decimal
  outbid : Bool
deriving DecidableEq

/-- A question to the house (`BiddingQuery`). -/
inductive Query where
  | auctionState (item : ItemId) (round : Round)
  | highestBids (item : ItemId) (round : Round) (limit : Option Nat)
  | proxyStatus (item : ItemId) (round : Round) (user : UserId)
  | feeFor (salePrice : Decimal) (currency : String)
  | item (item : ItemId)
  | winner (item : ItemId) (round : Round)
  | uniqueBidders (item : ItemId) (round : Round)
  | bidsByUser (item : ItemId) (round : Round)
deriving DecidableEq

/-- What the house answers to a question (`BiddingQueryResponse`). -/
inductive Answer where
  | auctionState (view : AuctionView)
  | highestBids (bids : List Bid)
  | proxyStatus (status : ProxyStatus)
  | fee (quote : FeeQuote)
  | item (item : Option Item)
  | winner (bid : Option Bid)
  | uniqueBidders (users : List UserId)
  | bidsByUser (bids : Table (List Bid))

namespace House

/-- A round of an item as it is shown at a time (`get_auction_state`). -/
def auctionView (itemId : ItemId) (round : Round) (now : Instant) (strict : Bool) :
    Action AuctionView := do
  let item ← Action.loadItem itemId
  let status := item.window.statusAt now
  let standing ← Action.standing item round
  let visible ← Action.lift (item.buyNowVisible now standing.minPrice)
  let bids ← Action.bidsFor itemId round
  return {
    item := itemId
    round
    phase := status.phase
    startPassed := status.startPassed
    endPassed := status.endPassed
    isOpen := status.isOpen item.workflow strict
    isClosed := status.isClosed item.workflow
    minPrice := standing.minPrice
    leader := standing.leader?
    buyNowVisible := visible
    bidCount := bids.length }

/-- The status of a user's proxy in a round (`get_proxy_status`). -/
def proxyStatus (itemId : ItemId) (round : Round) (user : UserId) : Action ProxyStatus := do
  let item ← Action.loadItem itemId
  let standing ← Action.standing item round
  let proxy ← Action.activeProxy? itemId round user
  return {
    proxy
    minPrice := standing.minPrice
    outbid := proxy.any fun proxy =>
      proxy.ceiling ≤ standing.minPrice && standing.leader? ≠ some user }

/-- Answers a question at a time (`handle_query`). -/
def answer (house : House) (now : Instant) : Query → Action Answer
  | .auctionState item round => do
    return .auctionState (← auctionView item round now house.config.strictOpen)
  | .highestBids item round limit => do
    return .highestBids
      (Ranking.top (← Action.bidsFor item round) (limit.getD house.config.listingLength))
  | .proxyStatus item round user => do return .proxyStatus (← proxyStatus item round user)
  | .feeFor price currency => do return .fee (← Action.lift (house.fees.quote price currency))
  | .item item => do return .item (← Action.item? item)
  | .winner item round => do return .winner (Ranking.winner? (← Action.bidsFor item round))
  | .uniqueBidders item round => do
    return .uniqueBidders (Ranking.bidders (← Action.bidsFor item round))
  | .bidsByUser item round => do
    return .bidsByUser (Ranking.byUser (← Action.bidsFor item round))

end House

end AuctionHouse
