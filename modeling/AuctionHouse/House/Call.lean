import AuctionHouse.House.Bidding

/-!
# Calls

The calls that change an auction as values, and what they answer.
-/

namespace AuctionHouse

/-- A call that changes an auction (`BiddingCall`). -/
inductive Call where
  | placeBid (item : ItemId) (round : Round) (amount : Decimal) (kind : BidKind)
  | placeBuyNow (item : ItemId)
  | setProxy (item : ItemId) (round : Round) (ceiling : Decimal)
  | removeProxy (item : ItemId) (round : Round)
deriving DecidableEq

/-- What a call answers (`CallOutcome`). -/
inductive Outcome where
  | bid (receipt : Receipt)
  | purchase (bid : Bid)
  | proxy (proxy : Proxy)
  | proxyRemoved (removed : Bool)
deriving DecidableEq

/-- Serves a call (`dispatch`). -/
def House.serve (house : House) (caller : Caller) : Call → Action Outcome
  | .placeBid item round amount kind => do
    return .bid (← house.placeBid caller item round amount kind)
  | .placeBuyNow item => do return .purchase (← house.placeBuyNow caller item)
  | .setProxy item round ceiling => do return .proxy (← house.setProxy caller item round ceiling)
  | .removeProxy item round => do return .proxyRemoved (← removeProxy caller item round)

/-- The item that a call is about. -/
def Call.item : Call → ItemId
  | placeBid item .. | placeBuyNow item | setProxy item .. | removeProxy item _ => item

end AuctionHouse
