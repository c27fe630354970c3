import AuctionHouse.House.Query
import AuctionHouse.Instant.Printer

/-!
# Display

What the command line shows of bids, rounds, proxies and fees.
-/

namespace AuctionHouse

/-- An amount with its currency, `1,234.50 USD` (`money`). -/
def Money.display (amount : Decimal) (currency : String) : String :=
  format amount "." "," ++ " " ++ currency

/-- A bid in one line (`bid_line`). -/
def Bid.line (bid : Bid) (currency : String) : String :=
  "#" ++ bid.id.repr ++ " user " ++ bid.user.repr ++ " " ++ Money.display bid.amount currency ++
    " (" ++ bid.kind.label ++ ")"

/-- A truth value in a line. -/
def yesNo (value : Bool) : String := if value then "true" else "false"

/-- A round of an item in lines (`auction_state`). -/
def AuctionView.lines (view : AuctionView) (currency : String) : List String :=
  ["Item " ++ view.item.repr ++ " round " ++ view.round.toNat.repr ++ ":",
   "  Phase: " ++ view.phase.title,
   "  Open: " ++ yesNo view.isOpen ++ "  Closed: " ++ yesNo view.isClosed,
   "  Current price: " ++ Money.display view.minPrice currency,
   "  Leader: " ++ (view.leader.map Nat.repr).getD "-",
   "  Buy-now shown: " ++ yesNo view.buyNowVisible,
   "  Bids: " ++ view.bidCount.repr]

/-- The status of a proxy in one line (`proxy_status`). -/
def ProxyStatus.line (status : ProxyStatus) (currency : String) : String :=
  match status.proxy with
  | none => "No active proxy"
  | some proxy =>
    "Proxy #" ++ proxy.id.repr ++ " ceiling " ++ Money.display proxy.ceiling currency ++
      if status.outbid then
        " is outbid (current price " ++ Money.display status.minPrice currency ++ ")"
      else
        " is active"

/-- What a sale owes in one line, with the fraction in percent (`fee_quote`). -/
def FeeQuote.line (quote : FeeQuote) : Except Fault String := do
  let percent ← quote.fraction.mul .hundred
  return "Fee on " ++ Money.display quote.salePrice quote.currency ++ ": " ++
    Money.display quote.total quote.currency ++ " (" ++ percent.normalize.text ++ "% + " ++
    Money.display quote.flat quote.currency ++ ")"

/-- An item in lines. -/
def Item.lines (item : Item) : List String :=
  ["Item " ++ item.id.repr ++ ": " ++ item.name,
   "  Owner: " ++ item.owner.repr,
   "  Workflow: " ++ item.workflow.title,
   "  Round: " ++ item.round.toNat.repr,
   "  Starting price: " ++ Money.display item.startingPrice item.currency,
   "  Bid step: " ++ Money.display item.bidStep item.currency] ++
  (item.buyNow?.map fun price => "  Buy now: " ++ Money.display price item.currency).toList ++
  ["  Window: " ++ item.window.opens.textForPeople ++ " .. " ++ item.window.closes.textForPeople]

end AuctionHouse
