import AuctionHouse.House.Call
import AuctionHouse.House.Query
import AuctionHouse.Wire.Auction

/-!
# Calls and questions as data

The calls and questions that the house takes, and what it answers.
-/

namespace AuctionHouse

open Wire

instance : Wire Receipt where
  encode receipt := .obj
    [("bid", encode receipt.bid), ("counter", ofOption encode receipt.counter)]
  decode data := do
    let m ← Members.of? ["bid", "counter"] data
    return {
      bid := ← m.required "bid" decode
      counter := ← m.optional "counter" decode }

instance : Wire Call where
  encode
    | .placeBid item round amount kind => tagged "PlaceBid" <| .obj
      [("item_id", .ofNat item), ("round", encode round), ("amount", encode amount),
       ("kind", encode kind)]
    | .placeBuyNow item => tagged "PlaceBuyNow" <| .obj [("item_id", .ofNat item)]
    | .setProxy item round ceiling => tagged "SetProxy" <| .obj
      [("item_id", .ofNat item), ("round", encode round), ("ceiling", encode ceiling)]
    | .removeProxy item round => tagged "RemoveProxy" <| .obj
      [("item_id", .ofNat item), ("round", encode round)]
  decode data := do
    let (name, content) ← tagged? data
    match name with
    | "PlaceBid" =>
      let m ← Members.ofContent? content
      return .placeBid (← m.required "item_id" (Json.nat? 64))
        (← m.required "round" decode) (← m.required "amount" decode)
        (← m.required "kind" decode)
    | "PlaceBuyNow" =>
      let m ← Members.ofContent? content
      return .placeBuyNow (← m.required "item_id" (Json.nat? 64))
    | "SetProxy" =>
      let m ← Members.ofContent? content
      return .setProxy (← m.required "item_id" (Json.nat? 64))
        (← m.required "round" decode) (← m.required "ceiling" decode)
    | "RemoveProxy" =>
      let m ← Members.ofContent? content
      return .removeProxy (← m.required "item_id" (Json.nat? 64))
        (← m.required "round" decode)
    | _ => none

instance : Wire Outcome where
  encode
    | .bid receipt => tagged "Bid" (encode receipt)
    | .purchase bid => tagged "Purchase" (encode bid)
    | .proxy proxy => tagged "Proxy" (encode proxy)
    | .proxyRemoved removed => tagged "ProxyRemoved" (.bool removed)
  decode data := do
    let (name, content) ← tagged? data
    match name with
    | "Bid" => return .bid (← decode content)
    | "Purchase" => return .purchase (← decode content)
    | "Proxy" => return .proxy (← decode content)
    | "ProxyRemoved" => return .proxyRemoved (← content.bool?)
    | _ => none

instance : Wire Phase where
  encode phase := .str phase.name
  decode data := case? Phase.ofName? data

instance : Wire PhaseStatus where
  encode status := .obj
    [("phase", encode status.phase), ("start_passed", .bool status.startPassed),
     ("end_passed", .bool status.endPassed)]
  decode data := do
    let m ← Members.of? ["phase", "start_passed", "end_passed"] data
    return {
      phase := ← m.required "phase" decode
      startPassed := ← m.required "start_passed" Json.bool?
      endPassed := ← m.required "end_passed" Json.bool? }

/-- The names of the fields of a round as it is shown, in their order. -/
def AuctionView.fields : List String :=
  ["item_id", "round", "phase", "start_passed", "end_passed", "is_open", "is_closed", "min_price",
   "lead_bid_user_id", "buy_now_visible", "bid_count"]

instance : Wire AuctionView where
  encode view := .obj
    [("item_id", .ofNat view.item), ("round", encode view.round), ("phase", encode view.phase),
     ("start_passed", .bool view.startPassed), ("end_passed", .bool view.endPassed),
     ("is_open", .bool view.isOpen), ("is_closed", .bool view.isClosed),
     ("min_price", encode view.minPrice), ("lead_bid_user_id", ofOption .ofNat view.leader),
     ("buy_now_visible", .bool view.buyNowVisible), ("bid_count", .ofNat view.bidCount)]
  decode data := do
    let m ← Members.of? AuctionView.fields data
    return {
      item := ← m.required "item_id" (Json.nat? 64)
      round := ← m.required "round" decode
      phase := ← m.required "phase" decode
      startPassed := ← m.required "start_passed" Json.bool?
      endPassed := ← m.required "end_passed" Json.bool?
      isOpen := ← m.required "is_open" Json.bool?
      isClosed := ← m.required "is_closed" Json.bool?
      minPrice := ← m.required "min_price" decode
      leader := ← m.optional "lead_bid_user_id" (Json.nat? 64)
      buyNowVisible := ← m.required "buy_now_visible" Json.bool?
      bidCount := ← m.required "bid_count" (Json.nat? 64) }

instance : Wire ProxyStatus where
  encode status := .obj
    [("proxy", ofOption encode status.proxy), ("min_price", encode status.minPrice),
     ("outbid", .bool status.outbid)]
  decode data := do
    let m ← Members.of? ["proxy", "min_price", "outbid"] data
    return {
      proxy := ← m.optional "proxy" decode
      minPrice := ← m.required "min_price" decode
      outbid := ← m.required "outbid" Json.bool? }

/-- The item and round of a question about a round. -/
def Query.itemAndRound (item : ItemId) (round : Round) : List (String × Json) :=
  [("item_id", .ofNat item), ("round", encode round)]

instance : Wire Query where
  encode
    | .auctionState item round =>
      tagged "GetAuctionState" <| .obj (Query.itemAndRound item round)
    | .highestBids item round limit => tagged "GetHighestBids" <| .obj
      (Query.itemAndRound item round ++ [("limit", ofOption .ofNat limit)])
    | .proxyStatus item round user => tagged "GetProxyStatus" <| .obj
      (Query.itemAndRound item round ++ [("user_id", .ofNat user)])
    | .feeFor price currency => tagged "FeeFor" <| .obj
      [("sale_price", encode price), ("currency", .str currency)]
    | .item item => tagged "GetItem" <| .obj [("item_id", .ofNat item)]
    | .winner item round => tagged "GetWinner" <| .obj (Query.itemAndRound item round)
    | .uniqueBidders item round =>
      tagged "GetUniqueBidders" <| .obj (Query.itemAndRound item round)
    | .bidsByUser item round => tagged "GetBidsByUser" <| .obj (Query.itemAndRound item round)
  decode data := do
    let (name, content) ← tagged? data
    let item (m : Members) := m.required "item_id" (Json.nat? 64)
    let round (m : Members) : Option Round := m.required "round" decode
    match name with
    | "GetAuctionState" =>
      let m ← Members.ofContent? content
      return .auctionState (← item m) (← round m)
    | "GetHighestBids" =>
      let m ← Members.ofContent? content
      return .highestBids (← item m) (← round m) (← m.optional "limit" (Json.nat? 64))
    | "GetProxyStatus" =>
      let m ← Members.ofContent? content
      return .proxyStatus (← item m) (← round m) (← m.required "user_id" (Json.nat? 64))
    | "FeeFor" =>
      let m ← Members.ofContent? content
      return .feeFor (← m.required "sale_price" decode) (← m.required "currency" Json.str?)
    | "GetItem" =>
      let m ← Members.ofContent? content
      return .item (← item m)
    | "GetWinner" =>
      let m ← Members.ofContent? content
      return .winner (← item m) (← round m)
    | "GetUniqueBidders" =>
      let m ← Members.ofContent? content
      return .uniqueBidders (← item m) (← round m)
    | "GetBidsByUser" =>
      let m ← Members.ofContent? content
      return .bidsByUser (← item m) (← round m)
    | _ => none

/-- The number that the name of a member spells, in digits without superfluous zeros. -/
def Wire.key? (name : String) : Option Nat :=
  match name.toList with
  | ['0'] => some 0
  | '0' :: _ => none
  | digits => (Digits.whole? digits).filter (· < twoTo 64)

/-- A table as data: an object whose members are named by the keys. -/
def Wire.ofTable {α : Type} (encode : α → Json) (table : Table α) : Json :=
  .obj (table.entries.map fun (key, value) => (key.repr, encode value))

/-- The table that data stand for. -/
def Wire.table? {α : Type} (decode : Json → Option α) : Json → Option (Table α)
  | .obj members => members.foldlM (fun table (name, data) => do
      return table.insert (← key? name) (← decode data)) .empty
  | _ => none

instance : Wire Answer where
  encode
    | .auctionState view => tagged "AuctionState" (encode view)
    | .highestBids bids => tagged "HighestBids" (ofList encode bids)
    | .proxyStatus status => tagged "ProxyStatus" (encode status)
    | .fee quote => tagged "Fee" (encode quote)
    | .item item => tagged "Item" (ofOption encode item)
    | .winner bid => tagged "Winner" (ofOption encode bid)
    | .uniqueBidders users => tagged "UniqueBidders" (ofList .ofNat users)
    | .bidsByUser bids => tagged "BidsByUser" (ofTable (ofList encode) bids)
  decode data := do
    let (name, content) ← tagged? data
    match name with
    | "AuctionState" => return .auctionState (← decode content)
    | "HighestBids" => return .highestBids (← list? decode content)
    | "ProxyStatus" => return .proxyStatus (← decode content)
    | "Fee" => return .fee (← decode content)
    | "Item" => return .item (← nullable? decode content)
    | "Winner" => return .winner (← nullable? decode content)
    | "UniqueBidders" => return .uniqueBidders (← list? (Json.nat? 64) content)
    | "BidsByUser" => return .bidsByUser (← table? (list? decode) content)
    | _ => none

end AuctionHouse
