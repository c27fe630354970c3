import AuctionHouse.Bid
import AuctionHouse.Config
import AuctionHouse.Ranking
import AuctionHouse.Wire.Basic

/-!
# Auctions as data

The records of an auction: windows, items, bids, proxies, fees and settings.
-/

namespace AuctionHouse

open Wire

instance : Wire Round where
  encode round := .ofNat round.toNat
  decode data := (data.nat? 32).map UInt32.ofNat

instance : Wire Workflow where
  encode workflow := .str workflow.name
  decode data := case? Workflow.ofName? data

instance : Wire BidKind where
  encode kind := .str kind.name
  decode data := case? BidKind.ofName? data

instance : Wire PurchaseOffer where
  encode offer := .str offer.name
  decode data := case? PurchaseOffer.ofName? data

instance : Wire ProxyOrdering where
  encode ordering := .str ordering.name
  decode data := case? ProxyOrdering.ofName? data

instance : Wire Window where
  encode window := .obj [("start", encode window.opens), ("end", encode window.closes)]
  decode data := do
    let m ← Members.of? ["start", "end"] data
    return { opens := ← m.required "start" decode, closes := ← m.required "end" decode }

/-- The names of the fields of an item, in their order. -/
def Item.fields : List String :=
  ["id", "name", "owner", "starting_price", "buy_now_price", "bid_step", "threshold_percent",
   "instant_only", "currency", "workflow", "window", "relist_count"]

instance : Wire Item where
  encode item := .obj
    [("id", .ofNat item.id), ("name", .str item.name), ("owner", .ofNat item.owner),
     ("starting_price", encode item.startingPrice), ("buy_now_price", encode item.buyNowPrice),
     ("bid_step", encode item.bidStep), ("threshold_percent", encode item.thresholdPercent),
     ("instant_only", .bool item.instantOnly), ("currency", .str item.currency),
     ("workflow", encode item.workflow), ("window", encode item.window),
     ("relist_count", encode item.round)]
  decode data := do
    let m ← Members.of? Item.fields data
    return {
      id := ← m.required "id" (Json.nat? 64)
      name := ← m.required "name" Json.str?
      owner := ← m.required "owner" (Json.nat? 64)
      startingPrice := ← m.required "starting_price" decode
      buyNowPrice := ← m.required "buy_now_price" decode
      bidStep := ← m.required "bid_step" decode
      thresholdPercent := ← m.required "threshold_percent" decode
      instantOnly := ← m.required "instant_only" Json.bool?
      currency := ← m.required "currency" Json.str?
      workflow := ← m.required "workflow" decode
      window := ← m.required "window" decode
      round := ← m.required "relist_count" decode }

/-- The names of the fields of a bid that is not yet in the ledger, in their order. -/
def NewBid.fields : List String :=
  ["item_id", "user_id", "amount", "kind", "purchase_offer", "round", "created_at"]

/-- The fields of a bid that is not yet in the ledger. -/
def NewBid.members (bid : NewBid) : List (String × Json) :=
  [("item_id", .ofNat bid.item), ("user_id", .ofNat bid.user), ("amount", encode bid.amount),
   ("kind", encode bid.kind), ("purchase_offer", encode bid.offer), ("round", encode bid.round),
   ("created_at", encode bid.createdAt)]

/-- The bid of these fields. -/
def NewBid.ofMembers? (m : Members) : Option NewBid := do
  return {
    item := ← m.required "item_id" (Json.nat? 64)
    user := ← m.required "user_id" (Json.nat? 64)
    amount := ← m.required "amount" decode
    kind := ← m.required "kind" decode
    offer := ← m.required "purchase_offer" decode
    round := ← m.required "round" decode
    createdAt := ← m.required "created_at" decode }

instance : Wire NewBid where
  encode bid := .obj bid.members
  decode data := do NewBid.ofMembers? (← Members.of? NewBid.fields data)

instance : Wire Bid where
  encode bid := .obj (("id", .ofNat bid.id) :: bid.toNewBid.members)
  decode data := do
    let m ← Members.of? ("id" :: NewBid.fields) data
    return { ← NewBid.ofMembers? m with id := ← m.required "id" (Json.nat? 64) }

/-- The names of the fields of a proxy, in their order. -/
def Proxy.fields : List String :=
  ["id", "item_id", "user_id", "ceiling", "round", "active", "created_at", "updated_at"]

instance : Wire Proxy where
  encode proxy := .obj
    [("id", .ofNat proxy.id), ("item_id", .ofNat proxy.item), ("user_id", .ofNat proxy.user),
     ("ceiling", encode proxy.ceiling), ("round", encode proxy.round),
     ("active", .bool proxy.active), ("created_at", encode proxy.createdAt),
     ("updated_at", encode proxy.updatedAt)]
  decode data := do
    let m ← Members.of? Proxy.fields data
    return {
      id := ← m.required "id" (Json.nat? 64)
      item := ← m.required "item_id" (Json.nat? 64)
      user := ← m.required "user_id" (Json.nat? 64)
      ceiling := ← m.required "ceiling" decode
      round := ← m.required "round" decode
      active := ← m.required "active" Json.bool?
      createdAt := ← m.required "created_at" decode
      updatedAt := ← m.required "updated_at" decode }

/-- The fee range that data in a dialect stand for. -/
def FeeRange.decodeIn (dialect : Dialect) (data : Json) : Option FeeRange := do
  let m ← Members.of? ["from", "sell_price_fee", "single_auction_fee"] data dialect
  return {
    start := ← m.required "from" decode
    fraction := ← m.required "sell_price_fee" decode
    flat := ← m.required "single_auction_fee" decode }

instance : Wire FeeRange where
  encode range := .obj
    [("from", encode range.start), ("sell_price_fee", encode range.fraction),
     ("single_auction_fee", encode range.flat)]
  decode := FeeRange.decodeIn .request

instance : Wire FeeQuote where
  encode quote := .obj
    [("sale_price", encode quote.salePrice), ("currency", .str quote.currency),
     ("fraction", encode quote.fraction), ("flat", encode quote.flat),
     ("total_fee", encode quote.total)]
  decode data := do
    let m ← Members.of? ["sale_price", "currency", "fraction", "flat", "total_fee"] data
    return {
      salePrice := ← m.required "sale_price" decode
      currency := ← m.required "currency" Json.str?
      fraction := ← m.required "fraction" decode
      flat := ← m.required "flat" decode
      total := ← m.required "total_fee" decode }

/-- The names of the settings of the house, in their order. -/
def Config.fields : List String :=
  ["autobid_enabled", "proxy_ordering", "strict_open", "fee_ranges", "highest_bids_limit"]

/-- The settings that data in a dialect stand for.  Every setting has a default. -/
def Config.decodeIn (dialect : Dialect) (data : Json) : Option Config := do
  let m ← Members.of? Config.fields data dialect
  let standard : Config := {}
  return {
    autobidEnabled := ← m.withDefault "autobid_enabled" Json.bool? standard.autobidEnabled
    proxyOrdering := ← m.withDefault "proxy_ordering"
      (fun data => case? ProxyOrdering.ofName? data dialect) standard.proxyOrdering
    strictOpen := ← m.withDefault "strict_open" Json.bool? standard.strictOpen
    feeRanges := ← m.withDefault "fee_ranges" (list? (FeeRange.decodeIn dialect))
      standard.feeRanges
    listingLength := ← m.withDefault "highest_bids_limit" (Json.nat? 64)
      standard.listingLength }

instance : Wire Config where
  encode config := .obj
    [("autobid_enabled", .bool config.autobidEnabled),
     ("proxy_ordering", encode config.proxyOrdering), ("strict_open", .bool config.strictOpen),
     ("fee_ranges", ofList encode config.feeRanges),
     ("highest_bids_limit", .ofNat config.listingLength)]
  decode := Config.decodeIn .request

instance : Wire Standing where
  encode standing := .obj
    [("min_price", encode standing.minPrice), ("lead_bid", ofOption encode standing.lead)]
  decode data := do
    let m ← Members.of? ["min_price", "lead_bid"] data
    return {
      minPrice := ← m.required "min_price" decode
      lead := ← m.optional "lead_bid" decode }

end AuctionHouse
