import AuctionHouse.Wire.Message

/-!
# Requests to a node

A node hosts a house.  Requests come by the name of a method with parameters by position or by
name; this module says what requests there are and how they are read.
-/

namespace AuctionHouse

open Wire

/-- The terms of an item that is to be registered (`RegisterItemParams`). -/
structure Registration where
  name : String
  owner : UserId
  startingPrice : Decimal
  /-- None, like zero, means that the item cannot be bought at once. -/
  buyNowPrice : Option Decimal := none
  /-- None asks for the step that goes with the starting price. -/
  bidStep : Option Decimal := none
  thresholdPercent : Decimal := .whole 80
  instantOnly : Bool := false
  currency : String := "USD"
  opens : Instant
  closes : Instant
deriving DecidableEq

/-- A bid as it is sent (`PlaceBidParams`). -/
structure BidRequest where
  sender : UserId
  item : ItemId
  round : Round
  amount : Decimal
  kind : BidKind := .standard
deriving DecidableEq

/-- A ceiling as it is sent (`SetProxyParams`). -/
structure CeilingRequest where
  sender : UserId
  item : ItemId
  round : Round
  ceiling : Decimal
deriving DecidableEq

/-- What the clock of a node shows (`ClockInfo`). -/
structure ClockReading where
  now : Instant
deriving DecidableEq

/-- The names of the terms of an item, in their order. -/
def Registration.fields : List String :=
  ["name", "owner", "starting_price", "buy_now_price", "bid_step", "threshold_percent",
   "instant_only", "currency", "start", "end"]

instance : Wire Registration where
  encode r := .obj
    [("name", .str r.name), ("owner", .ofNat r.owner),
     ("starting_price", encode r.startingPrice), ("buy_now_price", ofOption encode r.buyNowPrice),
     ("bid_step", ofOption encode r.bidStep), ("threshold_percent", encode r.thresholdPercent),
     ("instant_only", .bool r.instantOnly), ("currency", .str r.currency),
     ("start", encode r.opens), ("end", encode r.closes)]
  decode data := do
    let m ← Members.of? Registration.fields data
    return {
      name := ← m.required "name" Json.str?
      owner := ← m.required "owner" (Json.nat? 64)
      startingPrice := ← m.required "starting_price" decode
      buyNowPrice := ← m.withDefault "buy_now_price" (nullable? decode) none
      bidStep := ← m.withDefault "bid_step" (nullable? decode) none
      thresholdPercent := ← m.withDefault "threshold_percent" decode (.whole 80)
      instantOnly := ← m.withDefault "instant_only" Json.bool? false
      currency := ← m.withDefault "currency" Json.str? "USD"
      opens := ← m.required "start" decode
      closes := ← m.required "end" decode }

instance : Wire BidRequest where
  encode r := .obj
    [("sender", .ofNat r.sender), ("item_id", .ofNat r.item), ("round", encode r.round),
     ("amount", encode r.amount), ("kind", encode r.kind)]
  decode data := do
    let m ← Members.of? ["sender", "item_id", "round", "amount", "kind"] data
    return {
      sender := ← m.required "sender" (Json.nat? 64)
      item := ← m.required "item_id" (Json.nat? 64)
      round := ← m.required "round" decode
      amount := ← m.required "amount" decode
      kind := ← m.withDefault "kind" decode .standard }

instance : Wire CeilingRequest where
  encode r := .obj
    [("sender", .ofNat r.sender), ("item_id", .ofNat r.item), ("round", encode r.round),
     ("ceiling", encode r.ceiling)]
  decode data := do
    let m ← Members.of? ["sender", "item_id", "round", "ceiling"] data
    return {
      sender := ← m.required "sender" (Json.nat? 64)
      item := ← m.required "item_id" (Json.nat? 64)
      round := ← m.required "round" decode
      ceiling := ← m.required "ceiling" decode }

instance : Wire ClockReading where
  encode reading := .obj [("now", encode reading.now)]
  decode data := do
    let m ← Members.of? ["now"] data
    return { now := ← m.required "now" decode }

/-- A request to a node (`NodeApi`). -/
inductive Request where
  | setClock (now : Instant)
  | advanceClock (seconds : Int)
  | register (terms : Registration)
  | relist (item : ItemId)
  | setWorkflow (item : ItemId) (workflow : Workflow)
  | call (sender : UserId) (call : Call)
  | ask (query : Query)
deriving DecidableEq

namespace Request

/-- A bid as a request. -/
def ofBid (r : BidRequest) : Request :=
  call r.sender (.placeBid r.item r.round r.amount r.kind)

/-- A ceiling as a request. -/
def ofCeiling (r : CeilingRequest) : Request :=
  call r.sender (.setProxy r.item r.round r.ceiling)

/-- A name of several words in camel case. -/
def camelCase (name : String) : String :=
  let rec go : List Char → List Char
    | '_' :: c :: rest => c.toUpper :: go rest
    | c :: rest => c :: go rest
    | [] => []
  String.ofList (go name.toList)

/-- The value of a parameter that is given by name, in snake case or camel case but not both. -/
def named? (members : List (String × Json)) (name : String) : Option (Option Json) :=
  let camel := camelCase name
  match members.lookup name, if camel = name then none else members.lookup camel with
  | some _, some _ => none
  | some value, none => some value
  | none, other => some other

/-- The parameters of these names, each with its value if it was sent.  By position, there may be
more of them. -/
def parameters? (names : List String) : Option Json → Option (List (Option Json))
  | some (.arr elements) =>
    some (names.zipIdx.map fun (_, index) => elements[index]?)
  | some (.obj members) => names.mapM (named? members)
  | _ => none

/-- A single parameter. -/
def one? {α : Type} (name : String) (decode : Json → Option α) (sent : Option Json) :
    Option α := do
  match ← parameters? [name] sent with
  | [some value] => decode value
  | _ => none

/-- The item and round of a request, and what goes on behind them. -/
def itemAndRound? (more : List String) (sent : Option Json) :
    Option (ItemId × Round × List (Option Json)) := do
  match ← parameters? ("item_id" :: "round" :: more) sent with
  | some item :: some round :: rest => return (← item.nat? 64, ← decode round, rest)
  | _ => none

/-- How the parameters of a method are read, if there is such a method. -/
def reader? : String → Option (Option Json → Option Request)
  | "admin_setTimestamp" => some fun sent => do return .setClock (← one? "now" decode sent)
  | "admin_advanceClock" => some fun sent => do
    return .advanceClock (← one? "seconds" (Json.intIn? (-twoTo 63) (twoTo 63)) sent)
  | "admin_registerItem" => some fun sent => do return .register (← one? "params" decode sent)
  | "admin_relistItem" => some fun sent => do
    return .relist (← one? "item_id" (Json.nat? 64) sent)
  | "admin_setWorkflow" => some fun sent => do
    match ← parameters? ["item_id", "workflow"] sent with
    | [some item, some workflow] => return .setWorkflow (← item.nat? 64) (← decode workflow)
    | _ => none
  | "auction_placeBid" => some fun sent => do return .ofBid (← one? "params" decode sent)
  | "auction_placeBuyNow" => some fun sent => do
    match ← parameters? ["sender", "item_id"] sent with
    | [some sender, some item] => return .call (← sender.nat? 64) (.placeBuyNow (← item.nat? 64))
    | _ => none
  | "auction_setProxy" => some fun sent => do return .ofCeiling (← one? "params" decode sent)
  | "auction_removeProxy" => some fun sent => do
    match ← parameters? ["sender", "item_id", "round"] sent with
    | [some sender, some item, some round] =>
      return .call (← sender.nat? 64) (.removeProxy (← item.nat? 64) (← decode round))
    | _ => none
  | "query_getAuctionState" => some fun sent => do
    let (item, round, _) ← itemAndRound? [] sent
    return .ask (.auctionState item round)
  | "query_getHighestBids" => some fun sent => do
    let (item, round, rest) ← itemAndRound? ["limit"] sent
    let limit ← nullable? (Json.nat? 64) (rest.head?.join.getD .null)
    return .ask (.highestBids item round limit)
  | "query_getProxyStatus" => some fun sent => do
    match ← itemAndRound? ["user_id"] sent with
    | (item, round, [some user]) => return .ask (.proxyStatus item round (← user.nat? 64))
    | _ => none
  | "query_feeFor" => some fun sent => do
    match ← parameters? ["sale_price", "currency"] sent with
    | [some price, some currency] => return .ask (.feeFor (← decode price) (← currency.str?))
    | _ => none
  | "query_getItem" => some fun sent => do
    return .ask (.item (← one? "item_id" (Json.nat? 64) sent))
  | "query_getWinner" => some fun sent => do
    let (item, round, _) ← itemAndRound? [] sent
    return .ask (.winner item round)
  | _ => none

end Request

end AuctionHouse
