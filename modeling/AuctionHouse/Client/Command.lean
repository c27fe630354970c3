import AuctionHouse.Client.Options
import AuctionHouse.Node.Request

/-!
# Commands

What can be asked of a node from the command line: the first word names a command and the others
are its options.
-/

namespace AuctionHouse

/-- A command (`Commands`). -/
inductive Command where
  | setClock (now : Instant)
  | advanceClock (seconds : Int)
  | register (terms : Registration)
  | relist (item : ItemId)
  | setWorkflow (item : ItemId) (workflow : String)
  | bid (request : BidRequest)
  | buyNow (sender : UserId) (item : ItemId)
  | setProxy (request : CeilingRequest)
  | removeProxy (sender : UserId) (item : ItemId) (round : Round)
  | state (item : ItemId) (round : Round)
  | highestBids (item : ItemId) (round : Round) (limit : Option Nat)
  | proxyStatus (item : ItemId) (round : Round) (user : UserId)
  | fee (salePrice : Decimal) (currency : String)
  | item (item : ItemId)
  | winner (item : ItemId) (round : Round)
deriving DecidableEq

namespace Command

/-- The options of a command, if there is such a command. -/
def optionNames? : String → Option OptionNames
  | "set-timestamp" => some { valued := ["now"] }
  | "advance-clock" => some { valued := ["seconds"] }
  | "register-item" => some
    { valued :=
        ["name", "owner", "starting-price", "buy-now-price", "bid-step", "threshold-percent",
         "currency", "start", "end"]
      flags := ["instant-only"] }
  | "relist" => some { valued := ["item-id"] }
  | "set-workflow" => some { valued := ["item-id", "workflow"] }
  | "bid" => some { valued := ["sender", "item-id", "round", "amount"], flags := ["instant"] }
  | "buy-now" => some { valued := ["sender", "item-id"] }
  | "set-proxy" => some { valued := ["sender", "item-id", "round", "ceiling"] }
  | "remove-proxy" => some { valued := ["sender", "item-id", "round"] }
  | "state" => some { valued := ["item-id", "round"] }
  | "highest-bids" => some { valued := ["item-id", "round", "limit"] }
  | "proxy-status" => some { valued := ["item-id", "round", "user-id"] }
  | "fee" => some { valued := ["sale-price", "currency"] }
  | "get-item" => some { valued := ["item-id"] }
  | "winner" => some { valued := ["item-id", "round"] }
  | _ => none

/-- The item that options name. -/
def item? (options : Options) : Option ItemId := options.required "item-id" Options.number?

/-- The user in whose name a command is given. -/
def sender? (options : Options) : Option UserId := options.required "sender" Options.number?

/-- The round that options name, or the first. -/
def round? (options : Options) : Option Round := options.withDefault "round" Options.round? 0

/-- The terms that options give to an item. -/
def terms? (options : Options) : Option Registration := do
  return {
    name := ← options.required "name" some
    owner := ← options.required "owner" Options.number?
    startingPrice := ← options.required "starting-price" Decimal.ofText?
    buyNowPrice := ← options.optional "buy-now-price" Decimal.ofText?
    bidStep := ← options.optional "bid-step" Decimal.ofText?
    thresholdPercent := ← options.withDefault "threshold-percent" Decimal.ofText? (.whole 80)
    instantOnly := options.has "instant-only"
    currency := ← options.withDefault "currency" some "USD"
    opens := ← options.required "start" Instant.ofText?
    closes := ← options.required "end" Instant.ofText? }

/-- The bid that options ask for. -/
def bid? (options : Options) : Option BidRequest := do
  return {
    sender := ← sender? options
    item := ← item? options
    round := ← round? options
    amount := ← options.required "amount" Decimal.ofText?
    kind := if options.has "instant" then .instant else .standard }

/-- The ceiling that options ask for. -/
def ceiling? (options : Options) : Option CeilingRequest := do
  return {
    sender := ← sender? options
    item := ← item? options
    round := ← round? options
    ceiling := ← options.required "ceiling" Decimal.ofText? }

/-- The command of a name with options. -/
def ofOptions? (name : String) (options : Options) : Option Command := do
  match name with
  | "set-timestamp" => return setClock (← options.required "now" Instant.ofText?)
  | "advance-clock" => return advanceClock (← options.required "seconds" Options.signed?)
  | "register-item" => return register (← terms? options)
  | "relist" => return relist (← item? options)
  | "set-workflow" => return setWorkflow (← item? options) (← options.required "workflow" some)
  | "bid" => return bid (← bid? options)
  | "buy-now" => return buyNow (← sender? options) (← item? options)
  | "set-proxy" => return setProxy (← ceiling? options)
  | "remove-proxy" => return removeProxy (← sender? options) (← item? options) (← round? options)
  | "state" => return state (← item? options) (← round? options)
  | "highest-bids" =>
    return highestBids (← item? options) (← round? options)
      (← options.optional "limit" Options.number?)
  | "proxy-status" =>
    return proxyStatus (← item? options) (← round? options)
      (← options.required "user-id" Options.number?)
  | "fee" =>
    return fee (← options.required "sale-price" Decimal.ofText?)
      (← options.withDefault "currency" some "USD")
  | "get-item" => return item (← item? options)
  | "winner" => return winner (← item? options) (← round? options)
  | _ => none

/-- The command that words spell. -/
def ofWords? : List String → Option Command
  | [] => none
  | name :: words => do
    let options ← Options.read? (← optionNames? name) {} words
    ofOptions? name options

end Command

end AuctionHouse
