import AuctionHouse.Client.Command
import AuctionHouse.Client.Display
import AuctionHouse.Client.ErrorText

/-!
# Sessions

A session carries out commands against a node, which may be out of reach, and prints lines.  A
command that fails has printed what it printed before it failed.
-/

namespace AuctionHouse

open Wire

/-- Where requests go. -/
inductive Endpoint where
  | unreachable
  | serving (node : Node)

/-- What the endpoint answers to a request, and the endpoint after it.  A node that meets a fault
breaks off the connection. -/
def Endpoint.serve (endpoint : Endpoint) (method : String) (parameters : List Json) :
    Except ClientError Json × Endpoint :=
  match endpoint with
  | unreachable => (.error .unreachable, unreachable)
  | serving node =>
    let (answer, node) := node.serveMethod method (some (.arr parameters))
    match answer with
    | .ok value => (.ok value, serving node)
    | .error (.refused error) => (.error (.ofRpc error), serving node)
    | .error (.faulted _) => (.error .unreachable, serving node)

/-- Why a command fails. -/
inductive CommandFailure where
  | client (error : ClientError)
  | unknownWorkflow (name : String)
  | faulted (fault : Fault)

/-- What is said of a failure. -/
def CommandFailure.message : CommandFailure → String
  | client error => error.message
  | unknownWorkflow name => "Unknown workflow: " ++ name
  | faulted fault => fault.message

/-- The endpoint of a session, and the lines printed so far. -/
structure Terminal where
  endpoint : Endpoint
  lines : List String := []

/-- A command under way. -/
abbrev Session := ExceptT CommandFailure (StateM Terminal)

namespace Session

/-- Prints a line. -/
def print (line : String) : Session Unit :=
  modify fun terminal => { terminal with lines := terminal.lines ++ [line] }

/-- Sends a request and reads the answer. -/
def request {α : Type} (method : String) (parameters : List Json) (decode : Json → Option α) :
    Session α := do
  let terminal ← get
  let (answer, endpoint) := terminal.endpoint.serve method parameters
  set { terminal with endpoint }
  match answer with
  | .error error => throw (.client error)
  | .ok data =>
    match decode data with
    | some value => return value
    | none => throw (.client .unreadable)

/-- Prints the violations of a request that is rejected (`report_rejection`). -/
def reporting {α : Type} (session : Session α) : Session α :=
  tryCatch session fun failure => do
    if let .client (.rejected _ violations) := failure then
      print "Rejected:"
      violations.forM fun violation =>
        print ("  [" ++ violation.field ++ "] " ++ violation.message)
    throw failure

/-- The item of a number. -/
def item (id : ItemId) : Session (Option Item) :=
  request "query_getItem" [.ofNat id] (nullable? decode)

/-- The currency of an item (`currency_of`). -/
def currency (id : ItemId) : Session String := do
  return ((← item id).map Item.currency).getD "USD"

/-- Prints a bid behind some words. -/
def printBid (words : String) (bid : Bid) (currency : String) : Session Unit :=
  print (words ++ bid.line currency)

/-- Places a bid. -/
def placeBid (bid : BidRequest) : Session Unit := do
  let receipt : Receipt ← reporting (request "auction_placeBid" [encode bid] decode)
  let currency ← currency bid.item
  printBid "Bid accepted: " receipt.bid currency
  if let some counter := receipt.counter then
    printBid "Outbid by proxy: " counter currency

/-- Buys an item at its buy-now price. -/
def placeBuyNow (sender : UserId) (id : ItemId) : Session Unit := do
  let bid : Bid ← reporting
    (request "auction_placeBuyNow" [.ofNat sender, .ofNat id] decode)
  printBid "Purchased: " bid (← currency id)

/-- Sets a ceiling. -/
def setProxy (ceiling : CeilingRequest) : Session Unit := do
  let proxy : Proxy ← reporting (request "auction_setProxy" [encode ceiling] decode)
  print ("Proxy #" ++ proxy.id.repr ++ " set with ceiling " ++
    Money.display proxy.ceiling (← currency ceiling.item))

/-- Shows the highest bids of a round. -/
def showBids (id : ItemId) (round : Round) (limit : Option Nat) : Session Unit := do
  let bids : List Bid ← request "query_getHighestBids"
    [.ofNat id, encode round, ofOption .ofNat limit] (list? decode)
  if bids.isEmpty then print "No bids"
  else
    let currency ← currency id
    bids.forM fun bid => printBid "  " bid currency

/-- Carries out a command (`run`). -/
def carryOut : Command → Session Unit
  | .setClock now => do
    let clock : ClockReading ← request "admin_setTimestamp" [encode now] decode
    print ("Clock set to " ++ clock.now.textForPeople)
  | .advanceClock seconds => do
    let clock : ClockReading ← request "admin_advanceClock" [.int seconds] decode
    print ("Clock now " ++ clock.now.textForPeople)
  | .register terms => do
    let id ← request "admin_registerItem" [encode terms] (Json.nat? 64)
    print ("Item ID: " ++ id.repr)
  | .relist id => do
    let round : Round ← request "admin_relistItem" [.ofNat id] decode
    print ("Item " ++ id.repr ++ " relisted, round " ++ round.toNat.repr)
  | .setWorkflow id name =>
    match Workflow.ofName? name with
    | none => throw (.unknownWorkflow name)
    | some workflow => do
      let _ ← request "admin_setWorkflow" [.ofNat id, encode workflow] Json.bool?
      print ("Item " ++ id.repr ++ " workflow set to " ++ workflow.title)
  | .bid bid => placeBid bid
  | .buyNow sender id => placeBuyNow sender id
  | .setProxy ceiling => setProxy ceiling
  | .removeProxy sender id round => do
    let removed ← request "auction_removeProxy" [.ofNat sender, .ofNat id, encode round]
      Json.bool?
    print (if removed then "Proxy removed" else "No active proxy")
  | .state id round => do
    let view : AuctionView ← request "query_getAuctionState" [.ofNat id, encode round] decode
    let currency ← currency id
    (view.lines currency).forM print
  | .highestBids id round limit => showBids id round limit
  | .proxyStatus id round user => do
    let status : ProxyStatus ← request "query_getProxyStatus"
      [.ofNat id, encode round, .ofNat user] decode
    print (status.line (← currency id))
  | .fee price currency => do
    let quote : FeeQuote ← request "query_feeFor" [encode price, .str currency] decode
    match quote.line with
    | .ok line => print line
    | .error fault => throw (.faulted fault)
  | .item id => do
    match ← item id with
    | some item => item.lines.forM print
    | none => print ("Item " ++ id.repr ++ " not found")
  | .winner id round => do
    let winner : Option Bid ← request "query_getWinner" [.ofNat id, encode round]
      (nullable? decode)
    match winner with
    | some bid => printBid "Winner: " bid (← currency id)
    | none => print ("No bids in round " ++ round.toNat.repr)

end Session

/-- What a command comes to: its exit code, the lines printed, and what is said of a failure. -/
structure CommandResult where
  exitCode : Nat
  lines : List String := []
  error : Option String := none
deriving DecidableEq, Repr

/-- Carries out the command that words spell.  Words that spell none are refused without a word. -/
def Endpoint.execute (endpoint : Endpoint) (words : List String) : CommandResult × Endpoint :=
  match Command.ofWords? words with
  | none => ({ exitCode := 2 }, endpoint)
  | some command =>
    let (outcome, terminal) := (Session.carryOut command).run.run { endpoint }
    let result : CommandResult := match outcome with
      | .ok () => { exitCode := 0, lines := terminal.lines }
      | .error failure =>
        { exitCode := 1, lines := terminal.lines, error := some ("Error: " ++ failure.message) }
    (result, terminal.endpoint)

end AuctionHouse
