import AuctionHouse.Config
import AuctionHouse.Store
import AuctionHouse.Visibility

/-!
# The house at work

The house serves calls on what it stores.  Access to the store can fail at any point, and a call
can stop; what it had written before it stopped stays written.  A call is an `Action`: a function
from the floor, that is the store with its outages and the notices sent, to an answer or a `Stop`
and the floor after it.
-/

namespace AuctionHouse

/-- What the house tells users (`EngineEvent`). -/
inductive Notice where
  /-- A leader has lost the lead. -/
  | outbid (item : ItemId) (round : Round) (previousLeader newLeader : UserId) (amount : Decimal)
  /-- A round has ended with a purchase. -/
  | closed (item : ItemId) (round : Round) (buyer : UserId) (amount : Decimal)
deriving DecidableEq

/-- When access to the store fails: `fails point n` says whether it does after `n` earlier calls of
the same point, and `calls` holds the points called so far. -/
structure Outages where
  fails : AccessPoint → Nat → Bool := fun _ _ => false
  calls : List AccessPoint := []

namespace Outages

/-- Points that let a number of calls pass each and fail from then on. -/
def ofCountdowns (countdowns : List (AccessPoint × Nat)) : Outages where
  fails point calls :=
    match countdowns.lookup point with
    | some passing => passing ≤ calls
    | none => false

/-- Whether the next call of a point fails. -/
def failsNow (outages : Outages) (point : AccessPoint) : Bool :=
  outages.fails point (outages.calls.count point)

/-- The outages after a call of a point. -/
def after (outages : Outages) (point : AccessPoint) : Outages :=
  { outages with calls := point :: outages.calls }

end Outages

/-- What calls work on. -/
structure Floor where
  store : Store := {}
  outages : Outages := {}
  /-- The notices sent, in their order. -/
  notices : List Notice := []

/-- A call, or a part of one. -/
abbrev Action := ExceptT Stop (StateM Floor)

namespace Action

/-- Stops with a refusal. -/
def refuse {α : Type} (refusal : Refusal) : Action α :=
  throw (.refused refusal)

/-- The answer of a computation that does not touch the floor. -/
def lift {α : Type} : Except Stop α → Action α
  | .ok value => pure value
  | .error stop => throw stop

/-- The answer of arithmetic. -/
def compute {α : Type} (answer : Except Fault α) : Action α :=
  lift (Stop.ofFault answer)

/-- What an action answers, a refusal included.  A fault is passed on. -/
def attempt {α : Type} (action : Action α) : Action (Except Refusal α) :=
  tryCatch (do return .ok (← action)) fun
    | .refused refusal => pure (.error refusal)
    | .faulted fault => throw (.faulted fault)

/-- Sends a notice (`notify`). -/
def notify (notice : Notice) : Action Unit :=
  modify fun floor => { floor with notices := floor.notices ++ [notice] }

/-- Whether the next call of a point fails; counts it. -/
def failing (point : AccessPoint) : Action Bool := do
  let floor ← get
  set { floor with outages := floor.outages.after point }
  return floor.outages.failsNow point

/-- Calls a point of the store, which may fail. -/
def reach (point : AccessPoint) : Action Unit := do
  if ← failing point then refuse (.storage (.unavailable point))

/-- Reads the store through a point. -/
def read {α : Type} (point : AccessPoint) (answer : Store → α) : Action α := do
  reach point
  return answer (← get).store

/-- Writes the store through a point. -/
def write {α : Type} (change : Store → Except StorageError (α × Store)) : Action α := do
  match change (← get).store with
  | .ok (answer, store) =>
    modify fun floor => { floor with store }
    return answer
  | .error error => refuse (.storage error)

/-- The item of a number. -/
def item? (id : ItemId) : Action (Option Item) :=
  read .item (·.item? id)

/-- The bids of a round. -/
def bidsFor (item : ItemId) (round : Round) : Action (List Bid) :=
  read .bidsFor (·.bidsFor item round)

/-- The active proxies of a round. -/
def activeProxies (item : ItemId) (round : Round) : Action (List Proxy) :=
  read .activeProxies (·.activeProxies item round)

/-- The active proxy of a user in a round. -/
def activeProxy? (item : ItemId) (round : Round) (user : UserId) : Action (Option Proxy) :=
  read .activeProxy (·.activeProxy? item round user)

/-- Puts an item in a state. -/
def setWorkflow (id : ItemId) (workflow : Workflow) : Action Unit := do
  reach .setWorkflow
  write fun store => do return ((), ← store.setWorkflow id workflow)

/-- Writes a batch of bids.  A batch that is lost is answered with no bids. -/
def append (bids : List NewBid) : Action (List Bid) := do
  reach .append
  if bids.length = 2 then reach .pair
  if ← failing .lost then return []
  write fun store => .ok (store.append bids)

/-- Writes a bid and puts its item in a state. -/
def appendClosing (bid : NewBid) (workflow : Workflow) : Action Bid := do
  reach .appendClosing
  write (·.appendClosing bid workflow)

/-- Puts a proxy in the place of the one of its number, or under the next number. -/
def putProxy (proxy : Proxy) : Action Proxy := do
  reach .putProxy
  write fun store => .ok (store.putProxy proxy)

/-- Takes the proxy of a number out. -/
def deleteProxy (id : ProxyId) : Action Unit := do
  reach .deleteProxy
  write fun store => .ok ((), store.deleteProxy id)

/-- The item of a number, which must exist (`load_item`). -/
def loadItem (id : ItemId) : Action Item := do
  match ← item? id with
  | some item => return item
  | none => refuse (.itemNotFound id)

/-- The item of a number, which must exist and be in a round (`load_round`). -/
def loadRound (id : ItemId) (round : Round) : Action Item := do
  let item ← loadItem id
  if item.round = round then return item
  else refuse (.roundMismatch item.round round)

/-- The standing of a round of an item (`current_highest`). -/
def standing (item : Item) (round : Round) : Action Standing := do
  return Ranking.standing item.startingPrice (← bidsFor item.id round)

end Action

/-- A house: its settings, where its fees come from, and who may bid (`BiddingEngine`). -/
structure House where
  config : Config := {}
  fees : FeeSchedule := FeeSchedule.ofRanges config.feeRanges
  mayBid : UserId → Bool := fun _ => true

namespace House

/-- The house that a configuration makes. -/
def ofConfig (config : Config) : House := { config }

/-- Stops if a user may not bid (`authorize`). -/
def authorize (house : House) (user : UserId) : Action Unit :=
  if house.mayBid user then pure () else .refuse .notAuthorized

end House

end AuctionHouse
