import AuctionHouse.Ranking
import AuctionHouse.Refusal

/-!
# What the house stores

Items and proxies under their numbers, and one ledger of all bids in the order in which they were
written.  The bids of a round are read off the ledger, so a bid cannot be filed under another round
than its own.  Every write is a function from a store to the next one.  Here and elsewhere the
operation that a definition renders stands in backticks in its comment.
-/

namespace AuctionHouse

/-- Items, bids and proxies, and the numbers that the next bid and the next proxy get
(`StoreState`). -/
structure Store where
  items : Table Item := .empty
  ledger : List Bid := []
  proxies : Table Proxy := .empty
  nextBidId : BidId := 1
  nextProxyId : ProxyId := 1

namespace Store

/-- The store with an item, in place of another of its number (`insert_item`). -/
def insertItem (store : Store) (item : Item) : Store :=
  { store with items := store.items.insert item.id item }

/-- The item of a number (`item`). -/
def item? (store : Store) (id : ItemId) : Option Item :=
  store.items.get? id

/-- Opens the next round of an item (`relist`). -/
def relist (store : Store) (id : ItemId) : Except Stop (Round × Store) :=
  match store.item? id with
  | none => .error (.ofStorage (.unknownItem id))
  | some item =>
    match item.round.next with
    | .ok round =>
      .ok (round, { store with items := store.items.modify id fun _ => item.reopened round })
    | .error fault => .error (.faulted fault)

/-- Puts an item in a state (`set_workflow`). -/
def setWorkflow (store : Store) (id : ItemId) (workflow : Workflow) : Except StorageError Store :=
  match store.item? id with
  | none => .error (.unknownItem id)
  | some _ =>
    .ok { store with items := store.items.modify id fun item => { item with workflow } }

/-- The bids of a round in the order in which they were written (`bids_for`). -/
def bidsFor (store : Store) (item : ItemId) (round : Round) : List Bid :=
  store.ledger.filter fun bid => bid.item = item && bid.round = round

/-- The number of bids of a round (`bid_count`). -/
def bidCount (store : Store) (item : ItemId) (round : Round) : Nat :=
  (store.bidsFor item round).length

/-- Writes a bid (part of `append`). -/
def write (store : Store) (bid : NewBid) : Bid × Store :=
  let written : Bid := { bid with id := store.nextBidId }
  (written, { store with
    ledger := store.ledger ++ [written]
    nextBidId := store.nextBidId + 1 })

/-- Writes a batch of bids (`append`). -/
def append (store : Store) : List NewBid → List Bid × Store
  | [] => ([], store)
  | bid :: rest =>
    let (written, store) := store.write bid
    let (others, store) := append store rest
    (written :: others, store)

/-- Writes a bid and puts its item in a state, both or neither (`append_closing`). -/
def appendClosing (store : Store) (bid : NewBid) (workflow : Workflow) :
    Except StorageError (Bid × Store) := do
  let (written, next) := store.write bid
  return (written, ← next.setWorkflow bid.item workflow)

/-- The active proxies of a round in the order of their numbers (`active_proxies`). -/
def activeProxies (store : Store) (item : ItemId) (round : Round) : List Proxy :=
  store.proxies.values.filter fun proxy =>
    proxy.active && proxy.item = item && proxy.round = round

/-- The active proxy of a user in a round (`active_proxy`). -/
def activeProxy? (store : Store) (item : ItemId) (round : Round) (user : UserId) :
    Option Proxy :=
  (store.activeProxies item round).find? (·.user = user)

/-- Puts a proxy in the place of the one of its number (`put_proxy`).  A number of zero asks for the
next one. -/
def putProxy (store : Store) (proxy : Proxy) : Proxy × Store :=
  if proxy.id = 0 then
    let numbered := { proxy with id := store.nextProxyId }
    (numbered, { store with
      proxies := store.proxies.insert numbered.id numbered
      nextProxyId := store.nextProxyId + 1 })
  else
    (proxy, { store with proxies := store.proxies.insert proxy.id proxy })

/-- Takes the proxy of a number out (`delete_proxy`). -/
def deleteProxy (store : Store) (id : ProxyId) : Store :=
  { store with proxies := store.proxies.erase id }

end Store

end AuctionHouse
