import AuctionHouse.Item

/-!
# Bids and proxies

A bid is an offer once made and never changed.  A proxy is a ceiling up to which the house bids for
its owner.
-/

namespace AuctionHouse

/-- The number of a bid. -/
abbrev BidId := Nat

/-- The number of a proxy. -/
abbrev ProxyId := Nat

/-- How a bid came about.  The house makes the automatic ones on behalf of a proxy. -/
inductive BidKind where
  | standard
  | instant
  | auto
deriving DecidableEq, Repr

namespace BidKind

/-- All kinds, in their order. -/
def all : List BidKind := [standard, instant, auto]

/-- The name of a kind in data. -/
def name : BidKind → String
  | standard => "standard"
  | instant => "instant"
  | auto => "auto"

/-- The kind of a name in data. -/
def ofName? (name : String) : Option BidKind :=
  all.find? (·.name = name)

/-- The name of a kind for people (`kind_label`). -/
def label : BidKind → String
  | standard => "manual"
  | instant => "instant"
  | auto => "auto"

@[simp] theorem ofName?_name (k : BidKind) : ofName? k.name = some k := by cases k <;> rfl

end BidKind

/-- What has become of an offer to buy that goes with a bid. -/
inductive PurchaseOffer where
  | notApplicable
  | pending
  | rejected
  | purchased
deriving DecidableEq, Repr

namespace PurchaseOffer

/-- All states of an offer, in their order. -/
def all : List PurchaseOffer := [notApplicable, pending, rejected, purchased]

/-- The number under which a state is kept (`code`). -/
def code : PurchaseOffer → Int
  | notApplicable => 0
  | pending => 2
  | rejected => -1
  | purchased => 3

/-- The state kept under a number (`from_code`). -/
def ofCode? (code : Int) : Option PurchaseOffer :=
  all.find? (·.code = code)

/-- The name of a state in data. -/
def name : PurchaseOffer → String
  | notApplicable => "not_applicable"
  | pending => "pending"
  | rejected => "rejected"
  | purchased => "purchased"

/-- The state of a name in data. -/
def ofName? (name : String) : Option PurchaseOffer :=
  all.find? (·.name = name)

@[simp] theorem ofCode?_code (o : PurchaseOffer) : ofCode? o.code = some o := by cases o <;> rfl

@[simp] theorem ofName?_name (o : PurchaseOffer) : ofName? o.name = some o := by cases o <;> rfl

end PurchaseOffer

/-- A bid that is not yet in the ledger. -/
structure NewBid where
  item : ItemId
  user : UserId
  amount : Decimal
  kind : BidKind
  offer : PurchaseOffer
  round : Round
  createdAt : Instant
deriving DecidableEq

/-- A bid in the ledger, under its number. -/
structure Bid extends NewBid where
  id : BidId
deriving DecidableEq

/-- Whether a bid counts towards the price: one whose offer was rejected does not
(`counts_toward_price`). -/
def NewBid.counts (bid : NewBid) : Bool := bid.offer ≠ .rejected

/-- A standing order to bid for a user up to a ceiling (`AutobidProxy`). -/
structure Proxy where
  id : ProxyId
  item : ItemId
  user : UserId
  ceiling : Decimal
  round : Round
  active : Bool
  createdAt : Instant
  updatedAt : Instant
deriving DecidableEq

end AuctionHouse
