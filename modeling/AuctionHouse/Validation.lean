import AuctionHouse.Phase
import AuctionHouse.Ranking
import AuctionHouse.Violation
import AuctionHouse.Decimal.Printer
import AuctionHouse.Instant.Printer

/-!
# Validation

The rules for bids, ceilings and purchases.  Every rule is looked at by itself, and all that are
broken are reported, in a fixed order.
-/

namespace AuctionHouse.Validation

/-- The violation of a rule as a list, which is empty if the rule holds. -/
def when (broken : Prop) [Decidable broken] (rule : Rule) (field : Field) (message : String) :
    List Violation :=
  if broken then [⟨rule, field, message⟩] else []

/-- The rules on time and state that bids and ceilings share (`status_violations`). -/
def statusViolations (item : Item) (status : PhaseStatus) (field : Field) : List Violation :=
  when (item.workflow = .notStarted) .notStarted field "This auction is not yet open!" ++
  when (item.workflow = .finished ∨ item.workflow = .closed) .finished field
    "This auction has been closed!" ++
  when (status.phase = .ended) .expired field
    ("Auction has expired! " ++ item.window.closes.textWithOffset)

/-- Which rule the kind of a bid breaks: automatic bids are for the house to make, and an item that
is only sold at once takes no standard ones. -/
def kindViolations (item : Item) : BidKind → List Violation
  | .auto =>
    [⟨.reservedKind, .amount, "Automatic bids are placed by the engine only."⟩]
  | .standard =>
    when item.instantOnly .instantOnly .amount "This item can only be bought instantly."
  | .instant => []

/-- The rules that a bid breaks (`validate_bid`). -/
def bidViolations (item : Item) (status : PhaseStatus) (standing : Standing) (user : UserId)
    (amount : Decimal) (kind : BidKind) : List Violation :=
  when (standing.leader? = some user) .selfOutbid .amount
    "You already hold the lead bid. Self outbidding is not allowed." ++
  statusViolations item status .amount ++
  when (amount < .zero) .negativeAmount .amount "Amount cannot be negative." ++
  when (amount < standing.minPrice ∨ ∃ lead ∈ standing.lead, amount < lead.amount)
    .insufficientAmount .amount
    ("This bid is not high enough. Current price is " ++ standing.minPrice.text ++ ".") ++
  kindViolations item kind

/-- The rules that a ceiling breaks (`validate_ceiling`). -/
def ceilingViolations (item : Item) (status : PhaseStatus) (standing : Standing)
    (ceiling : Decimal) (autobidEnabled : Bool) : List Violation :=
  when (autobidEnabled = false) .proxiesDisabled .ceiling "Automatic bidding is disabled." ++
  when item.instantOnly .instantOnly .ceiling "This item can only be bought instantly." ++
  statusViolations item status .ceiling ++
  when (ceiling ≤ .zero) .negativeAmount .ceiling "Ceiling must be positive." ++
  when (ceiling ≤ standing.minPrice) .ceilingTooLow .ceiling
    ("Your maximum has to be higher than the current highest bid of " ++ standing.minPrice.text ++
      ".")

/-- The rules that a purchase at the buy-now price breaks (`validate_buy_now`). -/
def buyNowViolations (item : Item) (status : PhaseStatus) : List Violation :=
  when (status.isClosed item.workflow) .auctionClosed .buyNow "Auction has closed!" ++
  when (item.buyNow? = none) .buyNowDisabled .buyNow "This item has no buy-now price."

end AuctionHouse.Validation
