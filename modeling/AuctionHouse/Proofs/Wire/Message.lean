import AuctionHouse.Proofs.Wire.Auction
import AuctionHouse.Proofs.Wire.Tables

/-!
# The forms of messages

Calls, questions and answers: which forms they have, and that each of them is read as what it stands
for.
-/

namespace AuctionHouse

open Wire

instance : Format Receipt where
  Fits receipt := Fits receipt.bid ∧ ∀ counter ∈ receipt.counter, Fits counter
  Form receipt := Record [("bid", Form receipt.bid), ("counter", Optional Form receipt.counter)]
  plainZeros receipt :=
    { bid := plainZeros receipt.bid, counter := receipt.counter.map plainZeros }

instance : LawfulFormat Receipt where
  form_encode receipt := .object (.encoded (by simp [form_encode, optional_encode form_encode]))
  decode_form receipt fits _ form := Record.decoded form rfl (by decide)
    fun m ⟨bid, counter, _⟩ => by
    have counter_read := counter.optional
      (readAs_nullable rfl fun counter mem => decode_form counter (fits.2 counter mem))
    simp only [bid.decoded fits.1, counter_read, Option.bind_eq_bind, Option.bind_some]
    rfl

instance : Format Call where
  Fits
    | .placeBid item _ _ _ | .placeBuyNow item | .setProxy item _ _ | .removeProxy item _ =>
      item < twoTo 64
  Form
    | .placeBid item round amount kind => Tagged "PlaceBid" <| Content
      [("item_id", (· = .ofNat item)), ("round", Form round), ("amount", Form amount),
       ("kind", Form kind)]
    | .placeBuyNow item => Tagged "PlaceBuyNow" <| Content [("item_id", (· = .ofNat item))]
    | .setProxy item round ceiling => Tagged "SetProxy" <| Content
      [("item_id", (· = .ofNat item)), ("round", Form round), ("ceiling", Form ceiling)]
    | .removeProxy item round => Tagged "RemoveProxy" <| Content
      [("item_id", (· = .ofNat item)), ("round", Form round)]
  plainZeros
    | .placeBid item round amount kind => .placeBid item round amount.plainZeros kind
    | .setProxy item round ceiling => .setProxy item round ceiling.plainZeros
    | call => call

instance : LawfulFormat Call where
  form_encode call := by
    cases call with
    | placeBid => exact ⟨_, rfl, .encoded (by simp [form_encode])⟩
    | placeBuyNow => exact ⟨_, rfl, .encoded (by simp)⟩
    | setProxy => exact ⟨_, rfl, .encoded (by simp [form_encode])⟩
    | removeProxy => exact ⟨_, rfl, .encoded (by simp [form_encode])⟩
  decode_form call fits _ form := by
    cases call with
    | placeBid =>
      obtain ⟨content, rfl, form⟩ := form
      exact Content.decoded form (by simp) fun m ⟨item, round, amount, kind, _⟩ => by
        simp only [item.nat fits, round.decoded trivial, amount.decoded trivial, kind.decoded trivial,
          Option.bind_eq_bind, Option.bind_some]
        rfl
    | placeBuyNow =>
      obtain ⟨content, rfl, form⟩ := form
      exact Content.decoded form (by simp) fun m ⟨item, _⟩ => by
        simp only [item.nat fits, Option.bind_eq_bind, Option.bind_some]
        rfl
    | setProxy =>
      obtain ⟨content, rfl, form⟩ := form
      exact Content.decoded form (by simp) fun m ⟨item, round, ceiling, _⟩ => by
        simp only [item.nat fits, round.decoded trivial, ceiling.decoded trivial,
          Option.bind_eq_bind, Option.bind_some]
        rfl
    | removeProxy =>
      obtain ⟨content, rfl, form⟩ := form
      exact Content.decoded form (by simp) fun m ⟨item, round, _⟩ => by
        simp only [item.nat fits, round.decoded trivial, Option.bind_eq_bind, Option.bind_some]
        rfl

instance : Format Outcome where
  Fits
    | .bid receipt => Fits receipt
    | .purchase bid => Fits bid
    | .proxy proxy => Fits proxy
    | .proxyRemoved _ => True
  Form
    | .bid receipt => Tagged "Bid" (Form receipt)
    | .purchase bid => Tagged "Purchase" (Form bid)
    | .proxy proxy => Tagged "Proxy" (Form proxy)
    | .proxyRemoved removed => Tagged "ProxyRemoved" (· = .bool removed)
  plainZeros
    | .bid receipt => .bid (plainZeros receipt)
    | .purchase bid => .purchase (plainZeros bid)
    | .proxy proxy => .proxy (plainZeros proxy)
    | .proxyRemoved removed => .proxyRemoved removed

instance : LawfulFormat Outcome where
  form_encode outcome := by
    cases outcome with
    | bid receipt => exact ⟨_, rfl, form_encode receipt⟩
    | purchase bid => exact ⟨_, rfl, form_encode bid⟩
    | proxy proxy => exact ⟨_, rfl, form_encode proxy⟩
    | proxyRemoved removed => exact ⟨_, rfl, rfl⟩
  decode_form outcome fits _ form := by
    cases outcome with
    | bid receipt =>
      obtain ⟨content, rfl, form⟩ := form
      exact (decode_form receipt fits).inCase form Outcome.bid
    | purchase bid =>
      obtain ⟨content, rfl, form⟩ := form
      exact (decode_form bid fits).inCase form Outcome.purchase
    | proxy proxy =>
      obtain ⟨content, rfl, form⟩ := form
      exact (decode_form proxy fits).inCase form Outcome.proxy
    | proxyRemoved removed =>
      obtain ⟨content, rfl, form⟩ := form
      exact (readAs_bool removed).inCase form Outcome.proxyRemoved

instance : Format Phase := {}

instance : LawfulFormat Phase where
  form_encode _ := rfl
  decode_form phase _ := readAs_case phase.ofName?_name

instance : Format AuctionView where
  Fits view := view.item < twoTo 64 ∧ (∀ user ∈ view.leader, user < twoTo 64) ∧
    view.bidCount < twoTo 64
  Form view := Record
    [("item_id", (· = .ofNat view.item)), ("round", Form view.round),
     ("phase", Form view.phase), ("start_passed", (· = .bool view.startPassed)),
     ("end_passed", (· = .bool view.endPassed)), ("is_open", (· = .bool view.isOpen)),
     ("is_closed", (· = .bool view.isClosed)), ("min_price", Form view.minPrice),
     ("lead_bid_user_id", Optional (fun user data => data = .ofNat user) view.leader),
     ("buy_now_visible", (· = .bool view.buyNowVisible)),
     ("bid_count", (· = .ofNat view.bidCount))]
  plainZeros view := { view with minPrice := view.minPrice.plainZeros }

instance : LawfulFormat AuctionView where
  form_encode view := .object (.encoded (by simp [form_encode, optional_encode_nat]))
  decode_form view fits _ form := Record.decoded form rfl (by decide)
    fun m ⟨item, round, phase, startPassed, endPassed, isOpen, isClosed, minPrice, leader,
      buyNowVisible, bidCount, _⟩ => by
    obtain ⟨item_lt, leader_lt, count_lt⟩ := fits
    simp only [item.nat item_lt, round.decoded trivial, phase.decoded trivial, startPassed.bool,
      endPassed.bool, isOpen.bool, isClosed.bool, minPrice.decoded trivial,
      leader.optional (readAs_nullable_nat leader_lt), buyNowVisible.bool, bidCount.nat count_lt,
      Option.bind_eq_bind, Option.bind_some]
    rfl

instance : Format ProxyStatus where
  Fits status := ∀ proxy ∈ status.proxy, Fits proxy
  Form status := Record
    [("proxy", Optional Form status.proxy), ("min_price", Form status.minPrice),
     ("outbid", (· = .bool status.outbid))]
  plainZeros status := { status with
    proxy := status.proxy.map plainZeros
    minPrice := status.minPrice.plainZeros }

instance : LawfulFormat ProxyStatus where
  form_encode status := .object (.encoded (by simp [form_encode, optional_encode form_encode]))
  decode_form status fits _ form := Record.decoded form rfl (by decide)
    fun m ⟨proxy, minPrice, outbid, _⟩ => by
    have proxy_read := proxy.optional
      (readAs_nullable rfl fun proxy mem => decode_form proxy (fits proxy mem))
    simp only [proxy_read, minPrice.decoded trivial, outbid.bool, Option.bind_eq_bind,
      Option.bind_some]
    rfl

/-- The item and round of a question about a round, and what goes on behind them. -/
def Query.formsOfRound (item : ItemId) (round : Round) (more : List (String × (Json → Prop)) := []) :
    List (String × (Json → Prop)) :=
  ("item_id", (· = .ofNat item)) :: ("round", Form round) :: more

instance : Format Query where
  Fits
    | .auctionState item _ | .item item | .winner item _ | .uniqueBidders item _
    | .bidsByUser item _ => item < twoTo 64
    | .highestBids item _ limit => item < twoTo 64 ∧ ∀ n ∈ limit, n < twoTo 64
    | .proxyStatus item _ user => item < twoTo 64 ∧ user < twoTo 64
    | .feeFor _ _ => True
  Form
    | .auctionState item round =>
      Tagged "GetAuctionState" <| Content (Query.formsOfRound item round)
    | .highestBids item round limit => Tagged "GetHighestBids" <| Content
      (Query.formsOfRound item round [("limit", Optional (fun n data => data = .ofNat n) limit)])
    | .proxyStatus item round user => Tagged "GetProxyStatus" <| Content
      (Query.formsOfRound item round [("user_id", (· = .ofNat user))])
    | .feeFor price currency => Tagged "FeeFor" <| Content
      [("sale_price", Form price), ("currency", (· = .str currency))]
    | .item item => Tagged "GetItem" <| Content [("item_id", (· = .ofNat item))]
    | .winner item round => Tagged "GetWinner" <| Content (Query.formsOfRound item round)
    | .uniqueBidders item round =>
      Tagged "GetUniqueBidders" <| Content (Query.formsOfRound item round)
    | .bidsByUser item round => Tagged "GetBidsByUser" <| Content (Query.formsOfRound item round)
  plainZeros
    | .feeFor price currency => .feeFor price.plainZeros currency
    | query => query

/-- What asks about a round and nothing else is read from the item and the round. -/
theorem Query.decoded_ofRound {item : ItemId} {round : Round} {content : Json}
    (form : Content (Query.formsOfRound item round) content)
    (fits : item < twoTo 64) (make : ItemId → Round → Query) :
    (Members.ofContent? content >>= fun m => do
      return make (← m.required "item_id" (Json.nat? 64)) (← m.required "round" decode)) =
        some (make item round) :=
  Content.decoded form (by simp [Query.formsOfRound]) fun m ⟨hasItem, hasRound, _⟩ => by
    simp only [hasItem.nat fits, hasRound.decoded trivial, Option.bind_eq_bind, Option.bind_some]
    rfl

instance : LawfulFormat Query where
  form_encode query := by
    cases query with
    | feeFor => exact ⟨_, rfl, .encoded (by simp [form_encode])⟩
    | item => exact ⟨_, rfl, .encoded (by simp)⟩
    | highestBids => exact ⟨_, rfl, .encoded (by
        simp [Query.formsOfRound, Query.itemAndRound, form_encode, optional_encode_nat])⟩
    | _ => exact ⟨_, rfl, .encoded (by simp [Query.formsOfRound, Query.itemAndRound, form_encode])⟩
  decode_form query fits _ form := by
    cases query with
    | auctionState =>
      obtain ⟨content, rfl, form⟩ := form
      exact Query.decoded_ofRound form fits .auctionState
    | highestBids =>
      obtain ⟨content, rfl, form⟩ := form
      exact Content.decoded form (by simp [Query.formsOfRound]) fun m ⟨item, round, limit, _⟩ => by
        simp only [item.nat fits.1, round.decoded trivial,
          limit.optional (readAs_nullable_nat fits.2), Option.bind_eq_bind, Option.bind_some]
        rfl
    | proxyStatus =>
      obtain ⟨content, rfl, form⟩ := form
      exact Content.decoded form (by simp [Query.formsOfRound]) fun m ⟨item, round, user, _⟩ => by
        simp only [item.nat fits.1, round.decoded trivial, user.nat fits.2, Option.bind_eq_bind,
          Option.bind_some]
        rfl
    | feeFor =>
      obtain ⟨content, rfl, form⟩ := form
      exact Content.decoded form (by simp) fun m ⟨price, currency, _⟩ => by
        simp only [price.decoded trivial, currency.str, Option.bind_eq_bind, Option.bind_some]
        rfl
    | item =>
      obtain ⟨content, rfl, form⟩ := form
      exact Content.decoded form (by simp) fun m ⟨item, _⟩ => by
        simp only [item.nat fits, Option.bind_eq_bind, Option.bind_some]
        rfl
    | winner =>
      obtain ⟨content, rfl, form⟩ := form
      exact Query.decoded_ofRound form fits .winner
    | uniqueBidders =>
      obtain ⟨content, rfl, form⟩ := form
      exact Query.decoded_ofRound form fits .uniqueBidders
    | bidsByUser =>
      obtain ⟨content, rfl, form⟩ := form
      exact Query.decoded_ofRound form fits .bidsByUser

instance : Format Answer where
  Fits
    | .auctionState view => Fits view
    | .highestBids bids => ∀ bid ∈ bids, Fits bid
    | .proxyStatus status => Fits status
    | .fee quote => Fits quote
    | .item item => ∀ found ∈ item, Fits found
    | .winner bid => ∀ winner ∈ bid, Fits winner
    | .uniqueBidders users => ∀ user ∈ users, user < twoTo 64
    | .bidsByUser bids =>
      (∀ user ∈ bids.keys, user < twoTo 64) ∧ ∀ own ∈ bids.values, ∀ bid ∈ own, Fits bid
  Form
    | .auctionState view => Tagged "AuctionState" (Form view)
    | .highestBids bids => Tagged "HighestBids" (Listed Form bids)
    | .proxyStatus status => Tagged "ProxyStatus" (Form status)
    | .fee quote => Tagged "Fee" (Form quote)
    | .item item => Tagged "Item" (Optional Form item)
    | .winner bid => Tagged "Winner" (Optional Form bid)
    | .uniqueBidders users =>
      Tagged "UniqueBidders" (Listed (fun user data => data = .ofNat user) users)
    | .bidsByUser bids => Tagged "BidsByUser" (Tabled (Listed Form) bids)
  plainZeros
    | .auctionState view => .auctionState (plainZeros view)
    | .highestBids bids => .highestBids (bids.map plainZeros)
    | .proxyStatus status => .proxyStatus (plainZeros status)
    | .fee quote => .fee (plainZeros quote)
    | .item item => .item (item.map plainZeros)
    | .winner bid => .winner (bid.map plainZeros)
    | .uniqueBidders users => .uniqueBidders users
    | .bidsByUser bids => .bidsByUser (bids.mapValues (List.map plainZeros))

instance : LawfulFormat Answer where
  form_encode answer := by
    cases answer with
    | auctionState view => exact ⟨_, rfl, form_encode view⟩
    | highestBids bids => exact ⟨_, rfl, listed_encode form_encode bids⟩
    | proxyStatus status => exact ⟨_, rfl, form_encode status⟩
    | fee quote => exact ⟨_, rfl, form_encode quote⟩
    | item item => exact ⟨_, rfl, optional_encode form_encode item⟩
    | winner bid => exact ⟨_, rfl, optional_encode form_encode bid⟩
    | uniqueBidders users => exact ⟨_, rfl, listed_encode_nat users⟩
    | bidsByUser bids => exact ⟨_, rfl, tabled_encode (listed_encode form_encode) bids⟩
  decode_form answer fits _ form := by
    cases answer with
    | auctionState view =>
      obtain ⟨content, rfl, form⟩ := form
      exact (decode_form view fits).inCase form Answer.auctionState
    | highestBids bids =>
      obtain ⟨content, rfl, form⟩ := form
      exact (readAs_list fun bid mem => decode_form bid (fits bid mem)).inCase form
        Answer.highestBids
    | proxyStatus status =>
      obtain ⟨content, rfl, form⟩ := form
      exact (decode_form status fits).inCase form Answer.proxyStatus
    | fee quote =>
      obtain ⟨content, rfl, form⟩ := form
      exact (decode_form quote fits).inCase form Answer.fee
    | item item =>
      obtain ⟨content, rfl, form⟩ := form
      exact (readAs_nullable rfl fun found mem => decode_form found (fits found mem)).inCase form
        Answer.item
    | winner bid =>
      obtain ⟨content, rfl, form⟩ := form
      exact (readAs_nullable rfl fun winner mem => decode_form winner (fits winner mem)).inCase form
        Answer.winner
    | uniqueBidders users =>
      obtain ⟨content, rfl, form⟩ := form
      exact (readAs_list_nat fits).inCase form Answer.uniqueBidders
    | bidsByUser bids =>
      obtain ⟨content, rfl, form⟩ := form
      have bids_read := readAs_table fits.1 fun own mem =>
        readAs_list fun bid bid_mem => decode_form bid (fits.2 own mem bid bid_mem)
      exact bids_read.inCase form Answer.bidsByUser

end AuctionHouse
