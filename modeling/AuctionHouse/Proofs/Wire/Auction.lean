import AuctionHouse.Wire.Auction
import AuctionHouse.Proofs.Decimal.Text
import AuctionHouse.Proofs.Instant.Text
import AuctionHouse.Proofs.Wire.Forms

/-!
# The forms of auctions

Items, bids, proxies, fees and settings: which forms they have, and that each of them is read as what
it stands for.  Numbers of users, items, bids and proxies have to fit into 64 bits.
-/

namespace AuctionHouse

open Wire

instance : Format Decimal where
  plainZeros := Decimal.plainZeros

instance : LawfulFormat Decimal where
  form_encode _ := rfl
  decode_form amount _ := by
    rintro _ rfl
    exact amount.ofText?_text

instance : Format Instant := {}

instance : LawfulFormat Instant where
  form_encode _ := rfl
  decode_form moment _ := by
    rintro _ rfl
    exact (Option.bind_some ..).trans moment.ofText?_text

instance : Format Round := {}

instance : LawfulFormat Round where
  form_encode _ := rfl
  decode_form round _ := by
    rintro _ rfl
    have number := readAs_nat round.toNat_lt _ rfl
    exact (congrArg (Option.map UInt32.ofNat) number).trans
      (congrArg some UInt32.ofNat_toNat)

instance : Format Workflow := {}

instance : LawfulFormat Workflow where
  form_encode _ := rfl
  decode_form workflow _ := readAs_case workflow.ofName?_name

instance : Format BidKind := {}

instance : LawfulFormat BidKind where
  form_encode _ := rfl
  decode_form kind _ := readAs_case kind.ofName?_name

instance : Format PurchaseOffer := {}

instance : LawfulFormat PurchaseOffer where
  form_encode _ := rfl
  decode_form offer _ := readAs_case offer.ofName?_name

instance : Format ProxyOrdering := {}

instance : LawfulFormat ProxyOrdering where
  form_encode _ := rfl
  decode_form ordering _ := readAs_case ordering.ofName?_name

instance : Format Window where
  Form window := Record [("start", Form window.opens), ("end", Form window.closes)]

instance : LawfulFormat Window where
  form_encode window := .object (.encoded (by simp [form_encode]))
  decode_form window _ _ form := Record.decoded form rfl (by decide) fun m ⟨opens, closes, _⟩ => by
    simp only [opens.decoded trivial, closes.decoded trivial, Option.bind_eq_bind, Option.bind_some]
    rfl

instance : Format Item where
  Fits item := item.id < twoTo 64 ∧ item.owner < twoTo 64
  Form item := Record
    [("id", (· = .ofNat item.id)), ("name", (· = .str item.name)),
     ("owner", (· = .ofNat item.owner)), ("starting_price", Form item.startingPrice),
     ("buy_now_price", Form item.buyNowPrice), ("bid_step", Form item.bidStep),
     ("threshold_percent", Form item.thresholdPercent),
     ("instant_only", (· = .bool item.instantOnly)), ("currency", (· = .str item.currency)),
     ("workflow", Form item.workflow), ("window", Form item.window),
     ("relist_count", Form item.round)]
  plainZeros item := { item with
    startingPrice := item.startingPrice.plainZeros
    buyNowPrice := item.buyNowPrice.plainZeros
    bidStep := item.bidStep.plainZeros
    thresholdPercent := item.thresholdPercent.plainZeros }

instance : LawfulFormat Item where
  form_encode item := .object (.encoded (by simp [form_encode]))
  decode_form item fits _ form := Record.decoded form rfl (by decide)
    fun m ⟨id, name, owner, startingPrice, buyNowPrice, bidStep, threshold, instantOnly, currency,
      workflow, window, round, _⟩ => by
    obtain ⟨id_lt, owner_lt⟩ := fits
    simp only [id.nat id_lt, name.str, owner.nat owner_lt, startingPrice.decoded trivial,
      buyNowPrice.decoded trivial, bidStep.decoded trivial, threshold.decoded trivial,
      instantOnly.bool, currency.str, workflow.decoded trivial, window.decoded trivial,
      round.decoded trivial, Option.bind_eq_bind, Option.bind_some]
    rfl

/-- The fields of a bid that is not yet in the ledger. -/
def NewBid.forms (bid : NewBid) : List (String × (Json → Prop)) :=
  [("item_id", (· = .ofNat bid.item)), ("user_id", (· = .ofNat bid.user)),
   ("amount", Form bid.amount), ("kind", Form bid.kind), ("purchase_offer", Form bid.offer),
   ("round", Form bid.round), ("created_at", Form bid.createdAt)]

instance : Format NewBid where
  Fits bid := bid.item < twoTo 64 ∧ bid.user < twoTo 64
  Form bid := Record bid.forms
  plainZeros bid := { bid with amount := bid.amount.plainZeros }

theorem NewBid.ofMembers?_of_hasAll {bid : NewBid} {m : Members} (has : m.HasAll bid.forms)
    (fits : Fits bid) : NewBid.ofMembers? m = some (plainZeros bid) := by
  obtain ⟨item, user, amount, kind, offer, round, createdAt, -⟩ := has
  obtain ⟨item_lt, user_lt⟩ := fits
  simp only [NewBid.ofMembers?, item.nat item_lt, user.nat user_lt, amount.decoded trivial,
    kind.decoded trivial, offer.decoded trivial, round.decoded trivial, createdAt.decoded trivial,
    Option.bind_eq_bind, Option.bind_some]
  rfl

instance : LawfulFormat NewBid where
  form_encode bid := .object (.encoded (by simp [NewBid.forms, NewBid.members, form_encode]))
  decode_form _ fits _ form := Record.decoded form rfl (by decide)
    fun _ has => NewBid.ofMembers?_of_hasAll has fits

instance : Format Bid where
  Fits bid := bid.id < twoTo 64 ∧ Fits bid.toNewBid
  Form bid := Record (("id", (· = .ofNat bid.id)) :: bid.toNewBid.forms)
  plainZeros bid := { bid with amount := bid.amount.plainZeros }

instance : LawfulFormat Bid where
  form_encode bid := .object (.encoded (by simp [NewBid.forms, NewBid.members, form_encode]))
  decode_form bid fits _ form := Record.decoded form rfl (by decide) fun m ⟨id, rest⟩ => by
    simp only [id.nat fits.1, NewBid.ofMembers?_of_hasAll rest fits.2, Option.bind_eq_bind,
      Option.bind_some]
    rfl

instance : Format Proxy where
  Fits proxy := proxy.id < twoTo 64 ∧ proxy.item < twoTo 64 ∧ proxy.user < twoTo 64
  Form proxy := Record
    [("id", (· = .ofNat proxy.id)), ("item_id", (· = .ofNat proxy.item)),
     ("user_id", (· = .ofNat proxy.user)), ("ceiling", Form proxy.ceiling),
     ("round", Form proxy.round), ("active", (· = .bool proxy.active)),
     ("created_at", Form proxy.createdAt), ("updated_at", Form proxy.updatedAt)]
  plainZeros proxy := { proxy with ceiling := proxy.ceiling.plainZeros }

instance : LawfulFormat Proxy where
  form_encode proxy := .object (.encoded (by simp [form_encode]))
  decode_form proxy fits _ form := Record.decoded form rfl (by decide)
    fun m ⟨id, item, user, ceiling, round, active, createdAt, updatedAt, _⟩ => by
    obtain ⟨id_lt, item_lt, user_lt⟩ := fits
    simp only [id.nat id_lt, item.nat item_lt, user.nat user_lt, ceiling.decoded trivial,
      round.decoded trivial, active.bool, createdAt.decoded trivial, updatedAt.decoded trivial,
      Option.bind_eq_bind, Option.bind_some]
    rfl

instance : Format FeeRange where
  Form range := Record
    [("from", Form range.start), ("sell_price_fee", Form range.fraction),
     ("single_auction_fee", Form range.flat)]
  plainZeros range :=
    { start := range.start.plainZeros
      fraction := range.fraction.plainZeros
      flat := range.flat.plainZeros }

instance : LawfulFormat FeeRange where
  form_encode range := .object (.encoded (by simp [form_encode]))
  decode_form range _ _ form := Record.decoded form rfl (by decide)
    fun m ⟨start, fraction, flat, _⟩ => by
    simp only [start.decoded trivial, fraction.decoded trivial, flat.decoded trivial,
      Option.bind_eq_bind, Option.bind_some]
    rfl

instance : Format FeeQuote where
  Form quote := Record
    [("sale_price", Form quote.salePrice), ("currency", (· = .str quote.currency)),
     ("fraction", Form quote.fraction), ("flat", Form quote.flat), ("total_fee", Form quote.total)]
  plainZeros quote := { quote with
    salePrice := quote.salePrice.plainZeros
    fraction := quote.fraction.plainZeros
    flat := quote.flat.plainZeros
    total := quote.total.plainZeros }

instance : LawfulFormat FeeQuote where
  form_encode quote := .object (.encoded (by simp [form_encode]))
  decode_form quote _ _ form := Record.decoded form rfl (by decide)
    fun m ⟨salePrice, currency, fraction, flat, total, _⟩ => by
    simp only [salePrice.decoded trivial, currency.str, fraction.decoded trivial,
      flat.decoded trivial, total.decoded trivial, Option.bind_eq_bind, Option.bind_some]
    rfl

instance : Format Config where
  Fits config := config.listingLength < twoTo 64
  Form config := Record
    [("autobid_enabled", (· = .bool config.autobidEnabled)),
     ("proxy_ordering", Form config.proxyOrdering), ("strict_open", (· = .bool config.strictOpen)),
     ("fee_ranges", Listed Form config.feeRanges),
     ("highest_bids_limit", (· = .ofNat config.listingLength))]
  plainZeros config := { config with feeRanges := config.feeRanges.map plainZeros }

instance : LawfulFormat Config where
  form_encode config := .object (.encoded (by simp [form_encode, listed_encode form_encode]))
  decode_form config fits _ form := Record.decoded form rfl (by decide)
    fun m ⟨autobid, ordering, strict, ranges, length, _⟩ => by
    have ordering_read (default : ProxyOrdering) : m.withDefault "proxy_ordering"
        (fun data => case? ProxyOrdering.ofName? data) default = some config.proxyOrdering :=
      ordering.withDefault (decode_form config.proxyOrdering trivial) default
    have ranges_read (default : List FeeRange) : m.withDefault "fee_ranges"
        (list? (FeeRange.decodeIn .request)) default = some (config.feeRanges.map plainZeros) :=
      ranges.withDefault (readAs_list fun range _ => decode_form range trivial) default
    simp only [autobid.withDefault (readAs_bool _), ordering_read, strict.withDefault (readAs_bool
      _), ranges_read, length.withDefault (readAs_nat fits), Option.bind_eq_bind, Option.bind_some]
    rfl

end AuctionHouse
