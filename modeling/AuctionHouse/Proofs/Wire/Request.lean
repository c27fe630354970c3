import AuctionHouse.Node.Basic
import AuctionHouse.Proofs.Wire.Message

/-!
# What is sent comes back

The forms of requests to a node, and the main result about data: whatever is sent is read back from
every form of its data as what it was (`round_trip`), but for the minus sign of a zero.
-/

namespace AuctionHouse

open Wire

instance : Format ClockReading where
  Form reading := Record [("now", Form reading.now)]

instance : LawfulFormat ClockReading where
  form_encode reading := .object (.encoded (by simp [form_encode]))
  decode_form reading _ _ form := Record.decoded form rfl (by decide) fun m ⟨now, _⟩ => by
    simp only [now.decoded trivial, Option.bind_eq_bind, Option.bind_some]
    rfl

instance : Format Registration where
  Fits terms := terms.owner < twoTo 64
  Form terms := Record
    [("name", (· = .str terms.name)), ("owner", (· = .ofNat terms.owner)),
     ("starting_price", Form terms.startingPrice),
     ("buy_now_price", Optional Form terms.buyNowPrice), ("bid_step", Optional Form terms.bidStep),
     ("threshold_percent", Form terms.thresholdPercent),
     ("instant_only", (· = .bool terms.instantOnly)), ("currency", (· = .str terms.currency)),
     ("start", Form terms.opens), ("end", Form terms.closes)]
  plainZeros terms := { terms with
    startingPrice := terms.startingPrice.plainZeros
    buyNowPrice := terms.buyNowPrice.map plainZeros
    bidStep := terms.bidStep.map plainZeros
    thresholdPercent := terms.thresholdPercent.plainZeros }

instance : LawfulFormat Registration where
  form_encode terms := .object (.encoded (by simp [form_encode, optional_encode form_encode]))
  decode_form terms fits _ form := Record.decoded form rfl (by decide)
    fun m ⟨name, owner, startingPrice, buyNowPrice, bidStep, threshold, instantOnly, currency, opens,
      closes, _⟩ => by
    have price_read (price : Option Decimal) :
        ReadAs (nullable? decode) (Optional Form price) (price.map plainZeros) :=
      readAs_nullable rfl fun amount _ => decode_form amount trivial
    simp only [name.str, owner.nat fits, startingPrice.decoded trivial,
      buyNowPrice.withDefault (price_read _), bidStep.withDefault (price_read _),
      threshold.withDefault (decode_form _ trivial), instantOnly.withDefault (readAs_bool _),
      currency.withDefault (readAs_str _), opens.decoded trivial, closes.decoded trivial,
      Option.bind_eq_bind, Option.bind_some]
    rfl

instance : Format BidRequest where
  Fits request := request.sender < twoTo 64 ∧ request.item < twoTo 64
  Form request := Record
    [("sender", (· = .ofNat request.sender)), ("item_id", (· = .ofNat request.item)),
     ("round", Form request.round), ("amount", Form request.amount),
     ("kind", Form request.kind)]
  plainZeros request := { request with amount := request.amount.plainZeros }

instance : LawfulFormat BidRequest where
  form_encode request := .object (.encoded (by simp [form_encode]))
  decode_form request fits _ form := Record.decoded form rfl (by decide)
    fun m ⟨sender, item, round, amount, kind, _⟩ => by
    simp only [sender.nat fits.1, item.nat fits.2, round.decoded trivial, amount.decoded trivial,
      kind.withDefault (decode_form _ trivial), Option.bind_eq_bind, Option.bind_some]
    rfl

instance : Format CeilingRequest where
  Fits request := request.sender < twoTo 64 ∧ request.item < twoTo 64
  Form request := Record
    [("sender", (· = .ofNat request.sender)), ("item_id", (· = .ofNat request.item)),
     ("round", Form request.round), ("ceiling", Form request.ceiling)]
  plainZeros request := { request with ceiling := request.ceiling.plainZeros }

instance : LawfulFormat CeilingRequest where
  form_encode request := .object (.encoded (by simp [form_encode]))
  decode_form request fits _ form := Record.decoded form rfl (by decide)
    fun m ⟨sender, item, round, ceiling, _⟩ => by
    simp only [sender.nat fits.1, item.nat fits.2, round.decoded trivial, ceiling.decoded trivial,
      Option.bind_eq_bind, Option.bind_some]
    rfl

instance : Format ViolationReport where
  Form report := Record
    [("rule", (· = .str report.rule)), ("field", (· = .str report.field)),
     ("message", (· = .str report.message))]

instance : LawfulFormat ViolationReport where
  form_encode report := .object (.encoded (by simp))
  decode_form report _ _ form := Record.decoded form rfl (by decide)
    fun m ⟨rule, field, message, _⟩ => by
    simp only [rule.str, field.str, message.str, Option.bind_eq_bind, Option.bind_some]
    rfl

/-- All that is sent comes back: items, bids, proxies, fees, settings, calls, questions, answers and
requests are read from their data as what they were, with a plain zero for a negative one. -/
theorem sent_comes_back :
    RoundTrips Item ∧ RoundTrips NewBid ∧ RoundTrips Bid ∧ RoundTrips Proxy ∧
      RoundTrips FeeRange ∧ RoundTrips FeeQuote ∧ RoundTrips Config ∧
      RoundTrips Call ∧ RoundTrips Receipt ∧ RoundTrips Outcome ∧
      RoundTrips Query ∧ RoundTrips Answer ∧ RoundTrips AuctionView ∧ RoundTrips ProxyStatus ∧
      RoundTrips ClockReading ∧ RoundTrips Registration ∧ RoundTrips BidRequest ∧
      RoundTrips CeilingRequest ∧ RoundTrips ViolationReport :=
  ⟨roundTrips, roundTrips, roundTrips, roundTrips, roundTrips, roundTrips, roundTrips, roundTrips,
    roundTrips, roundTrips, roundTrips, roundTrips, roundTrips, roundTrips, roundTrips, roundTrips,
    roundTrips, roundTrips, roundTrips⟩

/-- A fee range with trailing zeros comes back from an object with its members the other way round
and another one among them, and from an array. -/
theorem sent_comes_back_vase :
    let range : FeeRange := ⟨.zero, .ofParts 30 3, .whole 15⟩
    decode (encode range) = some range ∧
      decode (.obj [("note", .null), ("single_auction_fee", .str "15"),
        ("sell_price_fee", .str "0.030"), ("from", .str "0")]) = some range ∧
      decode (.arr [.str "0", .str "0.030", .str "15"]) = some range := by
  intro range
  obtain ⟨-, -, -, -, ranges, -⟩ := sent_comes_back
  obtain ⟨read_back, same⟩ := ranges range trivial
  have start_text : encode range.start = .str "0" := congrArg Json.str (by decide +kernel)
  have fraction_text : encode range.fraction = .str "0.030" := congrArg Json.str (by decide +kernel)
  have flat_text : encode range.flat = .str "15" := congrArg Json.str (by decide +kernel)
  let given : List (String × Json) :=
    [("from", encode range.start), ("sell_price_fee", encode range.fraction),
     ("single_auction_fee", encode range.flat)]
  have members : Form range (.obj [("note", .null), ("single_auction_fee", encode range.flat),
      ("sell_price_fee", encode range.fraction), ("from", encode range.start)]) :=
    .object (@Content.intro _ given [("note", .null)] _ (by simp [given, form_encode]) (by simp)
      (List.reverse_perm (given ++ [("note", Json.null)])))
  have elements : Form range (.arr [encode range.start, encode range.fraction, encode range.flat]) :=
    .array (.cons rfl (.cons rfl (.cons rfl .nil)))
  rw [flat_text, fraction_text, start_text] at members elements
  exact ⟨read_back, (same _ members).trans read_back, (same _ elements).trans read_back⟩

/-- A zero comes back without its minus sign.  The name of a case is the only member of its object,
and the fields of a case do not come as an array. -/
theorem zero_comes_back_plain :
    let ceiling : Decimal := ⟨true, 0, 28, by decide, by decide⟩
    let request : CeilingRequest := ⟨2, 1, 0, ceiling⟩
    let fields : Json := .obj [("item_id", .int 1), ("round", .int 0)]
    Decimal.ofText? "-0.4e-28" = some ceiling ∧
      decode (encode request) = some { request with ceiling := ceiling.unsigned } ∧
      decode (encode request) ≠ some request ∧
      decode (.obj [("RemoveProxy", fields)]) = some (Call.removeProxy 1 0) ∧
      decode (.obj [("RemoveProxy", fields), ("note", .null)]) = (none : Option Call) ∧
      decode (.obj [("RemoveProxy", .arr [.int 1, .int 0])]) = (none : Option Call) := by
  decide +kernel

end AuctionHouse
