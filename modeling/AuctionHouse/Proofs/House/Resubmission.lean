import AuctionHouse.Proofs.House.Counters

/-!
# Bids that are made again

Right after a bid by hand, the same bid of the same user is up to what came of the first one.  If
it was answered by a higher one, the price is above it; if it leads, its user may not outbid
themselves.  So it is refused (`Receipt.violationsAgain`), with one exception: a bid that only equals
an older lead does not take it (`Receipt.Trails`), so that neither rule is broken and it is written a
second time.
-/

namespace AuctionHouse

namespace Receipt

/-- Whether a bid leads by itself: its answer is not above it, and no older lead withstands it. -/
def BidLeads (receipt : Receipt) (before : Standing) : Prop :=
  ¬ receipt.bid.amount < receipt.top.amount ∧ ¬ before.Withstands receipt.bid.toNewBid

instance (receipt : Receipt) (before : Standing) : Decidable (receipt.BidLeads before) :=
  inferInstanceAs (Decidable (_ ∧ ¬ _))

/-- Whether a bid trails an older lead of as much: its answer is not above it either. -/
def Trails (receipt : Receipt) (before : Standing) : Prop :=
  ¬ receipt.bid.amount < receipt.top.amount ∧ before.Withstands receipt.bid.toNewBid

/-- The rules that a bid breaks when it is made again. -/
def violationsAgain (receipt : Receipt) (before : Standing) (window : Window) (again : Instant) :
    List Violation :=
  Validation.when (receipt.BidLeads before) .selfOutbid .amount
    "You already hold the lead bid. Self outbidding is not allowed." ++
  Validation.when (window.closes < again) .expired .amount
    ("Auction has expired! " ++ window.closes.textWithOffset) ++
  Validation.when (receipt.bid.amount < receipt.top.amount) .insufficientAmount .amount
    ("This bid is not high enough. Current price is " ++ receipt.top.amount.text ++ ".")

theorem violationsAgain_eq_nil_iff {receipt : Receipt} {before : Standing} {window : Window}
    {again : Instant} : receipt.violationsAgain before window again = [] ↔
      receipt.Trails before ∧ ¬ window.closes < again := by
  simp only [violationsAgain, List.append_eq_nil_iff, Validation.when_eq_nil_iff]
  unfold BidLeads Trails
  tauto

end Receipt

theorem Validation.when_congr {broken broken' : Prop} [Decidable broken] [Decidable broken']
    (same : broken ↔ broken') (rule : Rule) (field : Field) (message : String) :
    when broken rule field message = when broken' rule field message :=
  if_congr same rfl rfl

namespace House

variable {house : House} {store : Store} {caller : Caller} {id : ItemId} {round : Round}
  {amount : Decimal} {kind : BidKind} {item : Item} {counter : Option NewBid}

/-- A bid is answered as the same one at another time. -/
theorem answerTo_later {after : Store} {bid : NewBid}
    (same : after.activeProxies bid.item bid.round = store.activeProxies bid.item bid.round)
    (again : Instant) :
    house.answerTo after item { bid with createdAt := again } =
      (house.answerTo store item bid).map
        (Option.map fun counter => { counter with createdAt := again }) := by
  unfold answerTo
  split
  · rw [same]
    unfold counterBid
    cases strongestRival? (store.activeProxies bid.item bid.round) bid.user
      house.config.proxyOrdering with
    | none => rfl
    | some rival =>
      simp only
      cases Settlement.counterAmount bid.amount rival.ceiling item.bidStep with
      | error fault => rfl
      | ok amount? => cases amount? <;> rfl
  · rfl

section Again

variable (kept : house.Kept store)
  (taken : BidTaken house store caller id round amount kind item counter)

include kept taken

/-- What leads after a bid has the highest amount of the receipt.  It is of the caller exactly if
the bid leads by itself, and it is the answer if that is above the bid. -/
theorem exists_lead_bid :
    let bid := byHand caller id round amount kind
    let result := receipt store bid counter
    ∃ lead, ((store.append (bid :: counter.toList)).2.standing item round).lead = some lead ∧
      result.top.amount.SameValue lead.amount ∧
      (lead.user = caller.user ↔ result.BidLeads (store.standing item round)) ∧
      (result.bid.amount < result.top.amount → lead = result.top) := by
  intro bid result
  obtain ⟨not_leading, -⟩ := Validation.bidViolations_eq_nil_iff.1 taken.valid
  obtain ⟨lead, leads, -, same⟩ := leadOver_receipt kept taken
  refine ⟨lead, (lead_bid kept taken).trans leads, same, ?_⟩
  have leads : result.leadOver (store.standing item round) = some lead := leads
  unfold Receipt.leadOver at leads
  unfold Receipt.BidLeads
  by_cases above : result.bid.amount < result.top.amount
  · rw [if_pos above] at leads
    obtain rfl : result.top = lead := Option.some.inj leads
    refine ⟨⟨fun own => ?_, fun own => absurd above own.1⟩, fun _ => rfl⟩
    cases counter with
    | none => exact absurd above (Decimal.lt_irrefl _)
    | some counter => exact absurd own (counter_user_ne taken)
  · rw [if_neg above] at leads
    refine ⟨?_, fun higher => absurd higher above⟩
    by_cases withstood : (store.standing item round).Withstands result.bid.toNewBid
    · rw [if_pos withstood] at leads
      refine ⟨fun own => absurd ?_ not_leading, fun own => absurd withstood own.2⟩
      rw [Standing.leader?, leads, ← own]
      rfl
    · rw [if_neg withstood] at leads
      obtain rfl : result.bid = lead := Option.some.inj leads
      exact ⟨fun _ => ⟨above, withstood⟩, fun _ => rfl⟩

/-- After a bid, its amount is too low exactly if its answer is above it, and then the price is the
amount of the answer. -/
theorem price_after_bid :
    let bid := byHand caller id round amount kind
    let result := receipt store bid counter
    let standing := (store.append (bid :: counter.toList)).2.standing item round
    ((amount.roundCents < standing.minPrice ∨
        ∃ lead ∈ standing.lead, amount.roundCents < lead.amount) ↔
      result.bid.amount < result.top.amount) ∧
    (result.bid.amount < result.top.amount → standing.minPrice = result.top.amount) := by
  intro bid result standing
  obtain ⟨lead, leads, same, -, top_of_lt⟩ := exists_lead_bid kept taken
  obtain ⟨-, -, -, price_le, -, -⟩ := Validation.bidViolations_eq_nil_iff.1 taken.valid
  have start_le : item.startingPrice ≤ amount.roundCents :=
    le_trans (Ranking.startingPrice_le_minPrice _ _) price_le
  have price_eq : standing.minPrice = max item.startingPrice lead.amount :=
    Ranking.minPrice_of_some leads
  have below_iff : amount.roundCents < lead.amount ↔ result.bid.amount < result.top.amount := by
    rw [Decimal.lt_iff_value_lt, Decimal.lt_iff_value_lt, Decimal.sameValue_iff_value_eq.1 same]
    rfl
  constructor
  · rw [← below_iff, price_eq]
    constructor
    · rintro (below | ⟨other, other_leads, below⟩)
      · rw [Decimal.lt_iff_value_lt, Decimal.value_max, lt_max_iff] at below
        rw [Decimal.lt_iff_value_lt]
        exact below.resolve_left (not_lt.2 (Decimal.le_iff_value_le.1 start_le))
      · obtain rfl : lead = other := Option.some.inj (leads.symm.trans other_leads)
        exact below
    · exact fun below => .inr ⟨lead, leads, below⟩
  · intro above
    have start_lt : item.startingPrice < lead.amount := lt_of_le_of_lt start_le (below_iff.2 above)
    rw [price_eq, Decimal.max_of_lt start_lt, top_of_lt above]

/-- The rules that a bid breaks when it is made again. -/
theorem bidViolations_again (again : Instant) :
    Validation.bidViolations item (item.window.statusAt again)
        ((store.append (byHand caller id round amount kind :: counter.toList)).2.standing item
          round) caller.user amount.roundCents kind =
      (receipt store (byHand caller id round amount kind) counter).violationsAgain
        (store.standing item round) item.window again := by
  obtain ⟨lead, leads, -, own_iff, -⟩ := exists_lead_bid kept taken
  obtain ⟨below_iff, price_eq⟩ := price_after_bid kept taken
  have leader_eq : ((store.append (byHand caller id round amount kind ::
      counter.toList)).2.standing item round).leader? = some lead.user := congrArg _ leads
  rw [← Option.some.injEq, ← leader_eq] at own_iff
  rw [Validation.bidViolations_later taken.valid, Receipt.violationsAgain,
    Validation.when_congr own_iff, Validation.when_congr Window.phase_eq_ended_iff,
    Validation.when_congr below_iff]
  by_cases above : (receipt store (byHand caller id round amount kind) counter).bid.amount <
      (receipt store (byHand caller id round amount kind) counter).top.amount
  · rw [price_eq above]
  · rw [Validation.when_eq_nil_iff.2 above, Validation.when_eq_nil_iff.2 above]

/-- What comes of a bid that is made again: it is refused if it breaks a rule, and else it is
written and answered as the first time. -/
theorem perform_placeBid_again (again : Instant) :
    let bid := byHand caller id round amount kind
    let after := (store.append (bid :: counter.toList)).2
    let violations := (receipt store bid counter).violationsAgain (store.standing item round)
      item.window again
    let second := byHand ⟨caller.user, again⟩ id round amount kind
    let answer := counter.map fun counter => { counter with createdAt := again }
    house.perform after ⟨caller.user, again⟩ (.placeBid id round amount kind) =
      if violations = [] then
        (.ok (.bid (receipt after second answer)), (after.append (second :: answer.toList)).2)
      else (.error (.refused (.rejected violations)), after) := by
  intro bid after violations second answer
  have listed : after.item? id = some item := (Store.item?_append ..).trans taken.listed
  have begins : house.bidItem after ⟨caller.user, again⟩ id round amount kind = _ :=
    accept_of_listed taken.authorized ((Store.inRound_eq_ok_iff ..).2 ⟨listed, taken.current⟩) _
  rw [bidViolations_again kept taken again] at begins
  have answered : house.answerTo after item (byHand ⟨caller.user, again⟩ id round amount kind) =
      .ok answer := by
    have later := @answerTo_later house store item after bid (Store.activeProxies_append ..) again
    rw [taken.answered] at later
    exact later
  rw [perform_placeBid, begins]
  by_cases valid : violations = []
  · rw [if_pos valid, if_pos valid]
    simp only [answered]
    rfl
  · rw [if_neg valid, if_neg valid]

end Again

/-- What a bid does if it is answered with a receipt. -/
theorem bidTaken_of_perform {result : Receipt} {after : Store}
    (performed : house.perform store caller (.placeBid id round amount kind) =
      (.ok (.bid result), after)) :
    ∃ item counter, BidTaken house store caller id round amount kind item counter ∧
      result = receipt store (byHand caller id round amount kind) counter ∧
      after = (store.append (byHand caller id round amount kind :: counter.toList)).2 := by
  have served := served house store caller (.placeBid id round amount kind)
  rw [performed] at served
  cases served with
  | bid taken => exact ⟨_, _, taken, rfl, rfl⟩

/-- After every run, a bid that was taken is refused if the same user makes it again, at any time,
unless it trails an older lead of as much and the window is not over.  Then it is written a second
time, and answered as before.  With a step of half a cent or more, and room for a tenth of a cent, a
bid trails exactly if it is not answered and the old lead withstands it. -/
theorem bid_made_again (house : House) (events : List Event) {result : Receipt} {after : Store}
    (performed : house.perform (house.run events) caller (.placeBid id round amount kind) =
      (.ok (.bid result), after)) :
    ∃ item, (house.run events).item? id = some item ∧
      let before := (house.run events).standing item round
      (1 / 200 ≤ item.bidStep.value → result.bid.amount.value + item.bidStep.value < 10 ^ 25 →
        (result.Trails before ↔
          result.counter = none ∧ before.Withstands result.bid.toNewBid)) ∧
      ∀ again : Instant,
        let second := house.perform after ⟨caller.user, again⟩ (.placeBid id round amount kind)
        (¬ (result.Trails before ∧ ¬ item.window.closes < again) → second =
          (.error (.refused (.rejected (result.violationsAgain before item.window again))),
            after)) ∧
        (result.Trails before → ¬ item.window.closes < again →
          ∃ written : Receipt, second.1 = .ok (.bid written) ∧
            second.2.ledger = after.ledger ++ written.bid :: written.counter.toList ∧
            written.bid.toNewBid = { result.bid.toNewBid with createdAt := again } ∧
            written.counter.map (·.toNewBid) =
              result.counter.map fun counter => { counter.toNewBid with createdAt := again }) := by
  have kept := kept_run house events
  obtain ⟨item, counter, taken, rfl, rfl⟩ := bidTaken_of_perform performed
  refine ⟨item, taken.listed, ?_, fun again => ?_⟩
  · intro half room
    refine ⟨fun trails => ⟨?_, trails.2⟩, fun unanswered => ⟨?_, unanswered.2⟩⟩
    · cases counter with
      | none => rfl
      | some counter => exact absurd (lt_counter_of_half kept taken half room) trails.1
    · obtain rfl : counter = none := Option.map_eq_none_iff.1 unanswered.1
      exact Decimal.lt_irrefl _
  · have second_eq := perform_placeBid_again kept taken again
    refine ⟨fun refused => ?_, fun trails within => ?_⟩
    · rw [← Receipt.violationsAgain_eq_nil_iff] at refused
      exact second_eq.trans (if_neg refused)
    · have valid := Receipt.violationsAgain_eq_nil_iff.2 ⟨trails, within⟩
      have second_eq := second_eq.trans (if_pos valid)
      refine ⟨_, congrArg Prod.fst second_eq, ?_, rfl, ?_⟩
      · rw [second_eq, ← append_receipt]
        exact Store.ledger_append ..
      · cases counter <;> rfl

/-- A bid that equals an older one of another user is written each time that it is made. -/
theorem bid_made_again_vase :
    let events : List Event :=
      [.register .vase, .call ⟨2, .hour 1⟩ (.placeBid 1 0 (.whole 12) .standard)]
    let first := perform {} (run {} events) ⟨3, .hour 2⟩ (.placeBid 1 0 (.whole 12) .standard)
    let second := perform {} first.2 ⟨3, .hour 3⟩ (.placeBid 1 0 (.whole 12) .standard)
    first.1 = .ok (.bid
        ⟨{ byHand ⟨3, .hour 2⟩ 1 0 (.whole 12) .standard with id := 2 }, none⟩) ∧
      ∃ written : Bid, second.1 = .ok (.bid ⟨written, none⟩) ∧
        second.2.ledger = first.2.ledger ++ [written] ∧
        written.toNewBid = byHand ⟨3, .hour 3⟩ 1 0 (.whole 12) .standard := by
  intro events first second
  let bid : Bid := { byHand ⟨3, .hour 2⟩ 1 0 (.whole 12) .standard with id := 2 }
  have answer_eq : first.1 = .ok (.bid ⟨bid, none⟩) := by decide +kernel
  have first_eq : first = (.ok (.bid ⟨bid, none⟩), first.2) := Prod.ext answer_eq rfl
  obtain ⟨item, listed, -, again⟩ := bid_made_again {} events first_eq
  have vase_eq : (run {} events).item? 1 = some .vase := by decide +kernel
  obtain rfl : item = .vase := Option.some.inj (listed.symm.trans vase_eq)
  have withstood : ((run {} events).standing .vase 0).Withstands bid.toNewBid := by decide +kernel
  obtain ⟨⟨written, counter⟩, second_eq, ledger_eq, written_eq, counter_eq⟩ :=
    (again (.hour 3)).2 ⟨Decimal.lt_irrefl _, withstood⟩ (by decide)
  obtain rfl : counter = none := Option.map_eq_none_iff.1 counter_eq
  exact ⟨answer_eq, written, second_eq, ledger_eq, written_eq⟩

end House

end AuctionHouse
