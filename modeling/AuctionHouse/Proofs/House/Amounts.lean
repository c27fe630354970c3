import AuctionHouse.Proofs.House.Spending

/-!
# Amounts in the ledger

A bid is in whole cents and not below the starting price of its item, as long as that price is in
whole cents itself.  An item may be put up at a price of fractions of a cent, though, and then there
are three more amounts: the price itself, which a tied rival is raised to (`TiesBelow`), the buy-now
price rounded below it, and the opening bid rounded below it (`OpensBelow`).  No bid is more than
the rounding of the starting price below it (`Item.Admits.least`).
-/

namespace AuctionHouse

theorem Item.SameTerms.buyNowPrice_eq {item later : Item} (h : item.SameTerms later) :
    later.buyNowPrice = item.buyNowPrice :=
  congrArg (·.buyNowPrice) h

/-- The price of an item that can be bought at once is not below its starting price. -/
theorem Item.startingPrice_le_buyNowPrice {item : Item} (sound : item.problems = [])
    (offered : item.buyNow? ≠ none) : item.startingPrice ≤ item.buyNowPrice := by
  have not_below := not_affects_of_problems_eq_nil sound .buyNowBelowStartingPrice
  simp only [Problem.Affects, not_and, Decimal.not_lt] at not_below
  exact not_below (Option.isSome_iff_ne_none.2 offered)

/-- What the amount of a bid for an item can be. -/
structure Item.Admits (item : Item) (bid : NewBid) : Prop where
  /-- It is in whole cents, or an automatic bid of the starting price. -/
  whole : bid.amount.IsCents ∨ bid.kind = .auto ∧ bid.amount = item.startingPrice
  /-- It is not below the starting price.  Only a purchase, or an automatic bid of a step above the
  starting price, can be rounded below it, and not further than the starting price itself is. -/
  reached : item.startingPrice ≤ bid.amount ∨
    item.startingPrice.roundCents ≤ bid.amount ∧
      (bid.offer = .purchased ∧ bid.amount = item.buyNowPrice.roundCents ∨
        bid.kind = .auto ∧ ∃ sum, item.startingPrice.add item.bidStep = .ok sum ∧
          bid.amount = sum.roundCents)

namespace Item.Admits

variable {item later : Item} {bid : NewBid}

theorem of_sameTerms (admits : item.Admits bid) (same : item.SameTerms later) :
    later.Admits bid := by
  obtain ⟨whole, reached⟩ := admits
  constructor
  · rw [same.startingPrice_eq]
    exact whole
  · rw [same.startingPrice_eq, same.bidStep_eq, same.buyNowPrice_eq]
    exact reached

/-- For an item whose starting price is in whole cents, every bid is, and is not below it. -/
theorem of_whole_price (admits : item.Admits bid) (whole : item.startingPrice.IsCents) :
    bid.amount.IsCents ∧ item.startingPrice ≤ bid.amount := by
  constructor
  · rcases admits.whole with cents | ⟨-, same⟩
    · exact cents
    · rw [same]
      exact whole
  · rcases admits.reached with above | ⟨rounded, -⟩
    · exact above
    · exact le_trans (Decimal.le_roundCents whole (Decimal.le_refl _)) rounded

end Item.Admits

namespace House

variable {house : House} {store : Store}

/-- The terms under which a ceiling raises a rival to a price that is not in whole cents: the
strongest rival has the same ceiling, and a step below it is less than the price. -/
structure TiesBelow (store : Store) (caller : UserId) (item : Item) (round : Round)
    (ceiling : Decimal) : Prop where
  tied : ∃ rival : Proxy, rival.StrongestAgainst caller (store.activeProxies item.id round) ∧
    rival.ceiling.SameValue ceiling
  fraction : ¬ (store.standing item round).minPrice.IsCents
  below : ∃ below, ceiling.sub item.bidStep = .ok below ∧
    (max below .zero).roundCents < (store.standing item round).minPrice

/-- A price that is not in whole cents is the starting price. -/
theorem Kept.minPrice_eq_of_fraction (kept : house.Kept store) {item : Item} {round : Round}
    (fraction : ¬ (store.standing item round).minPrice.IsCents) :
    (store.standing item round).minPrice = item.startingPrice := by
  cases leads : (store.standing item round).lead with
  | none =>
    unfold Store.standing at leads ⊢
    rw [Ranking.lead_standing] at leads
    rw [Ranking.standing_of_none leads]
  | some lead =>
    apply minPrice_of_lead_lt leads
    by_contra reached
    exact fraction (kept.minPrice_isCents leads (Decimal.not_lt.1 reached))

theorem startingPrice_le_minPrice (store : Store) (item : Item) (round : Round) :
    item.startingPrice ≤ (store.standing item round).minPrice :=
  Ranking.startingPrice_le_minPrice _ _

/-- The strongest of two rivals have equal ceilings. -/
theorem sameValue_of_strongestAgainst {p q : Proxy} {user : UserId} {proxies : List Proxy}
    (hp : p.StrongestAgainst user proxies) (hq : q.StrongestAgainst user proxies) :
    p.ceiling.SameValue q.ceiling := by
  rw [Decimal.sameValue_iff_value_eq]
  apply Rat.le_antisymm
  · exact Decimal.le_iff_value_le.1 (hq.above p hp.mem hp.active hp.other)
  · exact Decimal.le_iff_value_le.1 (hp.above q hq.mem hq.active hq.other)

/-- How the amount of a bid follows from the call that writes it. -/
structure Priced (store : Store) (caller : Caller) (call : Call) (item : Item) (bid : NewBid) :
    Prop where
  admits : item.Admits bid
  /-- It is not in whole cents exactly if it is that of a tied rival. -/
  fraction_iff : ¬ bid.amount.roundCents.SameValue bid.amount ↔ bid.user ≠ caller.user ∧
    ∃ ceiling, call = .setProxy bid.item bid.round ceiling ∧
      TiesBelow store caller.user item bid.round ceiling.roundCents
  /-- It is below the starting price exactly if it is a purchase at a price that is rounded below
  it, or if a ceiling opens below it. -/
  below_iff : bid.amount < item.startingPrice ↔
    call = .placeBuyNow bid.item ∧ item.buyNowPrice.roundCents < item.startingPrice ∨
      (∃ ceiling, call = .setProxy bid.item bid.round ceiling) ∧
        OpensBelow store caller.user item bid.round

section PlaceBid

variable {caller : Caller} {id : ItemId} {round : Round} {amount : Decimal} {kind : BidKind}
  {item : Item} {counter : Option NewBid} {bid : NewBid}

/-- A bid by hand and its answer are in whole cents and not below the starting price. -/
theorem priced_bid (kept : house.Kept store)
    (taken : BidTaken house store caller id round amount kind item counter)
    (mem : bid ∈ byHand caller id round amount kind :: counter.toList) :
    Priced store caller (.placeBid id round amount kind) item bid := by
  have regular (whole : bid.amount.IsCents) (reached : item.startingPrice ≤ bid.amount) :
      Priced store caller (.placeBid id round amount kind) item bid := by
    refine ⟨⟨.inl whole, .inl reached⟩, ?_, ?_⟩
    · exact ⟨fun fraction => absurd (Decimal.isCents_iff_sameValue.1 whole) fraction, nofun⟩
    · exact ⟨fun below => absurd below (Decimal.not_lt.2 reached), nofun⟩
  have least := startingPrice_le_minPrice store item round
  rcases List.mem_cons.1 mem with rfl | answer
  · obtain ⟨-, -, -, price_le, -, -⟩ := Validation.bidViolations_eq_nil_iff.1 taken.valid
    exact regular (Decimal.isCents_roundCents _) (le_trans least price_le)
  · have counter_eq := Option.mem_toList.1 answer
    subst counter_eq
    have price_le := (counter_spending kept taken).2
    obtain ⟨rival, -, answer_amount, computed, rfl⟩ := answerTo_eq_some taken.answered
    obtain ⟨-, sum, -, rfl⟩ := Settlement.counterAmount_eq_some_iff.1 computed
    exact regular (Decimal.isCents_roundCents _) (le_trans least price_le)

end PlaceBid

/-- A purchase is the buy-now price in whole cents. -/
theorem priced_purchase (kept : house.Kept store) {caller : Caller} {id : ItemId} {item : Item}
    (taken : PurchaseTaken house store caller id item) :
    Priced store caller (.placeBuyNow id) item (purchase caller id item) := by
  obtain ⟨-, offered⟩ := Validation.buyNowViolations_eq_nil_iff.1 taken.valid
  have price_le := Item.startingPrice_le_buyNowPrice (kept.items id item taken.listed).2 offered
  have whole := Decimal.isCents_roundCents item.buyNowPrice
  have rounded := Decimal.roundCents_le_roundCents price_le
  refine ⟨⟨.inl whole, .inr ⟨rounded, .inl ⟨rfl, rfl⟩⟩⟩, ?_, ?_⟩
  · exact ⟨fun fraction => absurd (Decimal.isCents_iff_sameValue.1 whole) fraction, nofun⟩
  · exact ⟨fun below => .inl ⟨rfl, below⟩, fun h => h.elim (fun h => h.2) nofun⟩

section SetProxy

variable {caller : Caller} {id : ItemId} {round : Round} {ceiling : Decimal} {item : Item}
  {bids : List NewBid} {bid : NewBid}

/-- The strongest rivals are the same before and after a ceiling is put. -/
theorem strongestAgainst_ceilingPut (kept : store.ProxiesKept) {rival : Proxy} :
    rival.StrongestAgainst caller.user
        ((ceilingPut store caller id round ceiling).2.activeProxies id round) ↔
      rival.StrongestAgainst caller.user (store.activeProxies id round) := by
  constructor
  · rintro ⟨mem, active, other, above⟩
    refine ⟨(mem_ceilingPut_iff_of_ne kept other).1 mem, active, other, ?_⟩
    intro proxy proxy_mem proxy_active opposed
    exact above proxy ((mem_ceilingPut_iff_of_ne kept opposed).2 proxy_mem) proxy_active opposed
  · rintro ⟨mem, active, other, above⟩
    refine ⟨(mem_ceilingPut_iff_of_ne kept other).2 mem, active, other, ?_⟩
    intro proxy proxy_mem proxy_active opposed
    exact above proxy ((mem_ceilingPut_iff_of_ne kept opposed).1 proxy_mem) proxy_active opposed

/-- The bids of a settlement that are not in whole cents. -/
theorem settlement_fraction_iff (kept : house.Kept store)
    (taken : CeilingTaken house store caller id round ceiling item) {rival : Proxy}
    (strongest : rival.StrongestAgainst caller.user
      ((ceilingPut store caller id round ceiling).2.activeProxies id round))
    (able : (store.standing item round).minPrice < rival.ceiling) {settlement : Settlement}
    (settled : Settlement.reconcile ceiling.roundCents rival.ceiling item.bidStep =
      .ok settlement) (side : Side) :
    ¬ ((settlement.flooredAt (store.standing item round).minPrice).amountOf side).IsCents ↔
      side.user caller.user rival.user ≠ caller.user ∧
        TiesBelow store caller.user item round ceiling.roundCents := by
  have kept_put := kept.ceilingPut taken
  obtain ⟨-, -, -, -, above⟩ := Validation.ceilingViolations_eq_nil_iff.1 taken.valid
  obtain ⟨own, sound⟩ := kept.items id item taken.listed
  have wholeRival := (kept_put.proxies.ceilings rival (Store.mem_activeProxies.1 strongest.mem).1).1
  have before := (strongestAgainst_ceilingPut kept.proxies).1 strongest
  rw [Settlement.not_isCents_flooredAt_iff (Decimal.isCents_roundCents _) wholeRival
    (Item.bidStep_pos sound).le settled above able]
  have rival_iff : side = .rival ↔ side.user caller.user rival.user ≠ caller.user := by
    cases side with
    | caller => exact ⟨nofun, fun other => absurd rfl other⟩
    | rival => exact ⟨fun _ => strongest.other, fun _ => rfl⟩
  rw [← own] at before
  rw [rival_iff]
  constructor
  · rintro ⟨⟨other, tied, below⟩, fraction⟩
    exact ⟨other, ⟨rival, before, tied⟩, fraction, below⟩
  · rintro ⟨other, ⟨rival', strongest', tied⟩, fraction, below⟩
    have same := sameValue_of_strongestAgainst before strongest'
    rw [Decimal.sameValue_iff_value_eq] at same tied
    exact ⟨⟨other, Decimal.sameValue_iff_value_eq.2 (same.trans tied), below⟩, fraction⟩

/-- The bids that follow from a ceiling are not in whole cents exactly for a tied rival. -/
theorem ceiling_fraction_iff (kept : house.Kept store)
    (taken : CeilingTaken house store caller id round ceiling item)
    (answered : house.ceilingAnswer store caller id round ceiling item = .ok bids)
    (mem : bid ∈ bids) :
    ¬ bid.amount.IsCents ↔ bid.user ≠ caller.user ∧
      TiesBelow store caller.user item round ceiling.roundCents := by
  unfold ceilingAnswer at answered
  rcases ceilingBids_cases house.config.proxyOrdering item round caller ceiling.roundCents
    (store.standing item round)
    ((House.ceilingPut store caller id round ceiling).2.activeProxies id round) with
    ⟨rival, strongest, able, eq⟩ | ⟨-, -, eq⟩ | ⟨-, -, eq⟩
  · obtain ⟨settlement, settled, floored⟩ := bind_eq_ok_iff.1 (eq.symm.trans answered)
    cases floored
    obtain ⟨side, rfl⟩ := Settlement.mem_bids.1 mem
    exact settlement_fraction_iff kept taken strongest able settled side
  · rw [eq] at answered
    cases answered
    cases mem
  · obtain ⟨opening, computed, opened⟩ := bind_eq_ok_iff.1 (eq.symm.trans answered)
    cases opened
    obtain ⟨sum, -, rfl⟩ := Settlement.openingAmount_eq_ok_iff.1 computed
    rw [List.mem_singleton.1 mem]
    constructor
    · exact fun fraction => absurd (Decimal.isCents_roundCents _) fraction
    · exact fun h => absurd rfl h.1

/-- The bids of a settlement are not below the starting price, and if they are not in whole cents,
they are that price. -/
theorem settlement_admits (kept : house.Kept store)
    (taken : CeilingTaken house store caller id round ceiling item) {rival : Proxy}
    (strongest : rival.StrongestAgainst caller.user
      ((ceilingPut store caller id round ceiling).2.activeProxies id round))
    (able : (store.standing item round).minPrice < rival.ceiling) {settlement : Settlement}
    (settled : Settlement.reconcile ceiling.roundCents rival.ceiling item.bidStep =
      .ok settlement) (side : Side) {user : UserId} :
    item.Admits (Settlement.autoBid item.id round user
      ((settlement.flooredAt (store.standing item round).minPrice).amountOf side) caller.now) := by
  have price_le := (settlement_spending kept taken strongest able settled side).2
  refine ⟨?_, .inl (le_trans (startingPrice_le_minPrice store item round) price_le)⟩
  by_cases whole :
      ((settlement.flooredAt (store.standing item round).minPrice).amountOf side).IsCents
  · exact .inl whole
  · rw [Settlement.amountOf_flooredAt,
      Decimal.not_isCents_max_iff (Settlement.isCents_amountOf settled side)] at whole
    obtain ⟨lower, fraction⟩ := whole
    refine .inr ⟨rfl, ?_⟩
    rw [← kept.minPrice_eq_of_fraction fraction]
    show (settlement.flooredAt (store.standing item round).minPrice).amountOf side = _
    rw [Settlement.amountOf_flooredAt, Decimal.max_of_lt lower]

/-- An opening bid is in whole cents, and at least a step above the starting price before it is
rounded. -/
theorem opening_admits (kept : house.Kept store)
    (taken : CeilingTaken house store caller id round ceiling item) {sum : Decimal}
    (added : (store.standing item round).minPrice.add item.bidStep = .ok sum)
    (opens_iff : (min sum ceiling.roundCents).roundCents < (store.standing item round).minPrice ↔
      OpensBelow store caller.user item round) :
    item.Admits (Settlement.autoBid item.id round caller.user
      (min sum ceiling.roundCents).roundCents caller.now) := by
  obtain ⟨-, -, -, -, above⟩ := Validation.ceilingViolations_eq_nil_iff.1 taken.valid
  have step_pos := Item.bidStep_pos (kept.items id item taken.listed).2
  have least := startingPrice_le_minPrice store item round
  refine ⟨.inl (Decimal.isCents_roundCents _), ?_⟩
  by_cases reached : item.startingPrice ≤ (min sum ceiling.roundCents).roundCents
  · exact .inl reached
  have opens := opens_iff.1 (lt_of_lt_of_le (Decimal.not_le.1 reached) least)
  rw [opens.minPrice_eq] at added above
  have uncapped : min sum ceiling.roundCents = sum := by
    rw [Decimal.min_def, if_neg]
    intro capped
    rw [Decimal.min_def, if_pos capped] at reached
    have whole := Decimal.le_roundCents (Decimal.isCents_roundCents ceiling) (Decimal.le_refl _)
    exact reached (le_trans (Decimal.le_of_lt above) whole)
  right
  show _ ≤ (min sum ceiling.roundCents).roundCents ∧ _
  refine ⟨?_, .inr ⟨rfl, sum, added, congrArg Decimal.roundCents uncapped⟩⟩
  rw [uncapped]
  exact Decimal.roundCents_le_roundCents (Decimal.le_add added step_pos.le)

/-- The bids that follow from a ceiling are admitted, below the starting price exactly if it opens
below, and not in whole cents exactly for a tied rival. -/
theorem priced_ceiling (kept : house.Kept store)
    (taken : CeilingTaken house store caller id round ceiling item)
    (answered : house.ceilingAnswer store caller id round ceiling item = .ok bids)
    (mem : bid ∈ bids) : Priced store caller (.setProxy id round ceiling) item bid := by
  have fraction_iff := ceiling_fraction_iff kept taken answered mem
  have opens_iff := (ceiling_spending kept taken answered mem).2
  obtain ⟨user, amount, bid_eq⟩ := eq_autoBid_of_mem_ceilingBids answered mem
  have item_eq : bid.item = id := by
    rw [bid_eq]
    exact (kept.items id item taken.listed).1
  have round_eq : bid.round = round := by rw [bid_eq]; rfl
  refine ⟨?_, ?_, ?_⟩
  · unfold ceilingAnswer at answered
    rcases ceilingBids_cases house.config.proxyOrdering item round caller ceiling.roundCents
      (store.standing item round)
      ((House.ceilingPut store caller id round ceiling).2.activeProxies id round) with
      ⟨rival, strongest, able, eq⟩ | ⟨-, -, eq⟩ | ⟨-, -, eq⟩
    · obtain ⟨settlement, settled, floored⟩ := bind_eq_ok_iff.1 (eq.symm.trans answered)
      cases floored
      obtain ⟨side, rfl⟩ := Settlement.mem_bids.1 mem
      exact settlement_admits kept taken strongest able settled side
    · rw [eq] at answered
      cases answered
      cases mem
    · obtain ⟨opening, computed, opened⟩ := bind_eq_ok_iff.1 (eq.symm.trans answered)
      cases opened
      obtain ⟨sum, added, rfl⟩ := Settlement.openingAmount_eq_ok_iff.1 computed
      rw [List.mem_singleton.1 mem] at opens_iff ⊢
      exact opening_admits kept taken added opens_iff
  · rw [← Decimal.isCents_iff_sameValue, fraction_iff, item_eq, round_eq]
    refine and_congr_right fun _ => ⟨fun ties => ⟨ceiling, rfl, ties⟩, ?_⟩
    rintro ⟨ceiling', same, ties⟩
    cases same
    exact ties
  · have starting_le := startingPrice_le_minPrice store item round
    constructor
    · intro below
      refine .inr ⟨⟨ceiling, by rw [item_eq, round_eq]⟩, ?_⟩
      rw [round_eq]
      exact opens_iff.1 (lt_of_lt_of_le below starting_le)
    · rintro (⟨impossible, -⟩ | ⟨-, opens⟩)
      · cases impossible
      · rw [round_eq] at opens
        rw [← opens.minPrice_eq]
        exact opens_iff.2 opens

end SetProxy

/-- What a call writes has an item, and is priced as the call says. -/
theorem priced_of_served (kept : house.Kept store) {caller : Caller} {call : Call}
    {answer : Except Stop Outcome} {after : Store}
    (served : Served house store caller call answer after) :
    ∃ written, after.ledger = store.ledger ++ written ∧
      ∀ bid ∈ written, ∃ item, store.item? bid.item = some item ∧
        Priced store caller call item bid.toNewBid := by
  have of_batch {base : Store} (same : base.ledger = store.ledger) {batch : List NewBid}
      {item : Item} (listed : ∀ bid ∈ batch, store.item? bid.item = some item)
      (priced : ∀ bid ∈ batch, Priced store caller call item bid) :
      ∃ written, (base.append batch).2.ledger = store.ledger ++ written ∧
        ∀ bid ∈ written, ∃ item, store.item? bid.item = some item ∧
          Priced store caller call item bid.toNewBid := by
    refine ⟨Store.numbered base.nextBidId batch, by rw [Store.append_eq, same], ?_⟩
    intro bid mem
    have batch_mem := (Store.mem_numbered mem).1
    exact ⟨item, listed _ batch_mem, priced _ batch_mem⟩
  have unchanged {after : Store} (same : after.ledger = store.ledger) :
      ∃ written, after.ledger = store.ledger ++ written ∧
        ∀ bid ∈ written, ∃ item, store.item? bid.item = some item ∧
          Priced store caller call item bid.toNewBid :=
    ⟨[], by rw [same, List.append_nil], fun bid mem => by cases mem⟩
  cases served with
  | stopped => exact unchanged rfl
  | bid taken =>
    apply of_batch rfl
    · intro bid mem
      rw [(here_of_bidTaken taken bid mem).1]
      exact taken.listed
    · intro bid mem
      exact priced_bid kept taken mem
  | @purchase id item taken =>
    have written := @of_batch store rfl [purchase caller id item] item
    apply written
    · intro bid mem
      rw [List.mem_singleton.1 mem]
      exact taken.listed
    · intro bid mem
      rw [List.mem_singleton.1 mem]
      exact priced_purchase kept taken
  | ceiling taken answered =>
    apply of_batch (ledger_ceilingPut ..)
    · intro bid mem
      rw [(here_of_ceilingAnswer answered bid mem).1, (kept.items _ _ taken.listed).1]
      exact taken.listed
    · intro bid mem
      exact priced_ceiling kept taken answered mem
  | ceilingFault => exact unchanged (ledger_ceilingPut ..)
  | noRemoval => exact unchanged rfl
  | removal => exact unchanged Store.ledger_putProxy

/-- What an event writes is admitted by its items. -/
theorem admits_written (kept : house.Kept store) (event : Event) :
    ∃ written, (house.step store event).ledger = store.ledger ++ written ∧
      ∀ bid ∈ written, ∃ item, store.item? bid.item = some item ∧ item.Admits bid.toNewBid := by
  cases event with
  | call caller call =>
    obtain ⟨written, ledger_eq, priced⟩ := priced_of_served kept (served house store caller call)
    refine ⟨written, ledger_eq, ?_⟩
    intro bid mem
    obtain ⟨item, listed, priced⟩ := priced bid mem
    exact ⟨item, listed, priced.admits⟩
  | _ =>
    obtain ⟨written, ledger_eq, timed⟩ := ledger_step house store _
    exact ⟨written, ledger_eq, fun bid mem => nomatch timed bid mem⟩

/-- Whether every bid is for an item that admits it. -/
def AmountsKept (store : Store) : Prop :=
  ∀ bid ∈ store.ledger, ∃ item, store.item? bid.item = some item ∧ item.Admits bid.toNewBid

/-- Every event keeps the amounts. -/
theorem AmountsKept.step (kept_amounts : AmountsKept store) (kept : house.Kept store) (event : Event) :
    AmountsKept (house.step store event) := by
  have still {bid : Bid} {item : Item} (listed : store.item? bid.item = some item)
      (admits : item.Admits bid.toNewBid) :
      ∃ later, (house.step store event).item? bid.item = some later ∧
        later.Admits bid.toNewBid := by
    obtain ⟨later, later_listed, same⟩ := @item?_step house store _ _ listed event
    exact ⟨later, later_listed, admits.of_sameTerms same⟩
  obtain ⟨written, ledger_eq, fresh⟩ := admits_written kept event
  intro bid mem
  rw [ledger_eq] at mem
  rcases List.mem_append.1 mem with old | new
  · obtain ⟨item, listed, admits⟩ := kept_amounts bid old
    exact still listed admits
  · obtain ⟨item, listed, admits⟩ := fresh bid new
    exact still listed admits

theorem amountsKept_run (house : House) (events : List Event) : AmountsKept (house.run events) := by
  have both : house.Kept (house.run events) ∧ AmountsKept (house.run events) := by
    apply runFrom_induction (motive := fun store => house.Kept store ∧ AmountsKept store)
    · exact ⟨kept_empty house, fun bid mem => by cases mem⟩
    · intro store event h
      exact ⟨h.1.step event, h.2.step h.1 event⟩
  exact both.2

/-- After every run, the amount of every bid is one that its item admits: in whole cents and not
below the starting price if that is in whole cents itself, and else with the exceptions that
`Item.Admits` names.  A call makes an exception exactly if its ceiling ties with one that is raised
to a starting price of fractions of a cent, if it is a purchase at a price that is rounded below the
starting price, or if its ceiling opens below that. -/
theorem ledger_amounts (house : House) (events : List Event) :
    (∀ bid ∈ (house.run events).ledger, ∃ item, (house.run events).item? bid.item = some item ∧
      item.Admits bid.toNewBid ∧
      (item.startingPrice.roundCents.SameValue item.startingPrice →
        bid.amount.roundCents.SameValue bid.amount ∧ item.startingPrice ≤ bid.amount)) ∧
    ∀ caller call,
      let before := house.run events
      ∃ written, (house.perform before caller call).2.ledger = before.ledger ++ written ∧
        ∀ bid ∈ written, ∃ item, before.item? bid.item = some item ∧
          Priced before caller call item bid.toNewBid := by
  constructor
  · intro bid mem
    obtain ⟨item, listed, admits⟩ := amountsKept_run house events bid mem
    refine ⟨item, listed, admits, ?_⟩
    rw [← Decimal.isCents_iff_sameValue, ← Decimal.isCents_iff_sameValue]
    exact admits.of_whole_price
  · intro caller call
    exact priced_of_served (kept_run house events) (served house _ caller call)

/-- There are bids that are not in whole cents: that of a rival on a shard with a step of one, whose
ceiling is met. -/
theorem tie_in_fractions :
    let item := { shard with buyNowPrice := .whole 100, bidStep := .whole 1 }
    let store := run {} [.register item, .call ⟨2, .hour 1⟩ (.setProxy 1 0 (.ofParts 1001 2))]
    let call : Call := .setProxy 1 0 (.ofParts 1001 2)
    ∃ bid ∈ (perform {} store ⟨3, .hour 2⟩ call).2.ledger,
      bid.user = 2 ∧ bid.amount = .ofParts 10004 3 ∧
        ¬ bid.amount.roundCents.SameValue bid.amount := by
  intro item store call
  have taken : CeilingTaken {} store ⟨3, .hour 2⟩ 1 0 (.ofParts 1001 2) item :=
    ⟨rfl, by decide +kernel, rfl, by decide +kernel⟩
  have answered : ceilingAnswer {} store ⟨3, .hour 2⟩ 1 0 (.ofParts 1001 2) item =
      .ok [Settlement.autoBid 1 0 3 (.ofParts 1001 2) (.hour 2),
        Settlement.autoBid 1 0 2 (.ofParts 10004 3) (.hour 2)] := by
    decide +kernel
  rw [perform_setProxy_of_taken taken, answered]
  decide +kernel

/-- There are purchases below the starting price: that of a shard. -/
theorem purchase_rounded_below :
    let store := run {} [.register shard, .call ⟨2, .hour 1⟩ (.placeBuyNow 1)]
    store.ledger.map (fun bid => (bid.user, bid.amount)) = [(2, .ofParts 1000 2)] ∧
      Decimal.ofParts 1000 2 < shard.startingPrice := by
  decide +kernel

end House

end AuctionHouse
