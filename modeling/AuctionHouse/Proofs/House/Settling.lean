import AuctionHouse.Proofs.House.Spending

/-!
# How a round is settled

In a round whose step is in whole cents and whose amounts leave room for their sums (`Orderly`), a
ceiling that is taken is settled to the cent.  The higher of two ceilings above the price leads,
with a step above the lower one or all of itself (`rivalry_settles`), and a ceiling that meets none
above the price outbids another leader by a step (`opening_settles`).  A bid by hand that is
answered loses the lead to the strongest rival (`counter_settles`).
-/

namespace AuctionHouse.House

variable {house : House} {store : Store} {item : Item} {round : Round}

/-- A batch whose one highest bid is above the price makes that bid the lead and its amount the
price. -/
theorem standing_append_of_highest {before after : List NewBid} {top : NewBid}
    (here : ∀ bid ∈ before ++ top :: after, bid.item = item.id ∧ bid.round = round)
    (counts : top.offer ≠ .rejected)
    (above : (store.standing item round).minPrice < top.amount)
    (highest : ∀ bid ∈ before ++ after, bid.amount < top.amount) :
    ∃ lead : Bid, lead.toNewBid = top ∧
      (store.append (before ++ top :: after)).2.standing item round = ⟨top.amount, some lead⟩ := by
  let written := Store.numbered store.nextBidId (before ++ top :: after)
  let lead : Bid := { top with id := store.nextBidId + before.length }
  have written_eq : written = Store.numbered store.nextBidId before ++
      lead :: Store.numbered (store.nextBidId + before.length + 1) after :=
    Store.numbered_append _ _ _
  have bids_eq : (store.append (before ++ top :: after)).2.bidsFor item.id round =
      store.bidsFor item.id round ++ written := by
    rw [Store.bidsFor_append_of_forall store here, Store.append_eq]
  have leads : Ranking.winner? (store.bidsFor item.id round ++ written) = some lead := by
    apply Ranking.winner?_of_highest
    · apply List.mem_append_right
      rw [written_eq]
      exact List.mem_append_right _ List.mem_cons_self
    · exact decide_eq_true counts
    · intro bid mem bid_counts
      rcases List.mem_append.1 mem with old | new
      · right
        have amount_le := Ranking.amount_le_minPrice item.startingPrice old bid_counts
        exact lt_of_le_of_lt amount_le above
      · rw [written_eq] at new
        rcases List.mem_append.1 new with early | late
        · exact .inr (highest _ (List.mem_append_left _ (Store.mem_numbered early).1))
        · rcases List.mem_cons.1 late with same | last
          · exact .inl same
          · exact .inr (highest _ (List.mem_append_right _ (Store.mem_numbered last).1))
  refine ⟨lead, rfl, ?_⟩
  have start_lt : item.startingPrice < top.amount :=
    lt_of_le_of_lt (Ranking.startingPrice_le_minPrice _ _) above
  unfold Store.standing Ranking.standing
  rw [bids_eq, leads]
  simp only
  rw [if_pos start_lt]

/-- Amounts and steps up to this leave room for their sums. -/
def roof : ℚ := 10 ^ 20

theorem roof_add_roof_lt : roof + roof < Decimal.centsLimit := by
  norm_num [roof, Decimal.centsLimit]

/-- Rounding does not lift an amount over the roof. -/
theorem value_roundCents_le_roof {amount : Decimal} (h : amount.value ≤ roof) :
    amount.roundCents.value ≤ roof := by
  let bound := Decimal.whole (10 ^ 20)
  have bound_value : bound.value = roof := by
    have coeff_eq : bound.coeff = 10 ^ 20 := rfl
    have scale_eq : bound.scale = 0 := rfl
    rw [Decimal.value, coeff_eq, scale_eq]
    norm_num [roof, tenTo]
  rw [← bound_value, ← Decimal.le_iff_value_le] at h ⊢
  exact Decimal.roundCents_le (Decimal.isCents_of_scale_le (Nat.zero_le 2)) h

/-- Whether a round is settled to the cent: its step is in whole cents, its amounts are up to the
roof, and its lead has reached the starting price. -/
structure Orderly (store : Store) (item : Item) (round : Round) : Prop where
  whole : item.bidStep.IsCents
  step_le : item.bidStep.value ≤ roof
  price_le : (store.standing item round).minPrice.value ≤ roof
  ceilings_le : ∀ proxy ∈ store.activeProxies item.id round, proxy.ceiling.value ≤ roof
  reached : ∀ lead, (store.standing item round).lead = some lead →
    item.startingPrice ≤ lead.amount

/-- A step above an amount is exact in an orderly round. -/
theorem Orderly.exists_sum (orderly : Orderly store item round) (sound : item.problems = [])
    {amount : Decimal} (wholeAmount : amount.IsCents) (nonneg : 0 ≤ amount.value)
    (amount_le : amount.value ≤ roof) :
    ∃ sum, amount.add item.bidStep = .ok sum ∧ sum.IsCents ∧
      sum.value = amount.value + item.bidStep.value := by
  have room := roof_add_roof_lt
  have step_le := orderly.step_le
  exact Settlement.exists_sum wholeAmount orderly.whole nonneg (Item.bidStep_pos sound).le
    (by linarith)

section PlaceBid

variable {caller : Caller} {id : ItemId} {amount : Decimal} {kind : BidKind} {counter : NewBid}

/-- The answer to a bid takes the lead: a step above the bid, or all of the highest rival
ceiling. -/
theorem counter_settles (kept : house.Kept store) (orderly : Orderly store item round)
    (taken : BidTaken house store caller id round amount kind item (some counter)) :
    ∃ rival ∈ store.activeProxies id round, rival.user ≠ caller.user ∧
      amount.roundCents < rival.ceiling ∧
      ∃ lead : Bid, lead.user = rival.user ∧ amount.roundCents < lead.amount ∧
        lead.amount.value = min (amount.roundCents.value + item.bidStep.value) rival.ceiling.value ∧
        (store.append [byHand caller id round amount kind, counter]).2.standing item round =
          ⟨lead.amount, some lead⟩ := by
  obtain ⟨-, listed, current, valid, answered⟩ := taken
  obtain ⟨own, sound⟩ := kept.items id item listed
  subst own
  obtain ⟨-, -, nonneg, price_le, -, -⟩ := Validation.bidViolations_eq_nil_iff.1 valid
  rw [Decimal.le_iff_value_le, Decimal.value_zero] at nonneg
  obtain ⟨rival, strongest, counter_amount, computed, rfl⟩ := answerTo_eq_some answered
  obtain ⟨above, sum, added, rfl⟩ := Settlement.counterAmount_eq_some_iff.1 computed
  have wholeAmount := Decimal.isCents_roundCents amount
  have wholeRival := (kept.proxies.ceilings rival (Store.mem_activeProxies.1 strongest.mem).1).1
  have step_pos := Item.bidStep_pos sound
  have above_value := Decimal.lt_iff_value_lt.1 above
  have rival_le := orderly.ceilings_le rival strongest.mem
  have amount_le : amount.roundCents.value ≤ roof := above_value.le.trans rival_le
  obtain ⟨exact, added', wholeSum, sum_value⟩ :=
    orderly.exists_sum sound wholeAmount nonneg amount_le
  obtain rfl : sum = exact := Except.ok.inj (added.symm.trans added')
  have counter_value := Settlement.value_roundCents_min wholeSum wholeRival
  rw [sum_value] at counter_value
  have counter_above : amount.roundCents < (min sum rival.ceiling).roundCents := by
    rw [Decimal.lt_iff_value_lt]
    exact counter_value ▸ lt_min (lt_add_of_pos_right _ step_pos) above_value
  obtain ⟨lead, lead_eq, standing_eq⟩ := @standing_append_of_highest store item round
    [byHand caller item.id round amount kind] []
    (Settlement.autoBid item.id round rival.user (min sum rival.ceiling).roundCents caller.now)
    (by
      intro bid mem
      rcases List.mem_cons.1 mem with rfl | answer
      · exact ⟨rfl, rfl⟩
      · rw [List.mem_singleton.1 answer]
        exact ⟨rfl, rfl⟩)
    nofun (lt_of_le_of_lt price_le counter_above)
    (by
      intro bid mem
      rw [List.mem_singleton.1 mem]
      exact counter_above)
  have lead_user : lead.user = rival.user := by rw [lead_eq]; rfl
  have lead_amount : lead.amount = (min sum rival.ceiling).roundCents := by rw [lead_eq]; rfl
  refine ⟨rival, strongest.mem, strongest.other, above, lead, lead_user, ?_, ?_, ?_⟩
  · rw [lead_amount]
    exact counter_above
  · rw [lead_amount]
    exact counter_value
  · rw [lead_amount]
    exact standing_eq

end PlaceBid

section SetProxy

variable {caller : Caller} {id : ItemId} {ceiling : Decimal}

theorem standing_ceilingPut (store : Store) (caller : Caller) (id : ItemId) (round : Round)
    (ceiling : Decimal) (item : Item) (round' : Round) :
    (ceilingPut store caller id round ceiling).2.standing item round' =
      store.standing item round' := by
  unfold Store.standing ceilingPut
  rw [Store.bidsFor_putProxy]

/-- Of two ceilings above the price, in whole cents as the step is, the higher one leads once their
settlement is written, the caller's of equal ones. -/
theorem reconcile_lands (kept : house.Kept store) (wholeStep : item.bidStep.IsCents)
    (step_le : item.bidStep.value ≤ roof)
    (taken : CeilingTaken house store caller item.id round ceiling item)
    (ceiling_le : ceiling.roundCents.value ≤ roof) {rival : Proxy}
    (rival_mem : rival ∈ store.activeProxies item.id round)
    (able : (store.standing item round).minPrice < rival.ceiling) :
    ∃ settlement,
      Settlement.reconcile ceiling.roundCents rival.ceiling item.bidStep = .ok settlement ∧
      settlement.leader = (if ceiling.roundCents < rival.ceiling then .rival else .caller) ∧
      settlement.leading.value =
        min (min ceiling.roundCents.value rival.ceiling.value + item.bidStep.value)
          (max ceiling.roundCents.value rival.ceiling.value) ∧
      (store.standing item round).minPrice < settlement.leading ∧
      ∃ lead : Bid,
        lead.toNewBid = Settlement.autoBid item.id round
          (settlement.leader.user caller.user rival.user) settlement.leading caller.now ∧
        ((ceilingPut store caller item.id round ceiling).2.append
          ((settlement.flooredAt (store.standing item round).minPrice).bids item.id round
            caller.user rival.user caller.now)).2.standing item round =
          ⟨settlement.leading, some lead⟩ := by
  obtain ⟨-, listed, current, valid⟩ := taken
  obtain ⟨-, -, -, pos, above⟩ := Validation.ceilingViolations_eq_nil_iff.1 valid
  rw [Decimal.lt_iff_value_lt, Decimal.value_zero] at pos
  have step_pos := Item.bidStep_pos (kept.items item.id item listed).2
  have wholeCeiling := Decimal.isCents_roundCents ceiling
  obtain ⟨wholeRival, rival_pos⟩ :=
    kept.proxies.ceilings rival (Store.mem_activeProxies.1 rival_mem).1
  have room := roof_add_roof_lt
  obtain ⟨settlement, settled, leader_eq, leading_eq, trailing_lt⟩ :=
    Settlement.exists_reconcile wholeCeiling wholeRival wholeStep pos rival_pos step_pos
      (by linarith)
  have price_lt := Settlement.lt_leading_reconcile wholeCeiling wholeRival step_pos.le settled
    above able
  let floored := settlement.flooredAt (store.standing item round).minPrice
  have leading_floored : floored.leading = settlement.leading :=
    Settlement.leading_flooredAt price_lt
  have trailing_floored : floored.trailing < floored.leading := by
    have trailing_eq : floored.trailing =
        max settlement.trailing (store.standing item round).minPrice := rfl
    rw [Decimal.lt_iff_value_lt, leading_floored, trailing_eq, Decimal.value_max]
    exact max_lt trailing_lt (Decimal.lt_iff_value_lt.1 price_lt)
  refine ⟨settlement, settled, leader_eq, leading_eq, price_lt, ?_⟩
  rw [Settlement.bids_eq, ← leading_floored]
  exact @standing_append_of_highest
    (ceilingPut store caller item.id round ceiling).2 item round []
    [Settlement.autoBid item.id round (floored.leader.other.user caller.user rival.user)
      floored.trailing caller.now]
    (Settlement.autoBid item.id round (floored.leader.user caller.user rival.user)
      floored.leading caller.now)
    (by
      intro bid mem
      rcases List.mem_cons.1 mem with rfl | trailing
      · exact ⟨rfl, rfl⟩
      · rw [List.mem_singleton.1 trailing]
        exact ⟨rfl, rfl⟩)
    nofun
    (by
      rw [standing_ceilingPut]
      exact leading_floored ▸ price_lt)
    (by
      intro bid mem
      rw [List.mem_singleton.1 mem]
      exact trailing_floored)

/-- Two ceilings above the price: the higher one leads, the caller's of equal ones, with a step
above the lower one or all of itself. -/
theorem rivalry_settles (kept : house.Kept store) (orderly : Orderly store item round)
    (taken : CeilingTaken house store caller item.id round ceiling item)
    (ceiling_le : ceiling.roundCents.value ≤ roof) {rival : Proxy}
    (rival_mem : rival ∈ store.activeProxies item.id round)
    (able : (store.standing item round).minPrice < rival.ceiling) :
    ∃ bids,
      (Settlement.reconcile ceiling.roundCents rival.ceiling item.bidStep >>= fun settlement =>
        .ok ((settlement.flooredAt (store.standing item round).minPrice).bids item.id round
          caller.user rival.user caller.now)) = .ok bids ∧
      ∃ lead : Bid,
        lead.user = (if ceiling.roundCents < rival.ceiling then rival.user else caller.user) ∧
        (store.standing item round).minPrice < lead.amount ∧
        lead.amount.value =
          min (min ceiling.roundCents.value rival.ceiling.value + item.bidStep.value)
            (max ceiling.roundCents.value rival.ceiling.value) ∧
        ((ceilingPut store caller item.id round ceiling).2.append bids).2.standing item round =
          ⟨lead.amount, some lead⟩ := by
  obtain ⟨settlement, settled, leader_eq, leading_eq, price_lt, lead, lead_eq, standing_eq⟩ :=
    reconcile_lands kept orderly.whole orderly.step_le taken ceiling_le rival_mem able
  have lead_user : lead.user = settlement.leader.user caller.user rival.user := by
    rw [lead_eq]
    rfl
  have lead_amount : lead.amount = settlement.leading := by
    rw [lead_eq]
    rfl
  refine ⟨_, bind_eq_ok_iff.2 ⟨settlement, settled, rfl⟩, lead, ?_, ?_, ?_, ?_⟩
  · rw [lead_user, leader_eq]
    split <;> rfl
  · rw [lead_amount]
    exact price_lt
  · rw [lead_amount, leading_eq]
  · rw [lead_amount]
    exact standing_eq

theorem minPrice_nonneg (sound : item.problems = []) :
    0 ≤ (store.standing item round).minPrice.value := by
  have start_pos := Item.startingPrice_pos sound
  have start_le := Decimal.le_iff_value_le.1
    (Ranking.startingPrice_le_minPrice item.startingPrice (store.bidsFor item.id round))
  exact start_pos.le.trans start_le

/-- A ceiling that opens at a step above the price, or with all of itself, leads.  The step is exact
if the price is in whole cents. -/
theorem opening_lands (kept : house.Kept store) (wholeStep : item.bidStep.IsCents)
    (step_le : item.bidStep.value ≤ roof)
    (price_le : (store.standing item round).minPrice.value ≤ roof)
    (taken : CeilingTaken house store caller item.id round ceiling item) :
    ∃ sum, (store.standing item round).minPrice.add item.bidStep = .ok sum ∧
      ((store.standing item round).minPrice.IsCents → sum.IsCents ∧
        sum.value = (store.standing item round).minPrice.value + item.bidStep.value) ∧
      (store.standing item round).minPrice < (min sum ceiling.roundCents).roundCents ∧
      ∃ lead : Bid,
        lead.toNewBid = Settlement.autoBid item.id round caller.user
          (min sum ceiling.roundCents).roundCents caller.now ∧
        ((ceilingPut store caller item.id round ceiling).2.append
          [Settlement.autoBid item.id round caller.user
            (min sum ceiling.roundCents).roundCents caller.now]).2.standing item round =
          ⟨(min sum ceiling.roundCents).roundCents, some lead⟩ := by
  obtain ⟨-, listed, current, valid⟩ := taken
  obtain ⟨-, -, -, -, above⟩ := Validation.ceilingViolations_eq_nil_iff.1 valid
  have sound := (kept.items item.id item listed).2
  have step_pos := Item.bidStep_pos sound
  have price_nonneg := @minPrice_nonneg store item round sound
  have room := roof_add_roof_lt
  have sum_lt : (store.standing item round).minPrice.value + item.bidStep.value <
      Decimal.centsLimit := by linarith
  have sum_nonneg : 0 ≤ (store.standing item round).minPrice.value + item.bidStep.value := by
    linarith
  obtain ⟨sum, added⟩ := Decimal.exists_add_of_room
    (show |(store.standing item round).minPrice.value + item.bidStep.value| < _ by
      rwa [abs_of_nonneg sum_nonneg])
  obtain ⟨cents, whole, price_lt, cents_le⟩ :=
    Decimal.exists_cents_of_add wholeStep price_nonneg step_pos sum_lt added
  have opening_above : (store.standing item round).minPrice <
      (min sum ceiling.roundCents).roundCents := by
    have wholeLower := whole.min (Decimal.isCents_roundCents ceiling)
    apply lt_of_lt_of_le (b := min cents ceiling.roundCents)
    · rw [Decimal.lt_iff_value_lt] at price_lt above ⊢
      rw [Decimal.value_min]
      exact lt_min price_lt above
    · apply Decimal.le_roundCents wholeLower
      rw [Decimal.le_iff_value_le] at cents_le ⊢
      rw [Decimal.value_min, Decimal.value_min]
      exact min_le_min_right _ cents_le
  refine ⟨sum, added, ?_, opening_above, ?_⟩
  · intro wholePrice
    obtain ⟨exact, added', wholeSum, exact_eq⟩ :=
      Settlement.exists_sum wholePrice wholeStep price_nonneg step_pos.le sum_lt
    obtain rfl : exact = sum := Except.ok.inj (added'.symm.trans added)
    exact ⟨wholeSum, exact_eq⟩
  · exact @standing_append_of_highest
      (ceilingPut store caller item.id round ceiling).2 item round [] []
      (Settlement.autoBid item.id round caller.user (min sum ceiling.roundCents).roundCents
        caller.now)
      (by
        intro bid mem
        rw [List.mem_singleton.1 mem]
        exact ⟨rfl, rfl⟩)
      nofun
      (by
        rw [standing_ceilingPut]
        exact opening_above)
      (by
        intro bid mem
        cases mem)

/-- A ceiling that meets no other one above the price outbids a lead by a step, or with all of
itself. -/
theorem opening_settles (kept : house.Kept store) (orderly : Orderly store item round)
    (taken : CeilingTaken house store caller item.id round ceiling item) {previous : Bid}
    (leads : (store.standing item round).lead = some previous) :
    ∃ bids, (Settlement.openingAmount (store.standing item round).minPrice ceiling.roundCents
        item.bidStep >>= fun amount =>
          .ok [Settlement.autoBid item.id round caller.user amount caller.now]) = .ok bids ∧
      ∃ lead : Bid, lead.user = caller.user ∧
        (store.standing item round).minPrice < lead.amount ∧
        lead.amount.value =
          min ((store.standing item round).minPrice.value + item.bidStep.value)
            ceiling.roundCents.value ∧
        ((ceilingPut store caller item.id round ceiling).2.append bids).2.standing item round =
          ⟨lead.amount, some lead⟩ := by
  obtain ⟨sum, added, exact_of, opening_above, lead, lead_eq, standing_eq⟩ :=
    opening_lands kept orderly.whole orderly.step_le orderly.price_le taken
  obtain ⟨wholeSum, sum_value⟩ :=
    exact_of (kept.minPrice_isCents leads (orderly.reached previous leads))
  have lead_amount : lead.amount = (min sum ceiling.roundCents).roundCents := by
    rw [lead_eq]
    rfl
  refine ⟨_, bind_eq_ok_iff.2
    ⟨_, Settlement.openingAmount_eq_ok_iff.2 ⟨sum, added, rfl⟩, rfl⟩, lead, ?_, ?_, ?_, ?_⟩
  · rw [lead_eq]
    rfl
  · rw [lead_amount]
    exact opening_above
  · rw [lead_amount,
      Settlement.value_roundCents_min wholeSum (Decimal.isCents_roundCents ceiling), sum_value]
  · rw [lead_amount]
    exact standing_eq

end SetProxy

end AuctionHouse.House
