import AuctionHouse.Proofs.House.Spending

/-!
# Who leads after a bid and after a purchase

A bid that is written takes the lead unless the old lead withstands it (`lead_append`).  So a bid
by hand is led by its answer, if that is above it, or else by the old lead or itself (`lead_bid`),
while its receipt always names the user of the answer, or of the bid if there is none.  The two
differ when amounts are equal (`Receipt.Misnames`).  In the same way a purchase leads the round that
it ends only if the old lead does not withstand it (`lead_purchase`).
-/

namespace AuctionHouse

namespace Receipt

/-- The bid that leads after a receipt: the answer if it is above the bid, else what led before if
that withstands the bid, else the bid. -/
def leadOver (receipt : Receipt) (before : Standing) : Option Bid :=
  if receipt.bid.amount < receipt.top.amount then some receipt.top
  else if before.Withstands receipt.bid.toNewBid then before.lead
  else some receipt.bid

/-- Whether a receipt names a user who does not lead.  Without an answer, its bid only equals an
older lead; with one, the answer only equals the bid, and there is no older lead of the same user
that is equal to both. -/
def Misnames (receipt : Receipt) (before : Standing) : Prop :=
  match receipt.counter with
  | none => before.Withstands receipt.bid.toNewBid
  | some counter => counter.amount.SameValue receipt.bid.amount ∧
      ¬ (before.Withstands receipt.bid.toNewBid ∧ before.leader? = some counter.user)

end Receipt

namespace House

variable {house : House} {store : Store} {item : Item} {round : Round}

/-- A bid that is written takes the lead unless the old lead withstands it. -/
theorem lead_append {bid : NewBid} (kept : (store.append [bid]).2.LedgerKept)
    (counts : bid.offer ≠ .rejected) (here : bid.item = item.id ∧ bid.round = round) :
    ((store.append [bid]).2.standing item round).lead =
      if (store.standing item round).Withstands bid then (store.standing item round).lead
      else some { bid with id := store.nextBidId } := by
  have bids_eq : (store.append [bid]).2.bidsFor item.id round =
      store.bidsFor item.id round ++ [{ bid with id := store.nextBidId }] := by
    rw [Store.bidsFor_append_of_forall store (by simpa using here)]
    rfl
  have ids : ((store.append [bid]).2.bidsFor item.id round).Pairwise fun a b => a.id < b.id :=
    kept.ids.filter _
  unfold Store.standing
  rw [bids_eq] at ids ⊢
  exact Ranking.winner?_concat ids (decide_eq_true counts)

section Bid

variable {caller : Caller} {id : ItemId} {amount : Decimal} {kind : BidKind}

/-- The answer to a bid is not below it. -/
theorem le_counter (kept : house.Kept store) {counter : NewBid}
    (taken : BidTaken house store caller id round amount kind item (some counter)) :
    amount.roundCents ≤ counter.amount := by
  obtain ⟨-, listed, -, -, answered⟩ := taken
  have step_pos := Item.bidStep_pos (kept.items id item listed).2
  obtain ⟨rival, -, counter_amount, computed, rfl⟩ := answerTo_eq_some answered
  obtain ⟨above, sum, added, rfl⟩ := Settlement.counterAmount_eq_some_iff.1 computed
  exact Settlement.le_capped_sum (Decimal.isCents_roundCents _) added step_pos.le
    (Decimal.le_of_lt above)

/-- The answer to a bid is of another user. -/
theorem counter_user_ne {counter : NewBid}
    (taken : BidTaken house store caller id round amount kind item (some counter)) :
    counter.user ≠ caller.user := by
  obtain ⟨rival, strongest, counter_amount, -, rfl⟩ := answerTo_eq_some taken.answered
  exact strongest.other

/-- Before its answer, a bid that is taken leads or leaves the lead to an older one of as much. -/
theorem exists_lead_byHand (kept : house.Kept store) {counter : Option NewBid}
    (taken : BidTaken house store caller id round amount kind item counter) :
    let bid := byHand caller id round amount kind
    let standing := (store.append [bid]).2.standing item round
    standing.lead =
        (if (store.standing item round).Withstands bid then (store.standing item round).lead
        else some { bid with id := store.nextBidId }) ∧
      ∃ lead, standing.lead = some lead ∧ bid.amount.SameValue lead.amount ∧
        lead.createdAt ≤ bid.createdAt := by
  intro bid standing
  obtain rfl := (kept.items id item taken.listed).1
  obtain ⟨-, -, -, -, leads_le, -⟩ := Validation.bidViolations_eq_nil_iff.1 taken.valid
  have sound : store.SoundBatch [bid] := by
    intro other mem
    rw [List.mem_singleton.1 mem]
    exact ⟨(soundBatch_bid taken bid List.mem_cons_self).1, nofun,
      .inl (Decimal.isCents_roundCents _)⟩
  have lead_eq := @lead_append store item round bid (kept.ledger.append sound) nofun ⟨rfl, rfl⟩
  refine ⟨lead_eq, ?_⟩
  by_cases withstood : (store.standing item round).Withstands bid
  · rw [if_pos withstood] at lead_eq
    obtain ⟨lead, leads, withstands⟩ := withstood
    obtain ⟨same, early⟩ := withstands.same_of_le (leads_le lead leads)
    exact ⟨lead, lead_eq.trans leads, same, early⟩
  · rw [if_neg withstood] at lead_eq
    exact ⟨_, lead_eq, Decimal.sameValue_iff_value_eq.2 rfl, Int.le_refl _⟩

/-- After a bid that is taken, what the receipt and the old standing say leads. -/
theorem lead_bid (kept : house.Kept store) {counter : Option NewBid}
    (taken : BidTaken house store caller id round amount kind item counter) :
    ((store.append (byHand caller id round amount kind :: counter.toList)).2.standing item
        round).lead =
      (receipt store (byHand caller id round amount kind) counter).leadOver
        (store.standing item round) := by
  obtain ⟨lead_eq, lead, leads, same, early⟩ := exists_lead_byHand kept taken
  unfold Receipt.leadOver
  cases counter with
  | none =>
    have not_above : ¬ amount.roundCents < amount.roundCents := Decimal.lt_irrefl _
    exact lead_eq.trans (Eq.symm (if_neg not_above))
  | some counter =>
    let first := (store.append [byHand caller id round amount kind]).2
    obtain ⟨user, counter_amount, counter_eq⟩ := answer_eq_autoBid taken.answered
    have in_item : counter.item = item.id := by
      rw [counter_eq, (kept.items id item taken.listed).1]
      rfl
    have in_round : counter.round = round := by rw [counter_eq]; rfl
    have counts : counter.offer ≠ .rejected := by rw [counter_eq]; nofun
    have now : counter.createdAt = caller.now := by rw [counter_eq]; rfl
    have both_kept : (first.append [counter]).2.LedgerKept :=
      kept.ledger.append (soundBatch_bid taken)
    have answer_lead := lead_append both_kept counts ⟨in_item, in_round⟩
    -- What leads before the answer withstands it exactly if the answer only equals the bid.
    have withstands_iff : (first.standing item round).Withstands counter ↔
        ¬ amount.roundCents < counter.amount :=
      Standing.withstands_iff_not_lt leads same (now ▸ early) (le_counter kept taken)
    refine Eq.trans answer_lead ?_
    by_cases above : amount.roundCents < counter.amount
    · rw [if_neg (fun withstood => withstands_iff.1 withstood above)]
      exact Eq.symm (if_pos above)
    · rw [if_pos (withstands_iff.2 above)]
      exact lead_eq.trans (Eq.symm (if_neg above))

/-- The highest amount of a receipt is that of its bid if the answer is not above it. -/
theorem top_same_of_not_lt (kept : house.Kept store) {counter : Option NewBid}
    (taken : BidTaken house store caller id round amount kind item counter) :
    let result := receipt store (byHand caller id round amount kind) counter
    ¬ result.bid.amount < result.top.amount → result.top.amount.SameValue result.bid.amount := by
  intro result not_above
  rw [Decimal.sameValue_iff_value_eq]
  cases counter with
  | none => rfl
  | some counter =>
    have at_least := le_counter kept taken
    rw [Decimal.not_lt, Decimal.le_iff_value_le] at not_above
    rw [Decimal.le_iff_value_le] at at_least
    exact le_antisymm not_above at_least

/-- A receipt names the user who leads unless it misnames, and has the leading amount always. -/
theorem leadOver_receipt (kept : house.Kept store) {counter : Option NewBid}
    (taken : BidTaken house store caller id round amount kind item counter) :
    let result := receipt store (byHand caller id round amount kind) counter
    let before := store.standing item round
    ∃ lead, result.leadOver before = some lead ∧
      (result.leader = lead.user ↔ ¬ result.Misnames before) ∧
      result.top.amount.SameValue lead.amount := by
  intro result before
  obtain ⟨not_leading, -, -, -, leads_le, -⟩ :=
    Validation.bidViolations_eq_nil_iff.1 taken.valid
  have top_same := top_same_of_not_lt kept taken
  unfold Receipt.leadOver
  by_cases above : result.bid.amount < result.top.amount
  · refine ⟨result.top, if_pos above, ⟨fun _ => ?_, fun _ => rfl⟩,
      Decimal.sameValue_iff_value_eq.2 rfl⟩
    intro misnames
    cases counter with
    | none => exact Decimal.lt_irrefl _ above
    | some counter =>
      have equal := Decimal.sameValue_iff_value_eq.1 misnames.1
      exact (Decimal.lt_iff_value_lt.1 above).ne equal.symm
  rw [if_neg above]
  have top_value := Decimal.sameValue_iff_value_eq.1 (top_same above)
  by_cases withstood : before.Withstands result.bid.toNewBid
  · obtain ⟨lead, leads, withstands⟩ := withstood
    have bid_value := Decimal.sameValue_iff_value_eq.1
      (withstands.same_of_le (leads_le lead leads)).1
    have leading : before.leader? = some lead.user := by
      unfold Standing.leader?
      rw [leads]
      rfl
    refine ⟨lead, (if_pos ⟨lead, leads, withstands⟩).trans leads, ?_,
      Decimal.sameValue_iff_value_eq.2 (top_value.trans bid_value)⟩
    cases counter with
    | none =>
      -- The caller did not lead before.
      refine ⟨fun own => ?_, fun named => absurd ⟨lead, leads, withstands⟩ named⟩
      exact absurd (leading.trans (congrArg some own.symm)) not_leading
    | some counter =>
      constructor
      · rintro own ⟨-, not_own⟩
        exact not_own ⟨⟨lead, leads, withstands⟩, leading.trans (congrArg some own.symm)⟩
      · intro named
        by_contra other
        refine named ⟨top_same above, fun own => other ?_⟩
        exact Option.some.inj (own.2.symm.trans leading)
  · refine ⟨result.bid, if_neg withstood, ?_, top_same above⟩
    cases counter with
    | none => exact ⟨fun _ => withstood, fun _ => rfl⟩
    | some counter =>
      refine ⟨fun own => absurd own (counter_user_ne taken), fun named => ?_⟩
      exact absurd ⟨top_same above, fun kept_lead => withstood kept_lead.1⟩ named

theorem mem_outbidNotices {previous : Option UserId} {leader : UserId} {notice : Notice} :
    notice ∈ outbidNotices id round previous leader amount ↔
      ∃ user, previous = some user ∧ user ≠ leader ∧
        notice = .outbid id round user leader amount := by
  unfold outbidNotices
  cases previous with
  | none => simp
  | some user => by_cases same : user = leader <;> simp [same]

/-- What a bid by hand does if it is answered with a receipt. -/
theorem taken_of_placeBid {result : Receipt} {after : Floor}
    (placed : house.placeBid caller id round amount kind { store } = (.ok result, after)) :
    ∃ item counter, BidTaken house store caller id round amount kind item counter ∧
      result = receipt store (byHand caller id round amount kind) counter ∧
      after.store = (store.append (byHand caller id round amount kind :: counter.toList)).2 ∧
      after.notices =
        bidNotices id round (store.standing item round).leader? caller.user result := by
  have start : ({ store } : Floor) = Floor.calm store [] [] := rfl
  rw [start] at placed
  obtain ⟨calls, eq⟩ := house.placeBid_calm store caller id round amount kind [] []
  rw [eq] at placed
  cases accepted : house.bidItem store caller id round amount kind with
  | error refusal =>
    rw [accepted] at placed
    cases placed
  | ok item =>
    cases answered : house.answerTo store item (byHand caller id round amount kind) with
    | error fault =>
      simp only [accepted, answered] at placed
      cases placed
    | ok counter =>
      simp only [accepted, answered] at placed
      cases placed
      exact ⟨item, counter, bidTaken_iff.2 ⟨accepted, answered⟩, rfl, rfl, rfl⟩

/-- After every run, the receipt for a bid by hand names the user who leads the round from then on,
unless it misnames.  Every notice of the call names the same user, to another one, and the receipt
and the notices have the amount of the lead always. -/
theorem receipt_leader (house : House) (events : List Event) {result : Receipt} {after : Floor}
    (placed : house.placeBid caller id round amount kind { store := house.run events } =
      (.ok result, after)) :
    ∃ item lead, (house.run events).item? id = some item ∧ after.store.item? id = some item ∧
      (after.store.standing item round).lead = some lead ∧
      (result.leader = lead.user ↔
        ¬ result.Misnames ((house.run events).standing item round)) ∧
      result.top.amount.SameValue lead.amount ∧
      ∀ notice ∈ after.notices, ∃ previous, previous ≠ result.leader ∧
        notice = .outbid id round previous result.leader result.top.amount := by
  have kept := kept_run house events
  obtain ⟨item, counter, taken, rfl, store_eq, notices_eq⟩ := taken_of_placeBid placed
  obtain ⟨lead, leads, named, same⟩ := leadOver_receipt kept taken
  refine ⟨item, lead, taken.listed, ?_, ?_, named, same, ?_⟩
  · rw [store_eq, Store.item?_append]
    exact taken.listed
  · rw [store_eq]
    exact (lead_bid kept taken).trans leads
  · intro notice mem
    rw [notices_eq, bidNotices, List.mem_append, mem_outbidNotices, mem_outbidNotices] at mem
    rcases mem with ⟨user, -, other, eq⟩ | ⟨user, -, other, eq⟩
    · exact ⟨user, other, eq⟩
    · exact ⟨user, other, eq⟩

theorem receipt_leader_vase :
    let events : List Event :=
      [.register .vase, .call ⟨2, .hour 1⟩ (.setProxy 1 0 (.whole 20))]
    let bid : Bid := { byHand ⟨3, .hour 2⟩ 1 0 (.whole 12) .standard with id := 1 }
    let counter : Bid := { Settlement.autoBid 1 0 2 (.whole 13) (.hour 2) with id := 2 }
    ∃ after, placeBid {} ⟨3, .hour 2⟩ 1 0 (.whole 12) .standard { store := run {} events } =
        (.ok ⟨bid, some counter⟩, after) ∧
      (after.store.standing .vase 0).leader? = some 2 := by
  intro events bid counter
  let placed := placeBid {} ⟨3, .hour 2⟩ 1 0 (.whole 12) .standard { store := run {} events }
  have answer_eq : placed.1 = .ok ⟨bid, some counter⟩ := by decide +kernel
  have placed_eq : placed = (.ok ⟨bid, some counter⟩, placed.2) := Prod.ext answer_eq rfl
  obtain ⟨item, lead, listed, -, leads, named, -⟩ := receipt_leader {} events placed_eq
  have vase_eq : (run {} events).item? 1 = some .vase := by decide +kernel
  obtain rfl : item = .vase := Option.some.inj (listed.symm.trans vase_eq)
  refine ⟨placed.2, placed_eq, ?_⟩
  have above : ¬ counter.amount.SameValue bid.amount := by decide
  have leader_eq := named.2 fun misnames => above misnames.1
  unfold Standing.leader?
  rw [leads]
  exact congrArg some leader_eq.symm

/-- A bid that equals an older one is answered with a receipt and a notice that it leads, and does
not. -/
theorem equal_bid_misnamed :
    let store := run {}
      [.register .vase, .call ⟨2, .hour 1⟩ (.placeBid 1 0 (.whole 12) .standard)]
    let placed := placeBid {} ⟨3, .hour 2⟩ 1 0 (.whole 12) .standard { store }
    placed.1.map Receipt.leader = .ok 3 ∧ placed.2.notices = [.outbid 1 0 2 3 (.whole 12)] ∧
      (placed.2.store.standing .vase 0).leader? = some 2 := by
  intro store placed
  have bids_eq : placed.2.store.bidsFor Item.vase.id 0 =
      [{ byHand ⟨2, .hour 1⟩ 1 0 (.whole 12) .standard with id := 1 },
        { byHand ⟨3, .hour 2⟩ 1 0 (.whole 12) .standard with id := 2 }] := by
    decide +kernel
  refine ⟨?_, ?_, ?_⟩
  · decide +kernel
  · decide +kernel
  · unfold Standing.leader? Store.standing
    rw [bids_eq, Ranking.lead_pair _ (by decide) rfl rfl]
    decide +kernel

/-- An answer that is rounded to the bid that it answers is said to lead, and does not. -/
theorem rounded_answer_misnamed :
    let item : Item := { Item.vase with bidStep := .ofParts 1 3 }
    let store := run {} [.register item, .call ⟨2, .hour 1⟩ (.setProxy 1 0 (.whole 20))]
    let placed := placeBid {} ⟨3, .hour 2⟩ 1 0 (.whole 12) .standard { store }
    placed.1.map Receipt.leader = .ok 2 ∧
      placed.2.notices = [.outbid 1 0 3 2 (.ofParts 1200 2)] ∧
      (placed.2.store.standing item 0).leader? = some 3 := by
  intro item store placed
  have bids_eq : placed.2.store.bidsFor item.id 0 =
      [{ byHand ⟨3, .hour 2⟩ 1 0 (.whole 12) .standard with id := 1 },
        { Settlement.autoBid 1 0 2 (.ofParts 1200 2) (.hour 2) with id := 2 }] := by
    decide +kernel
  refine ⟨?_, ?_, ?_⟩
  · decide +kernel
  · decide +kernel
  · unfold Standing.leader? Store.standing
    rw [bids_eq, Ranking.lead_pair _ (by decide) rfl rfl]
    decide +kernel

end Bid

section Purchase

variable {caller : Caller} {id : ItemId}

/-- After a purchase that is taken, it leads unless the old lead withstands it. -/
theorem lead_purchase (kept : house.Kept store) (taken : PurchaseTaken house store caller id item) :
    let before := store.standing item item.round
    ((sold store (purchase caller id item)).standing item item.round).lead =
      if before.Withstands (purchase caller id item) then before.lead
      else some { purchase caller id item with id := store.nextBidId } := by
  have own := (kept.items id item taken.listed).1
  exact lead_append (kept.ledger.append (soundBatch_purchase taken)) nofun ⟨own.symm, rfl⟩

/-- What a purchase does if it is answered with a bid. -/
theorem taken_of_placeBuyNow {bid : Bid} {after : Floor}
    (bought : house.placeBuyNow caller id { store } = (.ok bid, after)) :
    ∃ item calls, PurchaseTaken house store caller id item ∧
      bid = { purchase caller id item with id := store.nextBidId } ∧
      after = Floor.calm (sold store (purchase caller id item)) calls
        (outbidNotices id item.round (store.standing item item.round).leader? caller.user
          bid.amount ++ [.closed id item.round caller.user bid.amount]) := by
  have start : ({ store } : Floor) = Floor.calm store [] [] := rfl
  rw [start] at bought
  obtain ⟨calls, eq⟩ := house.placeBuyNow_calm store caller id [] []
  rw [eq] at bought
  cases accepted : house.purchaseItem store caller id with
  | error refusal =>
    rw [accepted] at bought
    cases bought
  | ok item =>
    rw [accepted] at bought
    cases bought
    exact ⟨item, calls, purchaseItem_eq_ok_iff.1 accepted, rfl, rfl⟩

/-- After every run, a purchase is written for its buyer at the buy-now price and finishes the item,
and all are told that the buyer has it.  It leads the round, and so wins it, exactly if the old lead
does not withstand it; else the old lead stays and wins. -/
theorem purchase_leads (house : House) (events : List Event) {bid : Bid} {after : Floor}
    (bought : house.placeBuyNow caller id { store := house.run events } = (.ok bid, after)) :
    ∃ item, (house.run events).item? id = some item ∧
      after.store.item? id = some { item with workflow := .finished } ∧
      let before := (house.run events).standing item item.round
      let standing := after.store.standing item item.round
      bid.toNewBid = purchase caller id item ∧
      (∀ now, (house.answer now (.winner id item.round) after).1 = .ok (.winner standing.lead)) ∧
      (standing.lead = some bid ↔ ¬ before.Withstands bid.toNewBid) ∧
      (before.Withstands bid.toNewBid → standing.lead = before.lead) ∧
      after.notices = outbidNotices id item.round before.leader? caller.user bid.amount ++
        [.closed id item.round caller.user bid.amount] := by
  have kept := kept_run house events
  obtain ⟨item, calls, taken, rfl, rfl⟩ := taken_of_placeBuyNow bought
  obtain rfl := (kept.items id item taken.listed).1
  have lead_eq := lead_purchase kept taken
  refine ⟨item, taken.listed, ?_, rfl, fun now => rfl, ?_, ?_, rfl⟩
  · have finished := (house.run events).item?_modify item.id item.id
      fun item => { item with workflow := .finished }
    rw [if_pos rfl, taken.listed] at finished
    exact finished
  · constructor
    · intro leads withstood
      -- The old lead is in the ledger, so it has another number than the purchase.
      have old_leads := (lead_eq.trans (if_pos withstood)).symm.trans leads
      have old_mem := (Store.mem_bidsFor _).1 (Ranking.winner?_spec old_leads).1
      exact Nat.lt_irrefl _ (kept.ledger.ids_lt _ old_mem.1)
    · intro overtaken
      exact lead_eq.trans (if_neg overtaken)
  · intro withstood
    exact lead_eq.trans (if_pos withstood)

theorem purchase_leads_vase :
    let events : List Event :=
      [.register .vase, .call ⟨2, .hour 1⟩ (.placeBid 1 0 (.whole 12) .standard)]
    let bid : Bid := { purchase ⟨3, .hour 2⟩ 1 .vase with id := 2 }
    ∃ after, placeBuyNow {} ⟨3, .hour 2⟩ 1 { store := run {} events } = (.ok bid, after) ∧
      (after.store.standing .vase 0).lead = some bid := by
  intro events bid
  let bought := placeBuyNow {} ⟨3, .hour 2⟩ 1 { store := run {} events }
  have answer_eq : bought.1 = .ok bid := by decide +kernel
  have bought_eq : bought = (.ok bid, bought.2) := Prod.ext answer_eq rfl
  obtain ⟨item, listed, -, -, -, leads_iff, -⟩ := purchase_leads {} events bought_eq
  have vase_eq : (run {} events).item? 1 = some .vase := by decide +kernel
  obtain rfl : item = .vase := Option.some.inj (listed.symm.trans vase_eq)
  refine ⟨bought.2, bought_eq, leads_iff.2 ?_⟩
  decide +kernel

/-- A purchase for less than a bid that there is finishes the item for its buyer, and the other user
wins. -/
theorem purchase_below_lead :
    let store := run {}
      [.register .vase, .call ⟨2, .hour 1⟩ (.placeBid 1 0 (.whole 120) .standard)]
    let bought := placeBuyNow {} ⟨3, .hour 2⟩ 1 { store }
    bought.2.notices = [.outbid 1 0 2 3 (.whole 100), .closed 1 0 3 (.whole 100)] ∧
      (bought.2.store.standing .vase 0).leader? = some 2 := by
  intro store bought
  have bids_eq : bought.2.store.bidsFor Item.vase.id 0 =
      [{ byHand ⟨2, .hour 1⟩ 1 0 (.whole 120) .standard with id := 1 },
        { purchase ⟨3, .hour 2⟩ 1 .vase with id := 2 }] := by
    decide +kernel
  refine ⟨?_, ?_⟩
  · decide +kernel
  · unfold Standing.leader? Store.standing
    rw [bids_eq, Ranking.lead_pair _ (by decide) rfl rfl]
    decide +kernel

end Purchase

end House

end AuctionHouse
