import AuctionHouse.Proofs.House.Leading

/-!
# Bids that are answered

A bid by hand is answered by the strongest active rival, within its ceiling and not below the bid.
The answer is rounded to cents after the step is added, so it is above the bid exactly if the sum is
half a cent above it (`lt_roundCents_iff`).  A step of half a cent or more is enough for that, as
long as the sum keeps its fractions of a cent (`half_cent_le_sum`); a smaller one, or one that is
lost in a large sum, is not, and then the bid itself leads unless it was led before.
-/

namespace AuctionHouse

namespace House

variable {house : House} {store : Store} {caller : Caller} {id : ItemId} {round : Round}
  {amount : Decimal} {kind : BidKind} {item : Item}

/-- An answer is that of the strongest rival: a step more than the bid, but not more than the
ceiling. -/
theorem counter_cases {counter : NewBid}
    (taken : BidTaken house store caller id round amount kind item (some counter)) :
    ∃ rival : Proxy, rival.StrongestAgainst caller.user (store.activeProxies id round) ∧
      counter.user = rival.user ∧ amount.roundCents < rival.ceiling ∧
      ∃ sum, amount.roundCents.add item.bidStep = .ok sum ∧
        counter.amount = (min sum rival.ceiling).roundCents := by
  obtain ⟨rival, strongest, answer, computed, rfl⟩ := answerTo_eq_some taken.answered
  obtain ⟨above, sum, added, rfl⟩ := Settlement.counterAmount_eq_some_iff.1 computed
  exact ⟨rival, strongest, rfl, above, sum, added, rfl⟩

/-- An answer is above the bid exactly if a step more is half a cent more. -/
theorem lt_counter_iff {bid sum ceiling : Decimal} (wholeBid : bid.IsCents)
    (wholeCeiling : ceiling.IsCents) (nonneg : 0 ≤ bid.value) (above : bid < ceiling) :
    bid < (min sum ceiling).roundCents ↔ bid.value + 1 / 200 ≤ sum.value := by
  rw [Decimal.lt_roundCents_iff wholeBid nonneg, Decimal.value_min, le_min_iff]
  refine and_iff_left ?_
  rw [← Decimal.lt_roundCents_iff wholeBid nonneg]
  exact lt_of_lt_of_le above (Decimal.le_roundCents wholeCeiling (Decimal.le_refl _))

/-- An answer is above the bid if the step is half a cent or more and there is room for a tenth of a
cent. -/
theorem lt_counter_of_half (kept : house.Kept store) {counter : NewBid}
    (taken : BidTaken house store caller id round amount kind item (some counter))
    (half : 1 / 200 ≤ item.bidStep.value)
    (room : amount.roundCents.value + item.bidStep.value < 10 ^ 25) :
    amount.roundCents < counter.amount := by
  obtain ⟨rival, strongest, -, above, sum, added, amount_eq⟩ := counter_cases taken
  obtain ⟨-, -, nonneg, -⟩ := Validation.bidViolations_eq_nil_iff.1 taken.valid
  rw [Decimal.le_iff_value_le, Decimal.value_zero] at nonneg
  have wholeCeiling :=
    (kept.proxies.ceilings rival (Store.mem_activeProxies.1 strongest.mem).1).1
  rw [amount_eq, lt_counter_iff (Decimal.isCents_roundCents amount) wholeCeiling nonneg above]
  exact Decimal.half_cent_le_sum (Decimal.scale_roundCents_le amount) added half nonneg room

/-- After a bid that is answered, the user of the answer leads exactly if the answer is above the
bid, or if the user led before with as much as the bid. -/
theorem leader_counter_iff (kept : house.Kept store) {counter : NewBid}
    (taken : BidTaken house store caller id round amount kind item (some counter)) :
    let before := store.standing item round
    let bid := byHand caller id round amount kind
    ((store.append [bid, counter]).2.standing item round).leader? = some counter.user ↔
      amount.roundCents < counter.amount ∨
        before.Withstands bid ∧ before.leader? = some counter.user := by
  intro before bid
  have lead_eq : ((store.append [bid, counter]).2.standing item round).lead =
      (receipt store bid (some counter)).leadOver before := lead_bid kept taken
  rw [Standing.leader?, lead_eq, Receipt.leadOver]
  by_cases above : amount.roundCents < counter.amount
  · have names : (receipt store bid (some counter)).bid.amount <
        (receipt store bid (some counter)).top.amount := above
    rw [if_pos names]
    exact ⟨fun _ => .inl above, fun _ => rfl⟩
  · have equals : ¬ (receipt store bid (some counter)).bid.amount <
        (receipt store bid (some counter)).top.amount := above
    rw [if_neg equals]
    by_cases withstood : before.Withstands bid
    · rw [if_pos (show before.Withstands (receipt store bid (some counter)).bid.toNewBid from
        withstood)]
      exact ⟨fun leads => .inr ⟨withstood, leads⟩, fun h => (h.resolve_left above).2⟩
    · rw [if_neg (show ¬ before.Withstands (receipt store bid (some counter)).bid.toNewBid from
        withstood)]
      constructor
      · intro own
        exact absurd (Option.some.inj own).symm (counter_user_ne taken)
      · rintro (higher | ⟨withstands, -⟩)
        · exact absurd higher above
        · exact absurd withstands withstood

/-- After every run, a bid by hand is answered by the active rival with the highest ceiling, within
that ceiling, which stands as before, and not below the bid.  The answer is above the bid exactly if
a step more than the bid is half a cent more, and then its user leads the round from then on; else
the user leads only with an older bid of as much.  Half a cent more it is, if the step is half a
cent or more and there is room for a tenth of a cent. -/
theorem counter_outbids (house : House) (events : List Event) {result : Receipt} {counter : Bid}
    {after : Floor} (placed : house.placeBid caller id round amount kind
      { store := house.run events } = (.ok result, after))
    (answered : result.counter = some counter) :
    ∃ item rival, (house.run events).item? id = some item ∧
      rival.StrongestAgainst caller.user ((house.run events).activeProxies id round) ∧
      after.store.proxies = (house.run events).proxies ∧
      after.store.activeProxy? id round counter.user = some rival ∧
      counter.amount ≤ rival.ceiling ∧ result.bid.amount ≤ counter.amount ∧
      let before := (house.run events).standing item round
      let standing := after.store.standing item round
      (standing.leader? = some counter.user ↔ result.bid.amount < counter.amount ∨
        before.Withstands result.bid.toNewBid ∧ before.leader? = some counter.user) ∧
      (∃ sum, result.bid.amount.add item.bidStep = .ok sum ∧
        (result.bid.amount < counter.amount ↔ result.bid.amount.value + 1 / 200 ≤ sum.value)) ∧
      (1 / 200 ≤ item.bidStep.value → result.bid.amount.value + item.bidStep.value < 10 ^ 25 →
        result.bid.amount < counter.amount ∧ standing.leader? = some counter.user) := by
  have kept := kept_run house events
  obtain ⟨item, counter?, taken, rfl, store_eq, -⟩ := taken_of_placeBid placed
  obtain ⟨counter, rfl, rfl⟩ := Option.map_eq_some_iff.1 answered
  obtain ⟨rival, strongest, user_eq, above, sum, added, amount_eq⟩ := counter_cases taken
  have wholeBid := Decimal.isCents_roundCents amount
  have wholeCeiling :=
    (kept.proxies.ceilings rival (Store.mem_activeProxies.1 strongest.mem).1).1
  obtain ⟨-, -, nonneg, -⟩ := Validation.bidViolations_eq_nil_iff.1 taken.valid
  rw [Decimal.le_iff_value_le, Decimal.value_zero] at nonneg
  have proxies_eq : after.store.proxies = (house.run events).proxies := by
    rw [store_eq, Store.append_eq]
  have leader_iff := leader_counter_iff kept taken
  have above_iff := @lt_counter_iff _ sum _ wholeBid wholeCeiling nonneg above
  rw [← amount_eq] at above_iff
  refine ⟨item, rival, taken.listed, strongest, proxies_eq, ?_, ?_, le_counter kept taken, ?_,
    ⟨sum, added, above_iff⟩, ?_⟩
  · have own := kept.proxies.activeProxy?_eq_some_iff.2 ⟨strongest.mem, user_eq.symm⟩
    unfold Store.activeProxy? Store.activeProxies at own ⊢
    rw [proxies_eq]
    exact own
  · show counter.amount ≤ rival.ceiling
    rw [amount_eq]
    exact Settlement.capped_sum_le wholeCeiling
  · rw [store_eq]
    exact leader_iff
  · intro half room
    have higher := lt_counter_of_half kept taken half room
    refine ⟨higher, ?_⟩
    rw [store_eq]
    exact leader_iff.2 (.inl higher)

theorem counter_outbids_vase :
    let events : List Event :=
      [.register .vase, .call ⟨2, .hour 1⟩ (.setProxy 1 0 (.whole 20))]
    let bid : Bid := { byHand ⟨3, .hour 2⟩ 1 0 (.whole 12) .standard with id := 1 }
    let counter : Bid := { Settlement.autoBid 1 0 2 (.whole 13) (.hour 2) with id := 2 }
    ∃ after, placeBid {} ⟨3, .hour 2⟩ 1 0 (.whole 12) .standard { store := run {} events } =
        (.ok ⟨bid, some counter⟩, after) ∧
      bid.amount < counter.amount ∧ (after.store.standing .vase 0).leader? = some 2 := by
  intro events bid counter
  let placed := placeBid {} ⟨3, .hour 2⟩ 1 0 (.whole 12) .standard { store := run {} events }
  have answer_eq : placed.1 = .ok ⟨bid, some counter⟩ := by decide +kernel
  have placed_eq : placed = (.ok ⟨bid, some counter⟩, placed.2) := Prod.ext answer_eq rfl
  obtain ⟨item, rival, listed, -, -, -, -, -, -, -, enough⟩ :=
    counter_outbids {} events placed_eq rfl
  have vase_eq : (run {} events).item? 1 = some .vase := by decide +kernel
  obtain rfl : item = .vase := Option.some.inj (listed.symm.trans vase_eq)
  have step_eq : Item.vase.bidStep.value = 1 := by
    show ((1 : ℤ) / (tenTo 0 : ℕ) : ℚ) = 1
    norm_num [tenTo]
  have bid_eq : bid.amount.value = 12 := by
    show ((12 : ℤ) / (tenTo 0 : ℕ) : ℚ) = 12
    norm_num [tenTo]
  obtain ⟨above, leads⟩ := enough (by rw [step_eq]; norm_num)
    (by rw [bid_eq, step_eq]; norm_num)
  exact ⟨placed.2, placed_eq, above, leads⟩

/-- A step of half a unit is lost in a large sum, so the answer only equals the bid, which leads. -/
theorem large_counter_trails :
    let item : Item := { Item.vase with bidStep := .ofParts 5 1 }
    let store := run {} [.register item,
      .call ⟨2, .hour 1⟩ (.setProxy 1 0 (.whole 70000000000000000000000000000))]
    let placed := placeBid {} ⟨3, .hour 2⟩ 1 0 (.whole 60000000000000000000000000000) .standard
      { store }
    placed.1.map (fun result => result.counter.map (·.amount)) =
        .ok (some (.whole 60000000000000000000000000000)) ∧
      (placed.2.store.standing item 0).leader? = some 3 := by
  intro item store placed
  have bids_eq : placed.2.store.bidsFor item.id 0 =
      [{ byHand ⟨3, .hour 2⟩ 1 0 (.whole 60000000000000000000000000000) .standard with id := 1 },
        { Settlement.autoBid 1 0 2 (.whole 60000000000000000000000000000) (.hour 2) with
          id := 2 }] := by
    decide +kernel
  refine ⟨?_, ?_⟩
  · decide +kernel
  · unfold Standing.leader? Store.standing
    rw [bids_eq, Ranking.lead_pair _ (by decide) rfl rfl]
    decide +kernel

end House

end AuctionHouse
