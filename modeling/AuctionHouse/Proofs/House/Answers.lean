import AuctionHouse.Proofs.House.Run
import AuctionHouse.Proofs.Settlement

/-!
# How the house answers

A bid by hand is answered by the strongest rival if its ceiling is above the bid
(`answerTo_eq_some`, `answerTo_eq_none`).  A ceiling is settled against the strongest rival above
the price, opens against another leader, or is not answered at all (`ceilingBids_cases`).
-/

namespace AuctionHouse.House

section AnswerTo

variable {house : House} {store : Store} {item : Item} {bid counter : NewBid}

theorem answerTo_eq_some (answered : house.answerTo store item bid = .ok (some counter)) :
    ∃ rival : Proxy,
      rival.StrongestAgainst bid.user (store.activeProxies bid.item bid.round) ∧
      ∃ amount, Settlement.counterAmount bid.amount rival.ceiling item.bidStep = .ok (some amount) ∧
        counter = Settlement.autoBid bid.item bid.round rival.user amount bid.createdAt := by
  unfold answerTo counterBid at answered
  split at answered
  · split at answered
    · cases answered
    · next rival found =>
      obtain ⟨amount?, computed, mapped⟩ := bind_eq_ok_iff.1 answered
      cases amount? with
      | none => cases mapped
      | some amount =>
        cases mapped
        exact ⟨rival, strongestRival?_eq_some found, amount, computed, rfl⟩
  · cases answered

/-- The answer to a bid is an automatic bid in its round, at its time. -/
theorem answer_eq_autoBid (answered : house.answerTo store item bid = .ok (some counter)) :
    ∃ user amount,
      counter = Settlement.autoBid bid.item bid.round user amount bid.createdAt := by
  obtain ⟨rival, -, amount, -, eq⟩ := answerTo_eq_some answered
  exact ⟨rival.user, amount, eq⟩

/-- A bid that is not answered is at or above all ceilings of others. -/
theorem answerTo_eq_none (enabled : house.config.autobidEnabled = true)
    (answered : house.answerTo store item bid = .ok none) :
    ∀ proxy ∈ store.activeProxies bid.item bid.round, proxy.user ≠ bid.user →
      proxy.ceiling ≤ bid.amount := by
  intro proxy mem other
  have active := (Store.mem_activeProxies.1 mem).2.1
  unfold answerTo counterBid at answered
  rw [if_pos enabled] at answered
  split at answered
  · next no_rival => exact absurd (strongestRival?_eq_none_iff.1 no_rival proxy mem active) other
  · next rival found =>
    obtain ⟨amount?, computed, mapped⟩ := bind_eq_ok_iff.1 answered
    cases amount? with
    | none =>
      have beaten := Settlement.counterAmount_eq_none_iff.1 computed
      exact le_trans ((strongestRival?_eq_some found).above proxy mem active other) beaten
    | some amount => cases mapped

end AnswerTo

section CeilingBids

variable {ordering : ProxyOrdering} {item : Item} {round : Round} {caller : Caller}
  {ceiling : Decimal} {standing : Standing} {proxies : List Proxy}

/-- Whether no other user has an active ceiling above a price. -/
def Unopposed (user : UserId) (price : Decimal) (proxies : List Proxy) : Prop :=
  ∀ proxy ∈ proxies, proxy.active = true → proxy.user ≠ user → proxy.ceiling ≤ price

/-- The three ways in which a ceiling is answered. -/
theorem ceilingBids_cases (ordering : ProxyOrdering) (item : Item) (round : Round)
    (caller : Caller) (ceiling : Decimal) (standing : Standing) (proxies : List Proxy) :
    (∃ rival : Proxy, rival.StrongestAgainst caller.user proxies ∧
      standing.minPrice < rival.ceiling ∧
      ceilingBids ordering item round caller ceiling standing proxies =
        (Settlement.reconcile ceiling rival.ceiling item.bidStep >>= fun settlement =>
          .ok ((settlement.flooredAt standing.minPrice).bids item.id round caller.user rival.user
            caller.now))) ∨
    (Unopposed caller.user standing.minPrice proxies ∧
      (∀ leader, standing.leader? = some leader → leader = caller.user) ∧
      ceilingBids ordering item round caller ceiling standing proxies = .ok []) ∨
    (Unopposed caller.user standing.minPrice proxies ∧
      (∃ leader, standing.leader? = some leader ∧ leader ≠ caller.user) ∧
      ceilingBids ordering item round caller ceiling standing proxies =
        (Settlement.openingAmount standing.minPrice ceiling item.bidStep >>= fun amount =>
          .ok [Settlement.autoBid item.id round caller.user amount caller.now])) := by
  unfold ceilingBids
  simp only
  cases found : strongestRival? (proxies.filter fun proxy => standing.minPrice < proxy.ceiling)
      caller.user ordering with
  | some rival =>
    obtain ⟨mem, active, other, above⟩ := strongestRival?_eq_some found
    rw [List.mem_filter, decide_eq_true_eq] at mem
    refine .inl ⟨rival, ⟨mem.1, active, other, ?_⟩, mem.2, rfl⟩
    intro proxy proxy_mem proxy_active proxy_other
    by_cases able : standing.minPrice < proxy.ceiling
    · apply above proxy _ proxy_active proxy_other
      rw [List.mem_filter, decide_eq_true_eq]
      exact ⟨proxy_mem, able⟩
    · exact le_trans (Decimal.not_lt.1 able) (Decimal.le_of_lt mem.2)
  | none =>
    have unopposed : Unopposed caller.user standing.minPrice proxies := by
      intro proxy mem active other
      by_contra able
      refine other (strongestRival?_eq_none_iff.1 found proxy ?_ active)
      rw [List.mem_filter, decide_eq_true_eq]
      exact ⟨mem, Decimal.not_le.1 able⟩
    cases leading : standing.leader? with
    | none =>
      refine .inr (.inl ⟨unopposed, ?_, rfl⟩)
      intro leader impossible
      cases impossible
    | some leader =>
      by_cases own : leader = caller.user
      · refine .inr (.inl ⟨unopposed, ?_, ?_⟩)
        · intro other same
          cases same
          exact own
        · simp only [if_pos own]
          rfl
      · refine .inr (.inr ⟨unopposed, ⟨leader, rfl, own⟩, ?_⟩)
        simp only [if_neg own]
        rfl

/-- What follows from a ceiling are automatic bids in its round, at its time. -/
theorem eq_autoBid_of_mem_ceilingBids {bids : List NewBid} {bid : NewBid}
    (answered : ceilingBids ordering item round caller ceiling standing proxies = .ok bids)
    (mem : bid ∈ bids) :
    ∃ user amount, bid = Settlement.autoBid item.id round user amount caller.now := by
  rcases ceilingBids_cases ordering item round caller ceiling standing proxies with
    ⟨rival, -, -, eq⟩ | ⟨-, -, eq⟩ | ⟨-, -, eq⟩
  · obtain ⟨settlement, -, floored⟩ := bind_eq_ok_iff.1 (eq.symm.trans answered)
    cases floored
    obtain ⟨side, rfl⟩ := Settlement.mem_bids.1 mem
    exact ⟨_, _, rfl⟩
  · rw [eq] at answered
    cases answered
    cases mem
  · obtain ⟨opening, -, opened⟩ := bind_eq_ok_iff.1 (eq.symm.trans answered)
    cases opened
    rw [List.mem_singleton.1 mem]
    exact ⟨_, _, rfl⟩

end CeilingBids

section Here

variable {house : House} {store : Store} {caller : Caller} {id : ItemId} {round : Round}
  {item : Item}

/-- All that is written with a bid by hand is in its round. -/
theorem here_of_bidTaken {amount : Decimal} {kind : BidKind} {counter : Option NewBid}
    (taken : BidTaken house store caller id round amount kind item counter) :
    ∀ bid ∈ byHand caller id round amount kind :: counter.toList,
      bid.item = id ∧ bid.round = round := by
  intro bid mem
  rcases List.mem_cons.1 mem with rfl | answer
  · exact ⟨rfl, rfl⟩
  · have answered := taken.answered
    rw [Option.mem_toList.1 answer] at answered
    obtain ⟨user, counter_amount, rfl⟩ := answer_eq_autoBid answered
    exact ⟨rfl, rfl⟩

/-- All that follows from a ceiling is in its round. -/
theorem here_of_ceilingAnswer {ceiling : Decimal} {bids : List NewBid}
    (answered : house.ceilingAnswer store caller id round ceiling item = .ok bids) :
    ∀ bid ∈ bids, bid.item = item.id ∧ bid.round = round := by
  intro bid mem
  obtain ⟨user, amount, rfl⟩ := eq_autoBid_of_mem_ceilingBids answered mem
  exact ⟨rfl, rfl⟩

end Here

end AuctionHouse.House
