import AuctionHouse.House.Query
import AuctionHouse.Proofs.House.Rounds
import AuctionHouse.Proofs.House.Settling
import Mathlib.Data.List.Induction

/-!
# No ceiling is idle

In a round without a purchase, the only active ceiling above the price is that of the leader
(`Balanced`).  This is why it is enough to answer with one rival: all others are at or below the
price.  Bids (`Balanced.bid`) and ceilings (`Balanced.ceiling_taken`) keep it, so every event does
(`Balanced.step`), and every run in whole cents and with amounts below the roof.
-/

namespace AuctionHouse

/-- Whether the amounts of an event are below the roof.  An item that is put up has its step in
whole cents, too. -/
def Event.Moderate : Event → Prop
  | .call _ (.placeBid _ _ amount _) => amount.value < House.roof
  | .call _ (.setProxy _ _ ceiling) => ceiling.value < House.roof
  | .register item => item.bidStep.IsCents ∧ item.bidStep.value < House.roof ∧
      item.startingPrice.value < House.roof
  | _ => True

/-- Whether the amounts that bids are reckoned from are below the roof in an event. -/
def Event.BelowRoof : Event → Prop
  | .call _ (.placeBid _ _ amount _) => amount.value < House.roof
  | .call _ (.setProxy _ _ ceiling) => ceiling.value < House.roof
  | .register item => item.bidStep.value < House.roof ∧ item.startingPrice.value < House.roof
  | _ => True

theorem Event.Moderate.belowRoof {event : Event} (moderate : event.Moderate) :
    event.BelowRoof := by
  cases event with
  | call caller call => cases call <;> exact moderate
  | register => exact moderate.2
  | relist | setWorkflow => trivial

namespace House

/-- Whether no purchase is written in a round. -/
def Unsold (store : Store) (id : ItemId) (round : Round) : Prop :=
  ∀ bid ∈ store.bidsFor id round, bid.offer ≠ .purchased

/-- Whether no ceiling of an orderly round is idle: before the first bid there is one active ceiling
at most, above the price, and from then on those of others than the leader are at or below it. -/
structure Balanced (store : Store) (item : Item) (round : Round) : Prop
    extends Orderly store item round where
  fresh : (store.standing item round).lead = none →
    (∀ proxy ∈ store.activeProxies item.id round,
      (store.standing item round).minPrice < proxy.ceiling) ∧
    ∀ p ∈ store.activeProxies item.id round, ∀ q ∈ store.activeProxies item.id round, p = q
  leads : ∀ lead, (store.standing item round).lead = some lead →
    ∀ proxy ∈ store.activeProxies item.id round,
      proxy.user = lead.user ∨ proxy.ceiling ≤ (store.standing item round).minPrice

namespace Balanced

variable {house : House} {store next : Store} {item later : Item} {round : Round}

/-- At most one active ceiling is above the price. -/
theorem single (balanced : Balanced store item round) (kept : store.ProxiesKept) {p q : Proxy}
    (p_mem : p ∈ store.activeProxies item.id round) (q_mem : q ∈ store.activeProxies item.id round)
    (p_able : (store.standing item round).minPrice < p.ceiling)
    (q_able : (store.standing item round).minPrice < q.ceiling) : p = q := by
  cases leading : (store.standing item round).lead with
  | none => exact (balanced.fresh leading).2 p p_mem q q_mem
  | some lead =>
    have own {proxy : Proxy} (mem : proxy ∈ store.activeProxies item.id round)
        (able : (store.standing item round).minPrice < proxy.ceiling) :
        proxy.user = lead.user := by
      rcases balanced.leads lead leading proxy mem with own | beaten
      · exact own
      · exact absurd able (Decimal.not_lt.2 beaten)
    exact kept.single item.id round p p_mem q q_mem
      ((own p_mem p_able).trans (own q_mem q_able).symm)

/-- Beside an active ceiling above the price, the others are at or below it. -/
theorem le_of_ne (balanced : Balanced store item round) (kept : store.ProxiesKept) {p q : Proxy}
    (p_mem : p ∈ store.activeProxies item.id round) (q_mem : q ∈ store.activeProxies item.id round)
    (p_able : (store.standing item round).minPrice < p.ceiling) (different : q ≠ p) :
    q.ceiling ≤ (store.standing item round).minPrice := by
  rw [← Decimal.not_lt]
  intro q_able
  exact different (balanced.single kept q_mem p_mem q_able p_able)

/-- A round stays balanced while its bids are the same and no proxy comes to it. -/
theorem of_eq (balanced : Balanced store item round) (same : item.SameTerms later)
    (bids_eq : next.bidsFor item.id round = store.bidsFor item.id round)
    (fewer : ∀ proxy ∈ next.activeProxies item.id round,
      proxy ∈ store.activeProxies item.id round) : Balanced next later round := by
  have standing_eq : next.standing later round = store.standing item round := by
    rw [standing_eq_of_sameTerms same]
    unfold Store.standing
    rw [bids_eq]
  constructor
  · constructor
    · rw [same.bidStep_eq]
      exact balanced.whole
    · rw [same.bidStep_eq]
      exact balanced.step_le
    · rw [standing_eq]
      exact balanced.price_le
    · rw [same.id_eq]
      intro proxy mem
      exact balanced.ceilings_le proxy (fewer proxy mem)
    · rw [standing_eq, same.startingPrice_eq]
      exact balanced.reached
  · rw [standing_eq, same.id_eq]
    intro no_lead
    obtain ⟨able, alone⟩ := balanced.fresh no_lead
    refine ⟨fun proxy mem => able proxy (fewer proxy mem), ?_⟩
    intro p p_mem q q_mem
    exact alone p (fewer p p_mem) q (fewer q q_mem)
  · rw [standing_eq, same.id_eq]
    intro lead leading proxy mem
    exact balanced.leads lead leading proxy (fewer proxy mem)

/-- A round is balanced by a lead if all ceilings of others are beaten. -/
theorem of_lead (orderly : Orderly store item round) {price : Decimal} {lead : Bid}
    (standing_eq : next.standing item round = ⟨price, some lead⟩)
    (reached : item.startingPrice ≤ lead.amount) (price_le : price.value ≤ roof)
    (ceilings_le : ∀ proxy ∈ next.activeProxies item.id round, proxy.ceiling.value ≤ roof)
    (beaten : ∀ proxy ∈ next.activeProxies item.id round,
      proxy.user = lead.user ∨ proxy.ceiling ≤ price) : Balanced next item round := by
  constructor
  · refine ⟨orderly.whole, orderly.step_le, ?_, ceilings_le, ?_⟩
    · rw [standing_eq]
      exact price_le
    · rw [standing_eq]
      intro lead' leading
      cases leading
      exact reached
  · rw [standing_eq]
    intro impossible
    cases impossible
  · rw [standing_eq]
    intro lead' leading
    cases leading
    exact beaten

end Balanced

section Bid

variable {house : House} {store : Store} {item : Item} {round : Round} {caller : Caller}
  {amount : Decimal} {kind : BidKind}

/-- A bid by hand that is not answered brings the price to its amount.  The lead may stay with an
equal bid, if there was one. -/
theorem standing_append_byHand
    (price_le : (store.standing item round).minPrice ≤ amount.roundCents) :
    ∃ price lead, (store.append [byHand caller item.id round amount kind]).2.standing item round =
        ⟨price, some lead⟩ ∧
      price.value = amount.roundCents.value ∧ item.startingPrice ≤ lead.amount ∧
      ((store.standing item round).lead = none → lead.user = caller.user) := by
  let bid := byHand caller item.id round amount kind
  let written : Bid := { bid with id := store.nextBidId }
  have here : ∀ other ∈ [bid], other.item = item.id ∧ other.round = round := by
    intro other mem
    rw [List.mem_singleton.1 mem]
    exact ⟨rfl, rfl⟩
  have bids_eq : (store.append [bid]).2.bidsFor item.id round =
      store.bidsFor item.id round ++ [written] := by
    rw [Store.bidsFor_append_of_forall store here]
    rfl
  obtain ⟨start_le, bids_le⟩ := Ranking.minPrice_le_iff.1 price_le
  have written_mem : written ∈ store.bidsFor item.id round ++ [written] :=
    List.mem_append_right _ List.mem_cons_self
  have written_counts : written.counts = true := rfl
  unfold Store.standing
  rw [bids_eq]
  cases found : Ranking.winner? (store.bidsFor item.id round ++ [written]) with
  | none =>
    rw [Ranking.winner?_eq_none_iff.1 found written written_mem] at written_counts
    cases written_counts
  | some lead =>
    obtain ⟨lead_mem, lead_counts, precedes⟩ := Ranking.winner?_spec found
    have amount_le := (precedes written written_mem written_counts).amount_le
    have le_amount : lead.amount ≤ amount.roundCents := by
      rcases List.mem_append.1 lead_mem with old | new
      · exact bids_le lead old lead_counts
      · rw [List.mem_singleton.1 new]
        exact Decimal.le_refl _
    refine ⟨max item.startingPrice lead.amount, lead, ?_, ?_, ?_, ?_⟩
    · rw [← Ranking.minPrice_of_some found, ← found]
      rfl
    · have lead_value := le_antisymm (Decimal.le_iff_value_le.1 le_amount)
        (Decimal.le_iff_value_le.1 amount_le)
      rw [Decimal.value_max, lead_value]
      exact max_eq_right (Decimal.le_iff_value_le.1 start_le)
    · exact le_trans start_le amount_le
    · intro no_lead
      have none_counts := Ranking.winner?_eq_none_iff.1 no_lead
      rcases List.mem_append.1 lead_mem with old | new
      · rw [none_counts lead old] at lead_counts
        cases lead_counts
      · rw [List.mem_singleton.1 new]
        rfl

/-- A bid by hand that is not answered leaves the round balanced. -/
theorem Balanced.bid_unanswered (kept : house.Kept store) (balanced : Balanced store item round)
    (amount_le : amount.roundCents.value ≤ roof)
    (taken : BidTaken house store caller item.id round amount kind item none) :
    Balanced (store.append [byHand caller item.id round amount kind]).2 item round := by
  obtain ⟨-, -, -, valid, answered⟩ := taken
  obtain ⟨not_leading, -, -, price_le, -, -⟩ := Validation.bidViolations_eq_nil_iff.1 valid
  obtain ⟨price, lead, standing_eq, price_value, reached, first⟩ :=
    @standing_append_byHand store item round caller amount kind price_le
  have others : ∀ proxy ∈ store.activeProxies item.id round, proxy.user ≠ caller.user →
      proxy.ceiling ≤ amount.roundCents := by
    cases enabled : house.config.autobidEnabled with
    | true => exact answerTo_eq_none enabled answered
    | false =>
      intro proxy mem
      have value := (Store.mem_activeProxies.1 mem).1
      rw [kept.disabled enabled] at value
      cases value
  apply Balanced.of_lead balanced.toOrderly standing_eq reached (price_value ▸ amount_le)
  · rw [Store.activeProxies_append]
    exact balanced.ceilings_le
  · rw [Store.activeProxies_append]
    intro proxy mem
    rw [Decimal.le_iff_value_le, price_value, ← Decimal.le_iff_value_le]
    by_cases own : proxy.user = caller.user
    · cases leading : (store.standing item round).lead with
      | none => exact .inl (own.trans (first leading).symm)
      | some previous =>
        -- The caller was not leading, so their own ceiling was at or below the price.
        rcases balanced.leads previous leading proxy mem with led | beaten
        · refine absurd ?_ not_leading
          rw [Standing.leader?, leading, ← own, led]
          rfl
        · exact .inr (le_trans beaten price_le)
    · exact .inr (others proxy mem own)

/-- The answer to a bid by hand leaves the round balanced. -/
theorem Balanced.bid_answered (kept : house.Kept store) (balanced : Balanced store item round)
    {counter : NewBid}
    (taken : BidTaken house store caller item.id round amount kind item (some counter)) :
    Balanced (store.append [byHand caller item.id round amount kind, counter]).2 item round := by
  obtain ⟨rival, rival_mem, -, above, lead, lead_user, amount_lt, lead_value, standing_eq⟩ :=
    counter_settles kept balanced.toOrderly taken
  obtain ⟨-, -, -, price_le, -, -⟩ := Validation.bidViolations_eq_nil_iff.1 taken.valid
  have start_le : item.startingPrice ≤ amount.roundCents :=
    le_trans (Ranking.startingPrice_le_minPrice _ _) price_le
  apply Balanced.of_lead balanced.toOrderly standing_eq
  · exact le_trans start_le (Decimal.le_of_lt amount_lt)
  · rw [lead_value]
    exact (min_le_right _ _).trans (balanced.ceilings_le rival rival_mem)
  · rw [Store.activeProxies_append]
    exact balanced.ceilings_le
  · rw [Store.activeProxies_append]
    intro proxy mem
    by_cases same : proxy = rival
    · exact .inl (by rw [same, lead_user])
    · have beaten := balanced.le_of_ne kept.proxies rival_mem mem (lt_of_le_of_lt price_le above)
        same
      exact .inr (le_trans beaten (le_trans price_le (Decimal.le_of_lt amount_lt)))

end Bid

section SetProxy

variable {house : House} {store : Store} {item : Item} {round : Round} {caller : Caller}
  {ceiling : Decimal}

/-- The ceilings of an orderly round are up to the roof with another one that is. -/
theorem Orderly.ceilings_le_ceilingPut (orderly : Orderly store item round)
    (kept : store.ProxiesKept) (ceiling_le : ceiling.roundCents.value ≤ roof) :
    ∀ proxy ∈ (ceilingPut store caller item.id round ceiling).2.activeProxies item.id round,
      proxy.ceiling.value ≤ roof := by
  intro proxy mem
  rcases cases_of_mem_ceilingPut kept mem with ⟨-, eq, -⟩ | ⟨old, -⟩
  · rw [eq]
    exact ceiling_le
  · exact orderly.ceilings_le proxy old

/-- A ceiling that is settled against a rival one leaves the round balanced. -/
theorem Balanced.rivalry (kept : house.Kept store) (balanced : Balanced store item round)
    (ceiling_le : ceiling.roundCents.value ≤ roof)
    (taken : CeilingTaken house store caller item.id round ceiling item) {rival : Proxy}
    (rival_mem : rival ∈ store.activeProxies item.id round)
    (able : (store.standing item round).minPrice < rival.ceiling) :
    ∃ bids,
      (Settlement.reconcile ceiling.roundCents rival.ceiling item.bidStep >>= fun settlement =>
        .ok ((settlement.flooredAt (store.standing item round).minPrice).bids item.id round
          caller.user rival.user caller.now)) = .ok bids ∧
      Balanced ((ceilingPut store caller item.id round ceiling).2.append bids).2 item round := by
  obtain ⟨bids, settled, lead, lead_user, price_lt, lead_value, standing_eq⟩ :=
    rivalry_settles kept balanced.toOrderly taken ceiling_le rival_mem able
  refine ⟨bids, settled, ?_⟩
  have step_pos := Item.bidStep_pos (kept.items item.id item taken.listed).2
  have lower_le : min ceiling.roundCents.value rival.ceiling.value ≤ lead.amount.value := by
    rw [lead_value]
    exact le_min (le_add_of_nonneg_right step_pos.le) min_le_max
  apply Balanced.of_lead balanced.toOrderly standing_eq
  · exact le_trans (Ranking.startingPrice_le_minPrice _ _) (Decimal.le_of_lt price_lt)
  · rw [lead_value]
    exact (min_le_right _ _).trans (max_le ceiling_le (balanced.ceilings_le rival rival_mem))
  · rw [Store.activeProxies_append]
    exact balanced.ceilings_le_ceilingPut kept.proxies ceiling_le
  · rw [Store.activeProxies_append]
    intro proxy mem
    rw [lead_user, Decimal.le_iff_value_le]
    -- The lower one of the two ceilings is beaten, and all others were before.
    rcases cases_of_mem_ceilingPut kept.proxies mem with ⟨own, eq, -⟩ | ⟨old, -⟩
    · split
      · next less =>
        rw [min_eq_left (Decimal.lt_iff_value_lt.1 less).le] at lower_le
        exact .inr (eq ▸ lower_le)
      · exact .inl own
    · by_cases same : proxy = rival
      · subst same
        split
        · exact .inl rfl
        · next not_less =>
          rw [min_eq_right (Decimal.le_iff_value_le.1 (Decimal.not_lt.1 not_less))] at lower_le
          exact .inr lower_le
      · have beaten := balanced.le_of_ne kept.proxies rival_mem old able same
        exact .inr (Decimal.le_iff_value_le.1 (le_trans beaten (Decimal.le_of_lt price_lt)))

/-- A ceiling that is the first of its round leaves it balanced. -/
theorem Balanced.first_ceiling (kept : house.Kept store) (balanced : Balanced store item round)
    (ceiling_le : ceiling.roundCents.value ≤ roof)
    (above : (store.standing item round).minPrice < ceiling.roundCents)
    (no_lead : (store.standing item round).lead = none)
    (unopposed : Unopposed caller.user (store.standing item round).minPrice
      ((ceilingPut store caller item.id round ceiling).2.activeProxies item.id round)) :
    Balanced (ceilingPut store caller item.id round ceiling).2 item round := by
  have standing_eq := standing_ceilingPut store caller item.id round ceiling item round
  -- A ceiling of another user would be above the price.
  have only {proxy : Proxy}
      (mem : proxy ∈
        (ceilingPut store caller item.id round ceiling).2.activeProxies item.id round) :
      proxy.ceiling = ceiling.roundCents ∧
        proxy = (ceilingPut store caller item.id round ceiling).1 := by
    rcases cases_of_mem_ceilingPut kept.proxies mem with ⟨-, same⟩ | ⟨old, other⟩
    · exact same
    · have beaten := unopposed proxy mem (Store.mem_activeProxies.1 mem).2.1 other
      exact absurd ((balanced.fresh no_lead).1 proxy old) (Decimal.not_lt.2 beaten)
  constructor
  · refine ⟨balanced.whole, balanced.step_le, ?_, ?_, ?_⟩
    · rw [standing_eq]
      exact balanced.price_le
    · exact balanced.ceilings_le_ceilingPut kept.proxies ceiling_le
    · rw [standing_eq]
      exact balanced.reached
  · rw [standing_eq]
    intro _
    refine ⟨?_, fun p p_mem q q_mem => (only p_mem).2.trans (only q_mem).2.symm⟩
    intro proxy mem
    rw [(only mem).1]
    exact above
  · rw [standing_eq, no_lead]
    intro lead impossible
    cases impossible

/-- A ceiling that is taken in a balanced round is settled, and leaves the round balanced. -/
theorem Balanced.ceiling_taken (kept : house.Kept store) (balanced : Balanced store item round)
    (ceiling_le : ceiling.roundCents.value ≤ roof)
    (taken : CeilingTaken house store caller item.id round ceiling item) :
    ∃ bids, house.ceilingAnswer store caller item.id round ceiling item = .ok bids ∧
      Balanced ((ceilingPut store caller item.id round ceiling).2.append bids).2 item round := by
  obtain ⟨-, -, -, -, above⟩ := Validation.ceilingViolations_eq_nil_iff.1 taken.valid
  have ceilings_le := @Orderly.ceilings_le_ceilingPut store item round caller ceiling
    balanced.toOrderly kept.proxies ceiling_le
  unfold ceilingAnswer
  rcases ceilingBids_cases house.config.proxyOrdering item round caller ceiling.roundCents
    (store.standing item round)
    ((ceilingPut store caller item.id round ceiling).2.activeProxies item.id round) with
    ⟨rival, strongest, able, eq⟩ | ⟨unopposed, alone, eq⟩ | ⟨unopposed, ⟨leader, leading, -⟩, eq⟩
  · rcases cases_of_mem_ceilingPut kept.proxies strongest.mem with ⟨own, -⟩ | ⟨rival_mem, -⟩
    · exact absurd own strongest.other
    · rw [eq]
      exact balanced.rivalry kept ceiling_le taken rival_mem able
  · refine ⟨[], eq, ?_⟩
    rw [Store.append_nil]
    cases leading : (store.standing item round).lead with
    | none => exact balanced.first_ceiling kept ceiling_le above leading unopposed
    | some lead =>
      have led : lead.user = caller.user := by
        apply alone
        rw [Standing.leader?, leading]
        rfl
      have standing_eq : (ceilingPut store caller item.id round ceiling).2.standing item round =
          ⟨(store.standing item round).minPrice, some lead⟩ := by
        rw [standing_ceilingPut, ← leading]
      apply Balanced.of_lead balanced.toOrderly standing_eq (balanced.reached lead leading)
        balanced.price_le ceilings_le
      rw [led]
      intro proxy mem
      by_cases own : proxy.user = caller.user
      · exact .inl own
      · exact .inr (unopposed proxy mem (Store.mem_activeProxies.1 mem).2.1 own)
  · obtain ⟨previous, previous_leads, -⟩ := Option.map_eq_some_iff.1 leading
    obtain ⟨bids, opened, lead, lead_user, price_lt, lead_value, standing_eq⟩ :=
      opening_settles kept balanced.toOrderly taken previous_leads
    refine ⟨bids, eq.trans opened, ?_⟩
    apply Balanced.of_lead balanced.toOrderly standing_eq
    · exact le_trans (Ranking.startingPrice_le_minPrice _ _) (Decimal.le_of_lt price_lt)
    · rw [lead_value]
      exact (min_le_right _ _).trans ceiling_le
    · rw [Store.activeProxies_append]
      exact ceilings_le
    · rw [Store.activeProxies_append, lead_user]
      intro proxy mem
      by_cases own : proxy.user = caller.user
      · exact .inl own
      · have beaten := unopposed proxy mem (Store.mem_activeProxies.1 mem).2.1 own
        exact .inr (le_trans beaten (Decimal.le_of_lt price_lt))

end SetProxy

section Step

variable {house : House} {store : Store} {item : Item} {round : Round}

/-- A call that names another item, or an item that is not in a round, leaves the round
balanced. -/
theorem Balanced.served_elsewhere (kept : house.Kept store) (balanced : Balanced store item round)
    (listed : store.item? item.id = some item) {caller : Caller} {call : Call}
    {answer : Except Stop Outcome} {after : Store}
    (served : Served house store caller call answer after)
    (elsewhere : ¬ (call.item = item.id ∧ item.round = round)) : Balanced after item round := by
  have same : Store.SameAt item.id round store after := by
    apply sameAt_served kept served
    intro item' named listed' current
    obtain rfl : item = item' := Option.some.inj (listed.symm.trans listed')
    exact elsewhere ⟨named, current⟩
  apply balanced.of_eq (.refl item) same.bidsFor_eq
  rw [same.activeProxies_eq]
  exact fun _ mem => mem

/-- A call leaves a round balanced if it does not end it with a purchase. -/
theorem Balanced.served (kept : house.Kept store) (balanced : Balanced store item round)
    (listed : store.item? item.id = some item) {caller : Caller} {call : Call}
    {answer : Except Stop Outcome} {after : Store}
    (below : (Event.call caller call).BelowRoof)
    (served : Served house store caller call answer after)
    (unsold : Unsold after item.id round) : Balanced after item round := by
  by_cases here : call.item = item.id ∧ item.round = round
  · obtain ⟨named, rfl⟩ := here
    cases served with
    | stopped => exact balanced
    | @bid id _ amount kind item' counter taken =>
      obtain rfl : id = item.id := named
      obtain rfl : item' = item := Option.some.inj (taken.listed.symm.trans listed)
      obtain rfl := taken.current
      have amount_lt : amount.value < roof := below
      cases counter with
      | none => exact balanced.bid_unanswered kept (value_roundCents_le_roof amount_lt.le) taken
      | some counter => exact balanced.bid_answered kept taken
    | @purchase id item' taken =>
      obtain rfl : id = item.id := named
      obtain rfl : item' = item := Option.some.inj (taken.listed.symm.trans listed)
      have bids_eq : (sold store (purchase caller item'.id item')).bidsFor item'.id item'.round =
        (store.append [purchase caller item'.id item']).2.bidsFor item'.id item'.round := rfl
      refine absurd rfl (unsold { purchase caller item'.id item' with id := store.nextBidId } ?_)
      rw [bids_eq, Store.bidsFor_append]
      apply List.mem_append_right
      rw [List.mem_filter, Bool.and_eq_true, decide_eq_true_eq, decide_eq_true_eq]
      exact ⟨List.mem_cons_self, rfl, rfl⟩
    | @ceiling id _ ceiling item' bids taken answered =>
      obtain rfl : id = item.id := named
      obtain rfl : item' = item := Option.some.inj (taken.listed.symm.trans listed)
      obtain rfl := taken.current
      have ceiling_lt : ceiling.value < roof := below
      obtain ⟨settled, eq, balanced'⟩ :=
        balanced.ceiling_taken kept (value_roundCents_le_roof ceiling_lt.le) taken
      rw [answered, Except.ok.injEq] at eq
      rw [eq]
      exact balanced'
    | @ceilingFault id _ ceiling item' fault taken answered =>
      obtain rfl : id = item.id := named
      obtain rfl : item' = item := Option.some.inj (taken.listed.symm.trans listed)
      obtain rfl := taken.current
      have ceiling_lt : ceiling.value < roof := below
      obtain ⟨settled, eq, -⟩ :=
        balanced.ceiling_taken kept (value_roundCents_le_roof ceiling_lt.le) taken
      rw [answered] at eq
      cases eq
    | noRemoval => exact balanced
    | removal _ _ found =>
      apply balanced.of_eq (.refl item) (Store.bidsFor_putProxy _ _)
      intro proxy mem
      exact ((mem_activeProxies_removal kept.proxies found).1 mem).1
  · exact balanced.served_elsewhere kept listed served here

/-- An event leaves a round balanced if it does not end it with a purchase. -/
theorem Balanced.step (kept : house.Kept store) (balanced : Balanced store item round)
    (listed : store.item? item.id = some item) {event : Event} (below : event.BelowRoof)
    (unsold : Unsold (house.step store event) item.id round) :
    Balanced (house.step store event) item round := by
  have changed := change house store event
  generalize house.step store event = after at changed unsold ⊢
  cases changed with
  | call served => exact balanced.served kept listed below served unsold
  | relist => exact balanced.of_eq (.refl item) rfl fun _ mem => mem
  | setWorkflow => exact balanced.of_eq (.refl item) rfl fun _ mem => mem
  | register => exact balanced.of_eq (.refl item) rfl fun _ mem => mem
  | nothing => exact balanced

/-- A round in which nothing has happened is balanced. -/
theorem balanced_of_empty (no_bids : store.bidsFor item.id round = [])
    (no_proxies : store.activeProxies item.id round = []) (whole : item.bidStep.IsCents)
    (step_le : item.bidStep.value ≤ roof) (start_le : item.startingPrice.value ≤ roof) :
    Balanced store item round := by
  have standing_eq : store.standing item round = ⟨item.startingPrice, none⟩ := by
    unfold Store.standing
    rw [no_bids, Ranking.standing_nil]
  constructor
  · refine ⟨whole, step_le, ?_, ?_, ?_⟩
    · rw [standing_eq]
      exact start_le
    · rw [no_proxies]
      intro proxy mem
      cases mem
    · rw [standing_eq]
      intro lead impossible
      cases impossible
  · rw [no_proxies]
    intro _
    refine ⟨?_, ?_⟩
    · intro proxy mem
      cases mem
    · intro p mem
      cases mem
  · rw [no_proxies]
    intro lead _ proxy mem
    cases mem

/-- Every round of an item that has just been put up is balanced. -/
theorem balanced_insertItem (kept : house.Kept store) (missing : store.item? item.id = none)
    (below : (Event.register item).BelowRoof) (whole : item.bidStep.IsCents) (round : Round) :
    Balanced (store.insertItem item) item round := by
  have unfiled := Store.not_filed_of_none missing round
  obtain ⟨step_lt, start_lt⟩ := below
  apply balanced_of_empty _ _ whole step_lt.le start_lt.le
  · exact kept.ledger.bidsFor_of_not_filed unfiled
  · exact kept.proxies.activeProxies_of_not_filed unfiled

/-- A round without a purchase had none before. -/
theorem unsold_of_step {id : ItemId} {event : Event}
    (unsold : Unsold (house.step store event) id round) : Unsold store id round := by
  obtain ⟨written, ledger_eq, -⟩ := ledger_step house store event
  intro bid mem
  apply unsold
  rw [bidsFor_eq_append ledger_eq]
  exact List.mem_append_left _ mem

/-- After every run below the roof, every round without a purchase is balanced if the step of its
item is in whole cents. -/
theorem balanced_of_whole (house : House) (events : List Event)
    (below : ∀ event ∈ events, event.BelowRoof) {id : ItemId} {item : Item}
    (listed : (house.run events).item? id = some item) (whole : item.bidStep.IsCents)
    (round : Round) (unsold : Unsold (house.run events) id round) :
    Balanced (house.run events) item round := by
  induction events using List.reverseRecOn generalizing item with
  | nil => cases listed
  | append_singleton events event ih =>
    rw [run_concat] at listed unsold ⊢
    have kept := kept_run house events
    have event_below := below event (List.mem_append_right _ List.mem_cons_self)
    cases found : (house.run events).item? id with
    | none =>
      obtain ⟨rfl, step_eq, rfl⟩ := item?_step_of_none found listed
      rw [step_eq]
      exact balanced_insertItem kept found event_below whole round
    | some before =>
      obtain ⟨later, later_listed, same⟩ := @item?_step house _ id before found event
      obtain rfl : later = item := Option.some.inj (later_listed.symm.trans listed)
      obtain rfl := (kept.items id before found).1
      rw [same.bidStep_eq] at whole
      have balanced := ih (fun earlier mem => below earlier (List.mem_append_left _ mem)) found
        whole (unsold_of_step unsold)
      exact (balanced.step kept found event_below unsold).of_eq same rfl fun _ mem => mem

/-- After every moderate run, every round without a purchase is balanced. -/
theorem balanced_run (house : House) (events : List Event)
    (moderate : ∀ event ∈ events, event.Moderate) {id : ItemId} {item : Item}
    (listed : (house.run events).item? id = some item) (round : Round)
    (unsold : Unsold (house.run events) id round) : Balanced (house.run events) item round := by
  obtain ⟨listing, mem, same⟩ := exists_register house events listed
  have whole : item.bidStep.IsCents := by
    rw [same.bidStep_eq]
    exact (moderate _ mem).1
  exact balanced_of_whole house events (fun event mem => (moderate event mem).belowRoof) listed
    whole round unsold

end Step

section ProxyStatus

variable {house : House} {store : Store} {id : ItemId} {item : Item} {round : Round} {proxy : Proxy}

/-- The status of an active proxy: it is outbid if the price has come to its ceiling and its user
does not lead. -/
theorem proxyStatus_of_active (kept : house.Kept store) (listed : store.item? id = some item)
    (mem : proxy ∈ store.activeProxies id round) :
    (proxyStatus id round proxy.user { store }).1 = .ok
      { proxy := some proxy
        minPrice := (store.standing item round).minPrice
        outbid := proxy.ceiling ≤ (store.standing item round).minPrice &&
          (store.standing item round).leader? ≠ some proxy.user } := by
  rw [proxyStatus_eq listed, kept.proxies.activeProxy?_eq_some_iff.2 ⟨mem, rfl⟩]
  rfl

/-- An active proxy of a balanced round is outbid exactly if another user leads. -/
theorem Balanced.outbid_iff (balanced : Balanced store item round)
    (mem : proxy ∈ store.activeProxies item.id round) :
    proxy.ceiling ≤ (store.standing item round).minPrice ∧
        (store.standing item round).leader? ≠ some proxy.user ↔
      ∃ leader, (store.standing item round).leader? = some leader ∧ leader ≠ proxy.user := by
  unfold Standing.leader?
  cases leading : (store.standing item round).lead with
  | none =>
    constructor
    · rintro ⟨beaten, -⟩
      exact absurd ((balanced.fresh leading).1 proxy mem) (Decimal.not_lt.2 beaten)
    · rintro ⟨leader, impossible, -⟩
      cases impossible
  | some lead =>
    constructor
    · rintro ⟨-, not_own⟩
      exact ⟨lead.user, rfl, fun own => not_own (congrArg some own)⟩
    · rintro ⟨leader, led, other⟩
      cases led
      rcases balanced.leads lead leading proxy mem with own | beaten
      · exact absurd own.symm other
      · exact ⟨beaten, fun own => other (Option.some.inj own)⟩

end ProxyStatus

/-- After every moderate run, in every round without a purchase: at most one active ceiling is above
the price, its user leads once there are bids, and a user with an active proxy is told to be outbid
exactly if another one leads. -/
theorem no_idle_proxy (house : House) (events : List Event)
    (moderate : ∀ event ∈ events, event.Moderate) {id : ItemId} {item : Item}
    (listed : (house.run events).item? id = some item) (round : Round)
    (unsold : Unsold (house.run events) id round) :
    let store := house.run events
    let standing := store.standing item round
    (∀ p ∈ store.activeProxies id round, ∀ q ∈ store.activeProxies id round,
      standing.minPrice < p.ceiling → standing.minPrice < q.ceiling → p = q) ∧
    (store.bidsFor id round ≠ [] → ∀ proxy ∈ store.activeProxies id round,
      standing.minPrice < proxy.ceiling → standing.leader? = some proxy.user) ∧
    ∀ proxy ∈ store.activeProxies id round,
      ∃ status, (proxyStatus id round proxy.user { store }).1 = .ok status ∧
        status.proxy = some proxy ∧
        (status.outbid = true ↔
          ∃ leader, standing.leader? = some leader ∧ leader ≠ proxy.user) := by
  intro store standing
  have kept := kept_run house events
  have balanced := balanced_run house events moderate listed round unsold
  obtain rfl := (kept.items id item listed).1
  refine ⟨?_, ?_, ?_⟩
  · intro p p_mem q q_mem p_able q_able
    exact balanced.single kept.proxies p_mem q_mem p_able q_able
  · intro has_bids proxy mem able
    cases leading : standing.lead with
    | none =>
      obtain ⟨bid, bid_mem⟩ := List.exists_mem_of_ne_nil _ has_bids
      have counts := kept.ledger.counts bid_mem
      rw [Ranking.winner?_eq_none_iff.1 leading bid bid_mem] at counts
      cases counts
    | some lead =>
      rw [Standing.leader?, leading]
      rcases balanced.leads lead leading proxy mem with own | beaten
      · exact congrArg some own.symm
      · exact absurd able (Decimal.not_lt.2 beaten)
  · intro proxy mem
    refine ⟨_, proxyStatus_of_active kept listed mem, rfl, ?_⟩
    rw [Bool.and_eq_true, decide_eq_true_eq, decide_eq_true_eq]
    exact balanced.outbid_iff mem

theorem no_idle_proxy_vase :
    let store := run {}
      [.register .vase, .call ⟨2, .hour 1⟩ (.setProxy 1 0 (.whole 20)),
        .call ⟨3, .hour 2⟩ (.placeBid 1 0 (.whole 12) .standard)]
    store.bidsFor 1 0 ≠ [] ∧ ∀ proxy ∈ store.activeProxies 1 0,
      (store.standing .vase 0).minPrice < proxy.ceiling →
        (store.standing .vase 0).leader? = some proxy.user := by
  intro store
  have moderate : ∀ event ∈ [Event.register .vase,
      .call ⟨2, .hour 1⟩ (.setProxy 1 0 (.whole 20)),
      .call ⟨3, .hour 2⟩ (.placeBid 1 0 (.whole 12) .standard)], event.Moderate := by
    have whole : Item.vase.bidStep.IsCents := Decimal.isCents_of_scale_le (by decide)
    have below : Item.vase.bidStep.value < roof ∧ Item.vase.startingPrice.value < roof ∧
        (Decimal.whole 20).value < roof ∧ (Decimal.whole 12).value < roof := by decide +kernel
    obtain ⟨step_lt, start_lt, ceiling_lt, amount_lt⟩ := below
    simp only [List.mem_cons, List.not_mem_nil, or_false]
    rintro event (rfl | rfl | rfl)
    · exact ⟨whole, step_lt, start_lt⟩
    · exact ceiling_lt
    · exact amount_lt
  have has_bids : store.bidsFor 1 0 ≠ [] := by decide +kernel
  obtain ⟨-, leads, -⟩ := no_idle_proxy {} _ moderate
    (show store.item? 1 = some .vase by decide +kernel) 0
    (show ∀ bid ∈ store.bidsFor 1 0, bid.offer ≠ .purchased by decide +kernel)
  exact ⟨has_bids, leads has_bids⟩

end House

end AuctionHouse
