import AuctionHouse.Proofs.House.History

/-!
# What automatic bids spend

An automatic bid is written for a user who has an active ceiling that covers it, and once the
ceiling is taken back there are no more until the user sets another.  Its amount is not below the
price that the round had when the call began, with one exception (`OpensBelow`): an opening bid is
not raised to the price as the bids of a settlement are, so a step of fractions of a cent above a
starting price of fractions of a cent can be rounded below it.
-/

namespace AuctionHouse.House

variable {house : House} {store : Store}

/-- The highest bid of a round is in whole cents. -/
theorem Kept.lead_isCents (kept : house.Kept store) {id : ItemId} {round : Round} {lead : Bid}
    (leads : Ranking.winner? (store.bidsFor id round) = some lead) : lead.amount.IsCents := by
  obtain ⟨mem, -, precedes⟩ := Ranking.winner?_spec leads
  obtain ⟨ledger_mem, item_eq, round_eq⟩ := (Store.mem_bidsFor _).1 mem
  rcases kept.ledger.amounts lead ledger_mem with whole | ⟨other, other_mem, same_item, same_round,
    more⟩
  · exact whole
  · have other_here := (Store.mem_bidsFor _).2
      ⟨other_mem, same_item.trans item_eq, same_round.trans round_eq⟩
    have ahead := precedes other other_here (kept.ledger.counts other_here)
    exact absurd ahead (Bid.not_precedes_of_amount_lt more)

/-- A price that a bid has brought about is in whole cents. -/
theorem Kept.minPrice_isCents (kept : house.Kept store) {item : Item} {round : Round} {lead : Bid}
    (leads : (store.standing item round).lead = some lead)
    (reached : item.startingPrice ≤ lead.amount) :
    (store.standing item round).minPrice.IsCents := by
  obtain ⟨cents, eq⟩ := kept.lead_isCents leads
  refine ⟨cents, ?_⟩
  unfold Store.standing
  rw [Ranking.minPrice_of_some leads, Decimal.value_max,
    max_eq_right (Decimal.le_iff_value_le.1 reached), eq]

/-- The terms under which a ceiling opens below the price: no other user has a ceiling above the
starting price, another user leads with less than that, and a step above it is rounded below it. -/
structure OpensBelow (store : Store) (caller : UserId) (item : Item) (round : Round) : Prop where
  unopposed : Unopposed caller item.startingPrice (store.activeProxies item.id round)
  behind : ∃ lead, (store.standing item round).lead = some lead ∧ lead.user ≠ caller ∧
    lead.amount < item.startingPrice
  rounded : ∃ sum, item.startingPrice.add item.bidStep = .ok sum ∧
    sum.roundCents < item.startingPrice

theorem minPrice_of_lead_lt {item : Item} {round : Round} {lead : Bid}
    (leads : (store.standing item round).lead = some lead)
    (behind : lead.amount < item.startingPrice) :
    (store.standing item round).minPrice = item.startingPrice := by
  unfold Store.standing
  rw [Ranking.minPrice_of_some leads, Decimal.max_of_le (Decimal.le_of_lt behind)]

theorem OpensBelow.minPrice_eq {caller : UserId} {item : Item} {round : Round}
    (opens : OpensBelow store caller item round) :
    (store.standing item round).minPrice = item.startingPrice := by
  obtain ⟨lead, leads, -, behind⟩ := opens.behind
  exact minPrice_of_lead_lt leads behind

/-- Whether a user has an active ceiling that covers an amount in a round. -/
def Covers (store : Store) (item : ItemId) (round : Round) (user : UserId) (amount : Decimal) :
    Prop :=
  ∃ proxy ∈ store.activeProxies item round, proxy.user = user ∧ amount ≤ proxy.ceiling

section PlaceBid

variable {caller : Caller} {id : ItemId} {round : Round} {amount : Decimal} {kind : BidKind}
  {item : Item} {counter : NewBid}

/-- The answer to a bid is covered and not below the price. -/
theorem counter_spending (kept : house.Kept store)
    (taken : BidTaken house store caller id round amount kind item (some counter)) :
    Covers store id round counter.user counter.amount ∧
      (store.standing item round).minPrice ≤ counter.amount := by
  obtain ⟨-, listed, -, valid, answered⟩ := taken
  obtain ⟨-, -, -, price_le, -, -⟩ := Validation.bidViolations_eq_nil_iff.1 valid
  have step_pos := Item.bidStep_pos (kept.items id item listed).2
  obtain ⟨rival, strongest, counter_amount, computed, rfl⟩ := answerTo_eq_some answered
  obtain ⟨above, sum, added, rfl⟩ := Settlement.counterAmount_eq_some_iff.1 computed
  have wholeRival :=
    (kept.proxies.ceilings rival (Store.mem_activeProxies.1 strongest.mem).1).1
  refine ⟨⟨rival, strongest.mem, rfl, Settlement.capped_sum_le wholeRival⟩, ?_⟩
  exact le_trans price_le (Settlement.le_capped_sum (Decimal.isCents_roundCents _) added
    step_pos.le (Decimal.le_of_lt above))

end PlaceBid

section SetProxy

variable {caller : Caller} {id : ItemId} {round : Round} {ceiling : Decimal} {item : Item}
  {bids : List NewBid} {bid : NewBid}

/-- The others' ceilings are the same before and after a ceiling is put. -/
theorem unopposed_ceilingPut (kept : store.ProxiesKept) (price : Decimal) :
    Unopposed caller.user price
        ((ceilingPut store caller id round ceiling).2.activeProxies id round) ↔
      Unopposed caller.user price (store.activeProxies id round) := by
  constructor
  · intro unopposed proxy mem active other
    exact unopposed proxy ((mem_ceilingPut_iff_of_ne kept other).2 mem) active other
  · intro unopposed proxy mem active other
    exact unopposed proxy ((mem_ceilingPut_iff_of_ne kept other).1 mem) active other

/-- The two bids of a settlement are covered and not below the price. -/
theorem settlement_spending (kept : house.Kept store)
    (taken : CeilingTaken house store caller id round ceiling item) {rival : Proxy}
    (strongest : rival.StrongestAgainst caller.user
      ((ceilingPut store caller id round ceiling).2.activeProxies id round))
    (able : (store.standing item round).minPrice < rival.ceiling) {settlement : Settlement}
    (settled : Settlement.reconcile ceiling.roundCents rival.ceiling item.bidStep =
      .ok settlement) (side : Side) :
    let amount := (settlement.flooredAt (store.standing item round).minPrice).amountOf side
    Covers (ceilingPut store caller id round ceiling).2 id round
        (side.user caller.user rival.user) amount ∧
      (store.standing item round).minPrice ≤ amount := by
  intro amount
  have kept_put := kept.ceilingPut taken
  obtain ⟨-, listed, current, valid⟩ := taken
  obtain ⟨-, -, -, -, above⟩ := Validation.ceilingViolations_eq_nil_iff.1 valid
  obtain ⟨saved_user, -, -, -, saved_ceiling⟩ := ceilingPut_saved store caller id round ceiling
  obtain ⟨wholeRival, rival_pos⟩ :=
    kept_put.proxies.ceilings rival (Store.mem_activeProxies.1 strongest.mem).1
  have step_pos := Item.bidStep_pos (kept.items id item listed).2
  obtain ⟨caller_le, rival_le⟩ := Settlement.amountOf_reconcile_le
    (Decimal.isCents_roundCents _) wholeRival rival_pos.le step_pos.le settled
  cases side with
  | caller =>
    obtain ⟨price_le, amount_le⟩ := Settlement.flooredAt_bounds caller_le above
    refine ⟨⟨_, saved_mem_ceilingPut kept.proxies, saved_user, ?_⟩, price_le⟩
    rw [saved_ceiling]
    exact amount_le
  | rival =>
    obtain ⟨price_le, amount_le⟩ := Settlement.flooredAt_bounds rival_le able
    exact ⟨⟨rival, strongest.mem, rfl, amount_le⟩, price_le⟩

/-- An opening bid is below the price exactly if the ceiling opens below. -/
theorem opening_lt_iff (kept : house.Kept store) {caller : UserId} {item : Item} {round : Round}
    {ceiling sum : Decimal} (sound : item.problems = [])
    (above : (store.standing item round).minPrice < ceiling) (whole : ceiling.IsCents)
    (unopposed : Unopposed caller (store.standing item round).minPrice
      (store.activeProxies item.id round)) {lead : Bid}
    (leads : (store.standing item round).lead = some lead) (other : lead.user ≠ caller)
    (added : (store.standing item round).minPrice.add item.bidStep = .ok sum) :
    (min sum ceiling).roundCents < (store.standing item round).minPrice ↔
      OpensBelow store caller item round := by
  constructor
  · intro below
    have behind : lead.amount < item.startingPrice := by
      by_contra reached
      rw [Decimal.not_lt] at reached
      have price_le := Settlement.le_capped_sum (kept.minPrice_isCents leads reached) added
        (Item.bidStep_pos sound).le (Decimal.le_of_lt above)
      exact Decimal.not_lt.2 price_le below
    have price_eq := minPrice_of_lead_lt leads behind
    rw [price_eq] at below above unopposed added
    refine ⟨unopposed, ⟨lead, leads, other, behind⟩, sum, added, ?_⟩
    rw [Decimal.min_def] at below
    by_cases capped : ceiling < sum
    · rw [if_pos capped] at below
      have ceiling_le := Decimal.le_roundCents whole (Decimal.le_refl ceiling)
      exact absurd below (Decimal.not_lt.2 (Decimal.le_of_lt (lt_of_lt_of_le above ceiling_le)))
    · rwa [if_neg capped] at below
  · intro opens
    obtain ⟨sum', added', rounded⟩ := opens.rounded
    rw [opens.minPrice_eq] at added ⊢
    rw [added, Except.ok.injEq] at added'
    subst added'
    exact lt_of_le_of_lt (Decimal.roundCents_le_roundCents (Decimal.min_le_left _ _)) rounded

/-- The bids that follow from a ceiling are covered, and below the price exactly if it opens
below. -/
theorem ceiling_spending (kept : house.Kept store)
    (taken : CeilingTaken house store caller id round ceiling item)
    (answered : house.ceilingAnswer store caller id round ceiling item = .ok bids)
    (mem : bid ∈ bids) :
    Covers (House.ceilingPut store caller id round ceiling).2 id round bid.user bid.amount ∧
      (bid.amount < (store.standing item round).minPrice ↔
        OpensBelow store caller.user item round) := by
  obtain ⟨own, sound⟩ := kept.items id item taken.listed
  obtain ⟨-, -, -, -, above⟩ := Validation.ceilingViolations_eq_nil_iff.1 taken.valid
  unfold ceilingAnswer at answered
  rcases ceilingBids_cases house.config.proxyOrdering item round caller ceiling.roundCents
    (store.standing item round)
    ((House.ceilingPut store caller id round ceiling).2.activeProxies id round) with
    ⟨rival, strongest, able, eq⟩ | ⟨-, -, eq⟩ | ⟨unopposed, ⟨leader, leading, other⟩, eq⟩
  · obtain ⟨settlement, settled, floored⟩ := bind_eq_ok_iff.1 (eq.symm.trans answered)
    cases floored
    obtain ⟨side, rfl⟩ := Settlement.mem_bids.1 mem
    obtain ⟨covered, price_le⟩ := settlement_spending kept taken strongest able settled side
    refine ⟨covered, fun below => absurd below (Decimal.not_lt.2 price_le), ?_⟩
    intro opens
    have unopposed := opens.unopposed
    rw [own, ← unopposed_ceilingPut kept.proxies, ← opens.minPrice_eq] at unopposed
    have beaten := unopposed rival strongest.mem strongest.active strongest.other
    exact absurd able (Decimal.not_lt.2 beaten)
  · rw [eq] at answered
    cases answered
    cases mem
  · obtain ⟨opening, computed, opened⟩ := bind_eq_ok_iff.1 (eq.symm.trans answered)
    cases opened
    obtain ⟨sum, added, rfl⟩ := Settlement.openingAmount_eq_ok_iff.1 computed
    rw [List.mem_singleton.1 mem]
    obtain ⟨saved_user, -, -, -, saved_ceiling⟩ := ceilingPut_saved store caller id round ceiling
    have whole := Decimal.isCents_roundCents ceiling
    refine ⟨⟨_, saved_mem_ceilingPut kept.proxies, saved_user, ?_⟩, ?_⟩
    · rw [saved_ceiling]
      exact Settlement.capped_sum_le whole
    · obtain ⟨lead, leads, rfl⟩ := Option.map_eq_some_iff.1 leading
      rw [unopposed_ceilingPut kept.proxies, ← own] at unopposed
      exact opening_lt_iff kept sound above whole unopposed leads other added

end SetProxy

/-- Whether a bid is written in a batch at whose time its user has an active ceiling that covers it,
the batch being all that the ledger gets. -/
def Backed (before after : Store) (bid : Bid) : Prop :=
  ∃ (atAppend : Store) (batch : List NewBid), atAppend.ledger = before.ledger ∧
    after = (atAppend.append batch).2 ∧ bid ∈ (atAppend.append batch).1 ∧
    Covers atAppend bid.item bid.round bid.user bid.amount

section Served

variable {caller : Caller} {call : Call} {answer : Except Stop Outcome} {after : Store}

/-- What a call writes of its own accord is backed, and below the price exactly if the call is for a
ceiling that opens below. -/
theorem automatic_of_served (kept : house.Kept store)
    (served : Served house store caller call answer after) :
    ∃ written, after.ledger = store.ledger ++ written ∧
      ∀ bid ∈ written, bid.kind = .auto → Backed store after bid ∧
        ∃ item, store.item? bid.item = some item ∧
          (bid.amount < (store.standing item bid.round).minPrice ↔
            (∃ ceiling, call = .setProxy bid.item bid.round ceiling) ∧
              OpensBelow store caller.user item bid.round) := by
  have unchanged {after : Store} {P : Bid → Prop} (same : after.ledger = store.ledger) :
      ∃ written, after.ledger = store.ledger ++ written ∧ ∀ bid ∈ written, P bid :=
    ⟨[], by rw [same, List.append_nil], fun bid mem => by cases mem⟩
  cases served with
  | stopped => exact unchanged rfl
  | @bid id round amount kind item counter taken =>
    refine ⟨_, Store.ledger_append _ _, ?_⟩
    intro bid mem auto
    have new_mem := mem
    rw [Store.append_eq] at new_mem
    rcases List.mem_cons.1 (Store.mem_numbered new_mem).1 with by_hand | answer
    · -- A bid by hand is never automatic.
      obtain ⟨-, -, -, -, -, kind_fine⟩ := Validation.bidViolations_eq_nil_iff.1 taken.valid
      have kind_eq : bid.kind = kind := by rw [by_hand]; rfl
      exact absurd (kind_eq.symm.trans auto) (Validation.kindViolations_eq_nil_iff.1 kind_fine).1
    · cases counter with
      | none => cases answer
      | some counter =>
        have bid_eq := List.mem_singleton.1 answer
        obtain ⟨covered, price_le⟩ := counter_spending kept taken
        obtain ⟨user, counter_amount, rfl⟩ := answer_eq_autoBid taken.answered
        have item_eq : bid.item = id := by rw [bid_eq]; rfl
        have round_eq : bid.round = round := by rw [bid_eq]; rfl
        rw [← bid_eq] at covered price_le
        refine ⟨⟨store, _, rfl, rfl, mem, ?_⟩, item, ?_, ?_⟩
        · rw [item_eq, round_eq]
          exact covered
        · rw [item_eq]
          exact taken.listed
        · rw [round_eq]
          refine ⟨fun below => absurd below (Decimal.not_lt.2 price_le), ?_⟩
          rintro ⟨⟨ceiling, impossible⟩, -⟩
          cases impossible
  | @purchase id item taken =>
    refine ⟨_, Store.ledger_append _ _, ?_⟩
    intro bid mem auto
    rw [Store.append_eq] at mem
    have bid_eq := List.mem_singleton.1 (Store.mem_numbered mem).1
    rw [bid_eq] at auto
    cases auto
  | @ceiling id round ceiling item bids taken answered =>
    rw [← ledger_ceilingPut store caller id round ceiling]
    refine ⟨_, Store.ledger_append _ _, ?_⟩
    intro bid mem _
    have new_mem := mem
    rw [Store.append_eq] at new_mem
    have batch_mem := (Store.mem_numbered new_mem).1
    obtain ⟨covered, below_iff⟩ := ceiling_spending kept taken answered batch_mem
    obtain ⟨user, amount, bid_eq⟩ := eq_autoBid_of_mem_ceilingBids answered batch_mem
    have item_eq : bid.item = id := by
      rw [bid_eq]
      exact (kept.items id item taken.listed).1
    have round_eq : bid.round = round := by rw [bid_eq]; rfl
    refine ⟨⟨_, bids, ledger_ceilingPut .., rfl, mem, ?_⟩, item, ?_, ?_⟩
    · rw [item_eq, round_eq]
      exact covered
    · rw [item_eq]
      exact taken.listed
    · rw [item_eq, round_eq, below_iff]
      exact ⟨fun opens => ⟨⟨ceiling, rfl⟩, opens⟩, fun h => h.2⟩
  | ceilingFault => exact unchanged (ledger_ceilingPut ..)
  | noRemoval => exact unchanged rfl
  | removal => exact unchanged Store.ledger_putProxy

/-- A user gets an active proxy in a round only by setting a ceiling there. -/
theorem mem_activeProxies_of_served (kept : house.Kept store)
    (served : Served house store caller call answer after) {id : ItemId} {round : Round}
    {proxy : Proxy} (mem : proxy ∈ after.activeProxies id round) :
    proxy ∈ store.activeProxies id round ∨
      proxy.user = caller.user ∧ (∃ ceiling, call = .setProxy id round ceiling) ∧
        ∀ refusal, answer ≠ .error (.refused refusal) := by
  have of_put {id' : ItemId} {round' : Round} {ceiling : Decimal}
      (put_mem : proxy ∈
        (House.ceilingPut store caller id' round' ceiling).2.activeProxies id round) :
      proxy ∈ store.activeProxies id round ∨
        proxy.user = caller.user ∧ id = id' ∧ round = round' := by
    rcases (mem_activeProxies_ceilingPut kept.proxies).1 put_mem with ⟨rfl, same_item, same_round⟩ |
      ⟨old, -⟩
    · exact .inr ⟨(ceilingPut_saved ..).1, same_item, same_round⟩
    · exact .inl old
  cases served with
  | stopped => exact .inl mem
  | bid taken =>
    rw [Store.activeProxies_append] at mem
    exact .inl mem
  | @purchase id' item taken =>
    have sold_eq : (sold store (purchase caller id' item)).activeProxies id round =
        store.activeProxies id round := Store.activeProxies_append store _ id round
    rw [sold_eq] at mem
    exact .inl mem
  | ceiling taken answered =>
    rw [Store.activeProxies_append] at mem
    rcases of_put mem with old | ⟨user_eq, rfl, rfl⟩
    · exact .inl old
    · exact .inr ⟨user_eq, ⟨_, rfl⟩, nofun⟩
  | ceilingFault taken answered =>
    rcases of_put mem with old | ⟨user_eq, rfl, rfl⟩
    · exact .inl old
    · exact .inr ⟨user_eq, ⟨_, rfl⟩, nofun⟩
  | noRemoval => exact .inl mem
  | removal listed current found =>
    exact .inl ((mem_activeProxies_removal kept.proxies found).1 mem).1

/-- Whether a user has no active proxy in a round. -/
def Inactive (store : Store) (user : UserId) (id : ItemId) (round : Round) : Prop :=
  ∀ proxy ∈ store.activeProxies id round, proxy.user ≠ user

/-- A removal that succeeds leaves the caller without an active proxy in the round. -/
theorem inactive_of_removal (kept : house.Kept store) {id : ItemId} {round : Round}
    {removed : Bool}
    (served : Served house store caller (.removeProxy id round) (.ok (.proxyRemoved removed))
      after) : Inactive after caller.user id round := by
  cases served with
  | noRemoval listed current found => exact Store.activeProxy?_eq_none_iff.1 found
  | removal listed current found =>
    intro proxy mem own
    exact ((mem_activeProxies_removal kept.proxies found).1 mem).2 ⟨rfl, rfl, own⟩

end Served

/-- Without an active proxy, a user gets no automatic bids from an event unless it is a ceiling of
theirs that is not refused. -/
theorem inactive_step (kept : house.Kept store) {user : UserId} {id : ItemId} {round : Round}
    (inactive : Inactive store user id round) (event : Event) :
    (∃ now ceiling, event = .call ⟨user, now⟩ (.setProxy id round ceiling) ∧
      ∀ refusal, (house.perform store ⟨user, now⟩ (.setProxy id round ceiling)).1 ≠
        .error (.refused refusal)) ∨
    (Inactive (house.step store event) user id round ∧
      ∀ bid ∈ (house.step store event).ledger, bid.kind = .auto → bid.user = user →
        bid.item = id → bid.round = round → bid ∈ store.ledger) := by
  have changed := change house store event
  by_cases set : ∃ now ceiling, event = .call ⟨user, now⟩ (.setProxy id round ceiling) ∧
      ∀ refusal, (house.perform store ⟨user, now⟩ (.setProxy id round ceiling)).1 ≠
        .error (.refused refusal)
  · exact .inl set
  right
  cases event with
  | call caller call =>
    have served := served house store caller call
    have inactive' : Inactive (house.step store (.call caller call)) user id round := by
      intro proxy mem own
      rcases mem_activeProxies_of_served kept served mem with old | ⟨user_eq, ⟨ceiling, rfl⟩, done⟩
      · exact inactive proxy old own
      · obtain ⟨caller_user, now⟩ := caller
        obtain rfl : caller_user = user := user_eq.symm.trans own
        exact set ⟨now, ceiling, rfl, done⟩
    refine ⟨inactive', ?_⟩
    intro bid mem auto own item_eq round_eq
    obtain ⟨written, ledger_eq, backed⟩ := automatic_of_served kept served
    have mem : bid ∈ store.ledger ++ written := ledger_eq ▸ mem
    rcases List.mem_append.1 mem with old | new
    · exact old
    · obtain ⟨⟨atAppend, batch, -, after_eq, -, covered⟩, -⟩ := backed bid new auto
      have after_eq : house.step store (.call caller call) = (atAppend.append batch).2 := after_eq
      obtain ⟨proxy, proxy_mem, proxy_user, -⟩ := covered
      rw [← Store.activeProxies_append atAppend batch, ← after_eq, item_eq, round_eq] at proxy_mem
      exact absurd (proxy_user.trans own) (inactive' proxy proxy_mem)
  | _ =>
    generalize house.step store _ = after at changed ⊢
    cases changed <;> exact ⟨inactive, fun bid mem _ _ _ _ => mem⟩

/-- Without an active proxy, a user gets no automatic bids before a ceiling of theirs that is not
refused. -/
theorem inactive_runFrom (kept : house.Kept store) {user : UserId} {id : ItemId} {round : Round}
    (inactive : Inactive store user id round) (later : List Event) {bid : Bid}
    (mem : bid ∈ (house.runFrom store later).ledger) (new : bid ∉ store.ledger)
    (auto : bid.kind = .auto) (own : bid.user = user) (item_eq : bid.item = id)
    (round_eq : bid.round = round) :
    ∃ prior now ceiling following,
      later = prior ++ .call ⟨user, now⟩ (.setProxy id round ceiling) :: following ∧
        ∀ refusal, (house.perform (house.runFrom store prior) ⟨user, now⟩
          (.setProxy id round ceiling)).1 ≠ .error (.refused refusal) := by
  induction later generalizing store with
  | nil => exact absurd mem new
  | cons event rest ih =>
    rcases inactive_step kept inactive event with ⟨now, ceiling, rfl, done⟩ | ⟨inactive', kept_out⟩
    · exact ⟨[], now, ceiling, rest, rfl, done⟩
    · have new' : bid ∉ (house.step store event).ledger :=
        fun written => new (kept_out bid written auto own item_eq round_eq)
      obtain ⟨prior, now, ceiling, following, rfl, done⟩ :=
        ih (kept.step event) inactive' mem new'
      exact ⟨event :: prior, now, ceiling, following, rfl, done⟩

/-- In every run, what a call writes of its own accord is backed, and not below the price that the
round had when the call began unless the call is for a ceiling that opens below.  Once a ceiling is
taken back, its user gets no automatic bids in the round before a ceiling that is not refused. -/
theorem automatic_spending (house : House) (events : List Event) :
    (∀ caller call,
      let before := house.run events
      let after := (house.perform before caller call).2
      ∃ written, after.ledger = before.ledger ++ written ∧
        ∀ bid ∈ written, bid.kind = .auto → Backed before after bid ∧
          ∃ item, before.item? bid.item = some item ∧
            (bid.amount < (before.standing item bid.round).minPrice ↔
              (∃ ceiling, call = .setProxy bid.item bid.round ceiling) ∧
                OpensBelow before caller.user item bid.round)) ∧
    ∀ caller id round removed after,
      house.perform (house.run events) caller (.removeProxy id round) =
        (.ok (.proxyRemoved removed), after) →
      ∀ later, ∀ bid ∈ (house.runFrom after later).ledger, bid ∉ after.ledger →
        bid.kind = .auto → bid.user = caller.user → bid.item = id → bid.round = round →
        ∃ prior now ceiling following,
          later = prior ++ .call ⟨caller.user, now⟩ (.setProxy id round ceiling) :: following ∧
            ∀ refusal, (house.perform (house.runFrom after prior) ⟨caller.user, now⟩
              (.setProxy id round ceiling)).1 ≠ .error (.refused refusal) := by
  have kept := kept_run house events
  constructor
  · intro caller call
    exact automatic_of_served kept (served house _ caller call)
  · intro caller id round removed after performed later bid mem new auto own item_eq round_eq
    have served := served house (house.run events) caller (.removeProxy id round)
    rw [performed] at served
    have inactive := inactive_of_removal kept served
    exact inactive_runFrom (kept.served served) inactive later mem new auto own item_eq round_eq

/-- A shard, with prices and a step of fractions of a cent. -/
def shard : Item :=
  { Item.vase with
    startingPrice := .ofParts 10004 3, buyNowPrice := .ofParts 10004 3, bidStep := .ofParts 1 4 }

/-- There are openings below the price: on a shard that is sold, put up again and gets a ceiling. -/
theorem opening_below_price :
    let store := run {}
      [.register shard, .call ⟨2, .hour 1⟩ (.placeBuyNow 1), .setWorkflow 1 .active]
    ∃ bid ∈ (perform {} store ⟨3, .hour 2⟩ (.setProxy 1 0 (.whole 20))).2.ledger,
      bid.kind = .auto ∧ bid.amount < (store.standing shard 0).minPrice := by
  intro store
  let sale : Bid := { purchase ⟨2, .hour 1⟩ 1 shard with id := store.nextBidId - 1 }
  have bids_eq : store.bidsFor 1 0 = [sale] := by decide +kernel
  have leads : Ranking.winner? [sale] = some sale := by
    apply Ranking.winner?_of_highest List.mem_cons_self rfl
    intro bid mem _
    exact .inl (List.mem_singleton.1 mem)
  have standing_eq : store.standing shard 0 = ⟨shard.startingPrice, some sale⟩ := by
    have behind : ¬ shard.startingPrice < sale.amount := by decide +kernel
    unfold Store.standing Ranking.standing
    rw [show store.bidsFor shard.id 0 = [sale] from bids_eq, leads]
    simp only
    rw [if_neg behind]
  have taken : CeilingTaken {} store ⟨3, .hour 2⟩ 1 0 (.whole 20) shard := by
    refine ⟨rfl, by decide +kernel, rfl, ?_⟩
    rw [standing_eq]
    decide +kernel
  have answered : ceilingAnswer {} store ⟨3, .hour 2⟩ 1 0 (.whole 20) shard =
      .ok [Settlement.autoBid 1 0 3 (.ofParts 1000 2) (.hour 2)] := by
    unfold ceilingAnswer
    rw [standing_eq]
    decide +kernel
  rw [perform_setProxy_of_taken taken, answered, standing_eq]
  simp only
  rw [Store.ledger_append]
  refine ⟨_, List.mem_append_right _ List.mem_cons_self, rfl, ?_⟩
  decide +kernel

end AuctionHouse.House
