import AuctionHouse.Proofs.House.Replies
import AuctionHouse.Proofs.House.Settling

/-!
# The ordering of proxies makes no difference

Which of two proxies of equal ceilings is the stronger is a setting of the house.  As long as
ceilings and steps leave room for their sums, nothing ever depends on it.  Of the active ceilings of
a round at most one is above the price (`Sole`): a ceiling that meets a rival above the price is
settled at no less than the lower of the two, and prices only rise.  An answer is made only by a
ceiling above the price, so the choice among equal ones is a choice among those that are silent.
-/

namespace AuctionHouse

/-- Whether the ceiling or the step that an event brings in is up to the roof. -/
def Event.Roofed : Event → Prop
  | .call _ (.setProxy _ _ ceiling) => ceiling.value ≤ House.roof
  | .register item => item.bidStep.value ≤ House.roof
  | _ => True

namespace House

/-- The house with another ordering of proxies. -/
def withOrdering (house : House) (ordering : ProxyOrdering) : House :=
  { house with config := { house.config with proxyOrdering := ordering } }

/-- Whether at most one active ceiling of a round is above its price, and the ceilings and the step
leave room for their sums. -/
structure Sole (store : Store) (item : Item) (round : Round) : Prop where
  step_le : item.bidStep.value ≤ roof
  ceilings_le : ∀ proxy ∈ store.activeProxies item.id round, proxy.ceiling.value ≤ roof
  single : ∀ p ∈ store.activeProxies item.id round, ∀ q ∈ store.activeProxies item.id round,
    (store.standing item round).minPrice < p.ceiling →
    (store.standing item round).minPrice < q.ceiling → p = q

section Choice

variable {item : Item} {bid : NewBid} {proxies : List Proxy} {round : Round} {caller : Caller}
  {ceiling : Decimal} {standing : Standing}

/-- The ordering does not matter to the answer to a bid if one ceiling at most is above the bid. -/
theorem counterBid_of_single
    (single : ∀ p ∈ proxies, ∀ q ∈ proxies, bid.amount < p.ceiling → bid.amount < q.ceiling → p = q)
    (ordering other : ProxyOrdering) :
    counterBid ordering item bid proxies = counterBid other item bid proxies := by
  unfold counterBid
  cases found : strongestRival? proxies bid.user ordering with
  | none =>
    rw [strongestRival?_eq_none_iff] at found
    rw [strongestRival?_eq_none_iff.2 found]
  | some rival =>
    obtain ⟨mem, active, opposed, above⟩ := strongestRival?_eq_some found
    cases found' : strongestRival? proxies bid.user other with
    | none => exact absurd (strongestRival?_eq_none_iff.1 found' rival mem active) opposed
    | some rival' =>
      obtain ⟨mem', active', opposed', above'⟩ := strongestRival?_eq_some found'
      by_cases able : bid.amount < rival.ceiling
      · -- Both are above the bid, so they are the one that is.
        have able' := lt_of_lt_of_le able (above' rival mem active opposed)
        rw [single rival mem rival' mem' able able']
      · -- Neither is above the bid, so neither answers.
        have beaten := Decimal.not_lt.1 able
        have beaten' := le_trans (above rival' mem' active' opposed') beaten
        simp only [Settlement.counterAmount_eq_none_iff.2 beaten,
          Settlement.counterAmount_eq_none_iff.2 beaten']
        rfl

/-- The ordering does not matter to what follows from a ceiling if one ceiling of others at most is
above the price. -/
theorem ceilingBids_of_single
    (single : ∀ p ∈ proxies, p.user ≠ caller.user → standing.minPrice < p.ceiling →
      ∀ q ∈ proxies, q.user ≠ caller.user → standing.minPrice < q.ceiling → p = q)
    (ordering other : ProxyOrdering) :
    ceilingBids ordering item round caller ceiling standing proxies =
      ceilingBids other item round caller ceiling standing proxies := by
  unfold ceilingBids
  simp only
  rw [strongestRival?_of_single _ ordering other]
  intro p p_mem _ p_other q q_mem _ q_other
  simp only [List.mem_filter, decide_eq_true_eq] at p_mem q_mem
  exact single p p_mem.1 p_other p_mem.2 q q_mem.1 q_other q_mem.2

end Choice

variable {house : House} {store next : Store} {item later : Item} {round : Round}

section Sole

/-- A price that does not fall and fewer ceilings leave at most one above it. -/
theorem Sole.of_le (sole : Sole store item round) (same : item.SameTerms later)
    (price_le : (store.standing item round).minPrice ≤ (next.standing later round).minPrice)
    (fewer : ∀ proxy ∈ next.activeProxies item.id round,
      proxy ∈ store.activeProxies item.id round) :
    Sole next later round := by
  constructor
  · rw [same.bidStep_eq]
    exact sole.step_le
  · rw [same.id_eq]
    exact fun proxy mem => sole.ceilings_le proxy (fewer proxy mem)
  · rw [same.id_eq]
    intro p p_mem q q_mem p_able q_able
    exact sole.single p (fewer p p_mem) q (fewer q q_mem) (lt_of_le_of_lt price_le p_able)
      (lt_of_le_of_lt price_le q_able)

theorem minPrice_le_of_ledger_eq {written : List Bid} (same : item.SameTerms later)
    (ledger_eq : next.ledger = store.ledger ++ written) (round : Round) :
    (store.standing item round).minPrice ≤ (next.standing later round).minPrice := by
  rw [standing_eq_of_sameTerms same]
  unfold Store.standing
  rw [bidsFor_eq_append ledger_eq]
  exact Ranking.minPrice_le_append _ _ _

/-- The price comes up to every bid that is written in the round. -/
theorem amount_le_minPrice_append {bids : List NewBid} (kept : (store.append bids).2.LedgerKept)
    {bid : NewBid} (mem : bid ∈ bids) (item_eq : bid.item = item.id)
    (round_eq : bid.round = round) :
    bid.amount ≤ ((store.append bids).2.standing item round).minPrice := by
  obtain ⟨written, written_mem, rfl⟩ := @Store.exists_numbered_of_mem store.nextBidId bids bid mem
  have here : written ∈ (store.append bids).2.bidsFor item.id round := by
    rw [Store.mem_bidsFor, Store.ledger_append, Store.append_eq]
    exact ⟨List.mem_append_right _ written_mem, item_eq, round_eq⟩
  exact Ranking.amount_le_minPrice item.startingPrice here (kept.counts here)

variable {caller : Caller} {ceiling price : Decimal} {bids : List NewBid}

/-- Of the ceilings after one is put, at most one is above a price that has not fallen and that the
lower of the new one and any rival above the old price has not exceeded. -/
theorem Sole.single_ceilingPut (kept : house.Kept store) (sole : Sole store item round)
    (risen : (store.standing item round).minPrice ≤ price)
    (settled : ∀ rival ∈ store.activeProxies item.id round, rival.user ≠ caller.user →
      (store.standing item round).minPrice < rival.ceiling →
        ceiling.roundCents ≤ price ∨ rival.ceiling ≤ price) :
    let put := (ceilingPut store caller item.id round ceiling).2
    ∀ p ∈ put.activeProxies item.id round, ∀ q ∈ put.activeProxies item.id round,
      price < p.ceiling → price < q.ceiling → p = q := by
  intro put p p_mem q q_mem p_able q_able
  have not_both {rival : Proxy} (old : rival ∈ store.activeProxies item.id round)
      (other : rival.user ≠ caller.user) (own_able : price < ceiling.roundCents) :
      ¬ price < rival.ceiling := by
    intro rival_able
    rcases settled rival old other (lt_of_le_of_lt risen rival_able) with own_le | rival_le
    · exact Decimal.not_lt.2 own_le own_able
    · exact Decimal.not_lt.2 rival_le rival_able
  rcases cases_of_mem_ceilingPut kept.proxies p_mem with ⟨-, p_ceiling, rfl⟩ | ⟨p_old, p_other⟩ <;>
    rcases cases_of_mem_ceilingPut kept.proxies q_mem with ⟨-, q_ceiling, rfl⟩ | ⟨q_old, q_other⟩
  · rfl
  · exact absurd q_able (not_both q_old q_other (p_ceiling ▸ p_able))
  · exact absurd p_able (not_both p_old p_other (q_ceiling ▸ q_able))
  · exact sole.single p p_old q q_old (lt_of_le_of_lt risen p_able) (lt_of_le_of_lt risen q_able)

/-- A ceiling that meets a rival above the price makes the lower of the two no higher than the new
price. -/
theorem settled_of_answered (kept : house.Kept store)
    (taken : CeilingTaken house store caller item.id round ceiling item)
    (answered : house.ceilingAnswer store caller item.id round ceiling item = .ok bids)
    {rival : Proxy} (mem : rival ∈ store.activeProxies item.id round)
    (other : rival.user ≠ caller.user)
    (able : (store.standing item round).minPrice < rival.ceiling) :
    let after := ((ceilingPut store caller item.id round ceiling).2.append bids).2
    ceiling.roundCents ≤ (after.standing item round).minPrice ∨
      rival.ceiling ≤ (after.standing item round).minPrice := by
  intro after
  have kept_after : house.Kept after :=
    (kept.ceilingPut taken).append (soundBatch_ceiling kept taken answered)
  obtain ⟨own, sound⟩ := kept.items item.id item taken.listed
  have active := (Store.mem_activeProxies.1 mem).2.1
  have opposed : ¬ Unopposed caller.user (store.standing item round).minPrice
      ((ceilingPut store caller item.id round ceiling).2.activeProxies item.id round) := by
    rw [unopposed_ceilingPut kept.proxies]
    exact fun unopposed => absurd able (Decimal.not_lt.2 (unopposed rival mem active other))
  unfold ceilingAnswer at answered
  rcases ceilingBids_cases house.config.proxyOrdering item round caller ceiling.roundCents
    (store.standing item round)
    ((ceilingPut store caller item.id round ceiling).2.activeProxies item.id round) with
    ⟨strongest, ⟨strongest_mem, -, strongest_other, above⟩, -, eq⟩ | ⟨unopposed, -⟩ | ⟨unopposed, -⟩
  · obtain ⟨settlement, settled, floored⟩ := bind_eq_ok_iff.1 (eq.symm.trans answered)
    cases floored
    have rival_le : rival.ceiling ≤ strongest.ceiling :=
      above rival ((mem_ceilingPut_iff_of_ne kept.proxies other).2 mem) active other
    have strongest_old := (mem_ceilingPut_iff_of_ne kept.proxies strongest_other).1 strongest_mem
    have whole := (kept.proxies.ceilings strongest (Store.mem_activeProxies.1 strongest_old).1).1
    have leading_le : settlement.leading ≤ (after.standing item round).minPrice := by
      let price := (store.standing item round).minPrice
      have leads : (settlement.flooredAt price).amountOf settlement.leader =
        max settlement.leading price := if_pos rfl
      have floored_le : settlement.leading ≤ max settlement.leading price :=
        Decimal.le_max_left _ _
      rw [← leads] at floored_le
      exact le_trans floored_le (amount_le_minPrice_append kept_after.ledger
        (Settlement.mem_bids.2 ⟨settlement.leader, rfl⟩) rfl rfl)
    rcases Settlement.ceiling_le_leading_reconcile (Decimal.isCents_roundCents ceiling) whole
      (Item.bidStep_pos sound).le settled with own_le | strongest_le
    · exact .inl (le_trans own_le leading_le)
    · exact .inr (le_trans rival_le (le_trans strongest_le leading_le))
  · exact absurd unopposed opposed
  · exact absurd unopposed opposed

/-- A ceiling that meets a rival above the price is settled if there is room. -/
theorem Sole.unopposed_of_fault (kept : house.Kept store) (sole : Sole store item round)
    (ceiling_le : ceiling.value ≤ roof)
    (taken : CeilingTaken house store caller item.id round ceiling item) {fault : Fault}
    (answered : house.ceilingAnswer store caller item.id round ceiling item = .error fault) :
    Unopposed caller.user (store.standing item round).minPrice
      (store.activeProxies item.id round) := by
  obtain ⟨-, sound⟩ := kept.items item.id item taken.listed
  obtain ⟨-, -, -, pos, -⟩ := Validation.ceilingViolations_eq_nil_iff.1 taken.valid
  rw [Decimal.lt_iff_value_lt, Decimal.value_zero] at pos
  rw [← @unopposed_ceilingPut store caller item.id round ceiling kept.proxies]
  unfold ceilingAnswer at answered
  rcases ceilingBids_cases house.config.proxyOrdering item round caller ceiling.roundCents
    (store.standing item round)
    ((ceilingPut store caller item.id round ceiling).2.activeProxies item.id round) with
    ⟨strongest, ⟨strongest_mem, -, strongest_other, -⟩, -, eq⟩ | ⟨unopposed, -⟩ | ⟨unopposed, -⟩
  · exfalso
    have strongest_old := (mem_ceilingPut_iff_of_ne kept.proxies strongest_other).1 strongest_mem
    have strongest_pos :=
      (kept.proxies.ceilings strongest (Store.mem_activeProxies.1 strongest_old).1).2
    have strongest_le := sole.ceilings_le strongest strongest_old
    have own_le := value_roundCents_le_roof ceiling_le
    have step_pos := Item.bidStep_pos sound
    have step_le := sole.step_le
    have room := roof_add_roof_lt
    have up {amount : ℚ} (nonneg : 0 < amount) (le : amount ≤ roof) :
        |amount + item.bidStep.value| < Decimal.centsLimit := by
      rw [abs_of_pos (by linarith)]
      linarith
    obtain ⟨settlement, settled⟩ := Settlement.exists_reconcile_of_room (up pos own_le)
      (up strongest_pos strongest_le) (by rw [abs_lt]; constructor <;> linarith)
    rw [settled] at eq
    exact nomatch eq.symm.trans answered
  · exact unopposed
  · exact unopposed

/-- A ceiling leaves at most one above the price. -/
theorem Sole.ceiling_served (kept : house.Kept store) (sole : Sole store item round)
    (listed : store.item? item.id = some item) (ceiling_le : ceiling.value ≤ roof)
    {answer : Except Stop Outcome} {after : Store}
    (served : Served house store caller (.setProxy item.id round ceiling) answer after) :
    Sole after item round := by
  have put_le (proxy : Proxy) (mem : proxy ∈
      (ceilingPut store caller item.id round ceiling).2.activeProxies item.id round) :
      proxy.ceiling.value ≤ roof := by
    rcases cases_of_mem_ceilingPut kept.proxies mem with ⟨-, own_ceiling, -⟩ | ⟨old, -⟩
    · rw [own_ceiling]
      exact value_roundCents_le_roof ceiling_le
    · exact sole.ceilings_le proxy old
  cases served with
  | stopped => exact sole
  | @ceiling id round ceiling item' bids taken answered =>
    obtain rfl : item = item' := Option.some.inj (listed.symm.trans taken.listed)
    have risen : (store.standing item round).minPrice ≤
        (((ceilingPut store caller item.id round ceiling).2.append bids).2.standing
          item round).minPrice :=
      minPrice_le_of_ledger_eq (.refl item)
        ((Store.ledger_append _ _).trans (by rw [ledger_ceilingPut])) round
    refine ⟨sole.step_le, ?_, ?_⟩
    · rw [Store.activeProxies_append]
      exact put_le
    · rw [Store.activeProxies_append]
      exact sole.single_ceilingPut kept risen fun rival mem other able =>
        settled_of_answered kept taken answered mem other able
  | @ceilingFault id round ceiling item' fault taken answered =>
    obtain rfl : item = item' := Option.some.inj (listed.symm.trans taken.listed)
    have unopposed := sole.unopposed_of_fault kept ceiling_le taken answered
    refine ⟨sole.step_le, put_le, ?_⟩
    rw [standing_ceilingPut]
    apply sole.single_ceilingPut kept (Decimal.le_refl _)
    intro rival mem other able
    have active := (Store.mem_activeProxies.1 mem).2.1
    exact absurd able (Decimal.not_lt.2 (unopposed rival mem active other))

/-- An event leaves at most one ceiling of a round above its price. -/
theorem Sole.step (kept : house.Kept store) (sole : Sole store item round)
    (listed : store.item? item.id = some item) {event : Event} (roofed : event.Roofed)
    (same : item.SameTerms later) : Sole (house.step store event) later round := by
  obtain ⟨written, ledger_eq, -⟩ := ledger_step house store event
  have price_le := minPrice_le_of_ledger_eq same ledger_eq round
  by_cases here : ∃ caller ceiling, event = .call caller (.setProxy item.id round ceiling)
  · obtain ⟨caller, ceiling, rfl⟩ := here
    have put := sole.ceiling_served kept listed roofed (served house store caller _)
    apply put.of_le same
    · rw [standing_eq_of_sameTerms same]
      exact Decimal.le_refl _
    · exact fun proxy mem => mem
  · apply sole.of_le same price_le
    have changed := change house store event
    generalize house.step store event = after at changed ⊢
    intro proxy mem
    cases changed with
    | call served =>
      rcases mem_activeProxies_of_served kept served mem with old | ⟨-, ⟨ceiling, rfl⟩, -⟩
      · exact old
      · exact absurd ⟨_, ceiling, rfl⟩ here
    | relist => exact mem
    | setWorkflow => exact mem
    | register => exact mem
    | nothing => exact mem

/-- Whether at most one active ceiling is above the price in every round of every item. -/
def AllSole (store : Store) : Prop :=
  ∀ id item, store.item? id = some item → ∀ round, Sole store item round

theorem AllSole.step (kept : house.Kept store) (sole : AllSole store) {event : Event}
    (roofed : event.Roofed) : AllSole (house.step store event) := by
  intro id later listed round
  cases found : store.item? id with
  | none =>
    obtain ⟨rfl, step_eq, rfl⟩ := item?_step_of_none found listed
    have unfiled := Store.not_filed_of_none found round
    have no_proxies : (store.insertItem later).activeProxies later.id round = [] :=
      kept.proxies.activeProxies_of_not_filed unfiled
    rw [step_eq]
    refine ⟨roofed, ?_, ?_⟩
    · rw [no_proxies]
      intro proxy mem
      cases mem
    · rw [no_proxies]
      intro p mem
      cases mem
  | some item =>
    obtain ⟨later', listed', same⟩ := @item?_step house store id item found event
    obtain rfl : later' = later := Option.some.inj (listed'.symm.trans listed)
    obtain rfl := (kept.items id item found).1
    exact (sole item.id item found round).step kept found roofed same

end Sole

section Irrelevant

variable {caller : Caller}

/-- The ordering does not matter to a call. -/
theorem perform_withOrdering (kept : house.Kept store) (sole : AllSole store)
    (ordering : ProxyOrdering) (call : Call) :
    (house.withOrdering ordering).perform store caller call = house.perform store caller call := by
  cases call with
  | placeBid id round amount kind =>
    rw [perform_placeBid, perform_placeBid]
    have same_item : (house.withOrdering ordering).bidItem store caller id round amount kind =
        house.bidItem store caller id round amount kind := rfl
    rw [same_item]
    cases accepted : house.bidItem store caller id round amount kind with
    | error refusal => rfl
    | ok item =>
      obtain ⟨-, loaded, valid⟩ := accept_eq_ok_iff.1 accepted
      obtain ⟨listed, current⟩ := (store.inRound_eq_ok_iff id round).1 loaded
      obtain ⟨-, -, -, price_le, -, -⟩ := Validation.bidViolations_eq_nil_iff.1 valid
      obtain rfl := (kept.items id item listed).1
      have same_answer : (house.withOrdering ordering).answerTo store item
          (byHand caller item.id round amount kind) =
            house.answerTo store item (byHand caller item.id round amount kind) := by
        unfold answerTo
        refine if_congr Iff.rfl (counterBid_of_single ?_ _ _) rfl
        intro p p_mem q q_mem p_able q_able
        exact (sole item.id item listed round).single p p_mem q q_mem
          (lt_of_le_of_lt price_le p_able) (lt_of_le_of_lt price_le q_able)
      simp only [same_answer]
  | placeBuyNow id =>
    rw [perform_placeBuyNow, perform_placeBuyNow]
    rfl
  | setProxy id round ceiling =>
    rw [perform_setProxy, perform_setProxy]
    have same_item : (house.withOrdering ordering).ceilingItem store caller id round ceiling =
        house.ceilingItem store caller id round ceiling := rfl
    rw [same_item]
    cases accepted : house.ceilingItem store caller id round ceiling with
    | error refusal => rfl
    | ok item =>
      have listed := (ceilingItem_eq_ok_iff.1 accepted).listed
      obtain rfl := (kept.items id item listed).1
      have same_answer : (house.withOrdering ordering).ceilingAnswer store caller item.id round
          ceiling item = house.ceilingAnswer store caller item.id round ceiling item := by
        unfold ceilingAnswer
        apply ceilingBids_of_single
        intro p p_mem p_other p_able q q_mem q_other q_able
        exact (sole item.id item listed round).single
          p ((mem_ceilingPut_iff_of_ne kept.proxies p_other).1 p_mem)
          q ((mem_ceilingPut_iff_of_ne kept.proxies q_other).1 q_mem) p_able q_able
      simp only [same_answer]
  | removeProxy id round =>
    rw [perform_removeProxy, perform_removeProxy]

/-- The ordering does not matter to a turn. -/
theorem respond_withOrdering (kept : house.Kept store) (sole : AllSole store)
    (ordering : ProxyOrdering) (turn : Turn) :
    (house.withOrdering ordering).respond store turn = house.respond store turn := by
  cases turn with
  | event event =>
    cases event with
    | call caller call =>
      have same := @perform_withOrdering house store caller kept sole ordering call
      simp only [respond, reply, step, same]
    | relist => rfl
    | setWorkflow => rfl
    | register => rfl
  | query now query => cases query <;> rfl

/-- The ordering does not matter to a session. -/
theorem session_withOrdering (kept : house.Kept store) (sole : AllSole store)
    (ordering : ProxyOrdering) (turns : List Turn)
    (roofed : ∀ turn ∈ turns, ∀ event, turn.event? = some event → event.Roofed) :
    (house.withOrdering ordering).session store turns = house.session store turns := by
  induction turns generalizing store with
  | nil => rfl
  | cons turn rest ih =>
    have turn_eq := respond_withOrdering kept sole ordering turn
    have rest_roofed (later : Turn) (mem : later ∈ rest) :=
      roofed later (List.mem_cons_of_mem _ mem)
    have next_kept : house.Kept (house.respond store turn).2 ∧
        AllSole (house.respond store turn).2 := by
      cases turn with
      | event event =>
        have event_roofed := roofed _ List.mem_cons_self event rfl
        exact ⟨kept.step event, sole.step kept event_roofed⟩
      | query now query =>
        rw [respond_query]
        exact ⟨kept, sole⟩
    have rest_eq := ih next_kept.1 next_kept.2 rest_roofed
    simp only [session, turn_eq, rest_eq]

/-- In every session whose ceilings and steps are up to the roof, the ordering of proxies makes no
difference to any reply and to the store that is left. -/
theorem ordering_irrelevant (house : House) (ordering : ProxyOrdering) (turns : List Turn)
    (roofed : ∀ turn ∈ turns, ∀ event, turn.event? = some event → event.Roofed) :
    (house.withOrdering ordering).session {} turns = house.session {} turns := by
  have sole : AllSole {} := fun id item listed => nomatch listed
  exact session_withOrdering (kept_empty house) sole ordering turns roofed

theorem ordering_irrelevant_vase :
    let turns : List Turn :=
      [.event (.register .vase), .event (.call ⟨2, .hour 1⟩ (.setProxy 1 0 (.whole 20))),
        .event (.call ⟨3, .hour 2⟩ (.setProxy 1 0 (.whole 20))),
        .event (.call ⟨4, .hour 3⟩ (.placeBid 1 0 (.whole 20) .standard)),
        .query (.hour 4) (.winner 1 0)]
    (withOrdering {} .latestFirst).session {} turns = session {} {} turns := by
  intro turns
  apply ordering_irrelevant {} .latestFirst
  have below : Item.vase.bidStep.value ≤ roof ∧ (Decimal.whole 20).value ≤ roof := by decide +kernel
  simp only [turns, List.mem_cons, List.not_mem_nil, or_false]
  rintro turn (rfl | rfl | rfl | rfl | rfl) event found
  · cases found
    exact below.1
  · cases found
    exact below.2
  · cases found
    exact below.2
  · cases found
    trivial
  · cases found

end Irrelevant

end House

end AuctionHouse
