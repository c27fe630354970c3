import AuctionHouse.Proofs.House.Bounds
import AuctionHouse.Proofs.Reconciliation

/-!
# What a ceiling comes to

A ceiling that is set while there is room for all sums is settled as the rules say, in every state
that a run comes to, a purchase before it included.  It meets at most one rival above the price.
Against that one the higher ceiling leads, the caller's of equal ones, and the price is a step above
the lower one (`RivalrySettled`).  Without one, it outbids another leader by a step
(`OpeningSettled`), and if there is none, nothing is written.  In all cases the ceiling is that of
the caller's one active proxy, and no other proxy is different (`ProxyRaised`).
-/

namespace AuctionHouse.House

/-- What a ceiling comes to that meets the ceiling of a rival above the price. -/
structure RivalrySettled (before after : Store) (caller : Caller) (item : Item) (round : Round)
    (ceiling : Decimal) (rival : Proxy) : Prop where
  /-- Two automatic bids are written, for the two users. -/
  written : ∃ (first second : Bid) (leading trailing : Decimal) (leader : Side),
    after.ledger = before.ledger ++ [first, second] ∧
    first.toNewBid = Settlement.autoBid item.id round (leader.user caller.user rival.user) leading
      caller.now ∧
    second.toNewBid = Settlement.autoBid item.id round
      (leader.other.user caller.user rival.user) trailing caller.now
  /-- The higher ceiling leads, the caller's of equal ones. -/
  leads : (after.standing item round).leader? =
    some (if rival.ceiling ≤ ceiling then caller.user else rival.user)
  /-- The price is a step above the lower ceiling, but not more than the higher one. -/
  price : ∃ sum, (min ceiling rival.ceiling).add item.bidStep = .ok sum ∧
    sum.value = min ceiling.value rival.ceiling.value + item.bidStep.value ∧
    (after.standing item round).minPrice.SameValue
      (min sum (max ceiling rival.ceiling)).roundCents

/-- What a ceiling comes to that meets no rival above the price while another user leads. -/
structure OpeningSettled (before after : Store) (caller : Caller) (item : Item) (round : Round)
    (ceiling : Decimal) : Prop where
  /-- One automatic bid is written, for the caller. -/
  written : ∃ (bid : Bid) (amount : Decimal), after.ledger = before.ledger ++ [bid] ∧
    bid.toNewBid = Settlement.autoBid item.id round caller.user amount caller.now
  /-- The caller leads. -/
  leads : (after.standing item round).leader? = some caller.user
  /-- The price is a step above the one before, but not more than the ceiling.  The sum is exact if
  the price before is in whole cents. -/
  price : ∃ sum, (before.standing item round).minPrice.add item.bidStep = .ok sum ∧
    ((before.standing item round).minPrice.IsCents →
      sum.value = (before.standing item round).minPrice.value + item.bidStep.value) ∧
    (after.standing item round).minPrice.SameValue (min sum ceiling).roundCents

/-- What is different among the proxies after a ceiling is set. -/
structure ProxyRaised (before after : Store) (caller : Caller) (id : ItemId) (round : Round)
    (ceiling : Decimal) (saved : Proxy) : Prop where
  /-- The caller has one active proxy in the round. -/
  single : ∀ proxy, proxy ∈ after.activeProxies id round ∧ proxy.user = caller.user ↔
    proxy = saved
  /-- It has the ceiling. -/
  ceiling_eq : saved.ceiling = ceiling
  /-- If there was one before, it keeps its number and its time. -/
  keeps : ∀ old, before.activeProxy? id round caller.user = some old →
    saved.id = old.id ∧ saved.createdAt = old.createdAt
  /-- Else it is a new one. -/
  fresh : before.activeProxy? id round caller.user = none →
    before.proxies.get? saved.id = none ∧ saved.createdAt = caller.now
  /-- All others are as they were. -/
  others : ∀ number, number ≠ saved.id → after.proxies.get? number = before.proxies.get? number

variable {house : House} {store : Store} {caller : Caller} {item : Item} {round : Round}
  {ceiling : Decimal}

section Settled

variable (kept : house.Kept store) (bounded : Bounded store) (wholeStep : item.bidStep.IsCents)
  (taken : CeilingTaken house store caller item.id round ceiling item)

include kept bounded wholeStep taken

/-- A settlement that is written settles the two ceilings. -/
theorem rivalrySettled (ceiling_le : ceiling.value ≤ roof) {rival : Proxy}
    (rival_mem : rival ∈ store.activeProxies item.id round)
    (able : (store.standing item round).minPrice < rival.ceiling) :
    ∃ bids,
      (Settlement.reconcile ceiling.roundCents rival.ceiling item.bidStep >>= fun settlement =>
        .ok ((settlement.flooredAt (store.standing item round).minPrice).bids item.id round
          caller.user rival.user caller.now)) = .ok bids ∧
      RivalrySettled store ((ceilingPut store caller item.id round ceiling).2.append bids).2 caller
        item round ceiling.roundCents rival := by
  obtain ⟨-, -, step_le⟩ := bounded.items item.id item taken.listed
  have rival_value := (Store.mem_activeProxies.1 rival_mem).1
  have own_le := value_roundCents_le_roof ceiling_le
  have wholeCeiling := Decimal.isCents_roundCents ceiling
  obtain ⟨wholeRival, rival_pos⟩ := kept.proxies.ceilings rival rival_value
  obtain ⟨-, -, -, pos, -⟩ := Validation.ceilingViolations_eq_nil_iff.1 taken.valid
  rw [Decimal.lt_iff_value_lt, Decimal.value_zero] at pos
  have step_pos := Item.bidStep_pos (kept.items item.id item taken.listed).2
  obtain ⟨settlement, settled, leader_eq, -, -, lead, lead_eq, standing_eq⟩ :=
    reconcile_lands kept wholeStep step_le taken own_le rival_mem able
  refine ⟨_, bind_eq_ok_iff.2 ⟨settlement, settled, rfl⟩, ?_, ?_, ?_⟩
  · rw [Settlement.bids_eq, Store.ledger_append, ledger_ceilingPut, Store.append_eq]
    exact ⟨_, _, _, _, settlement.leader, rfl, rfl, rfl⟩
  · rw [standing_eq]
    have lead_user : lead.user = settlement.leader.user caller.user rival.user := by
      rw [lead_eq]
      rfl
    refine congrArg some (lead_user.trans ?_)
    rw [leader_eq]
    by_cases less : ceiling.roundCents < rival.ceiling
    · rw [if_pos less, if_neg (Decimal.not_le.2 less)]
      rfl
    · rw [if_neg less, if_pos (Decimal.not_lt.1 less)]
      rfl
  · have lower_le : (min ceiling.roundCents rival.ceiling).value ≤ roof := by
      rw [Decimal.value_min]
      exact (min_le_left _ _).trans own_le
    have lower_pos : 0 < (min ceiling.roundCents rival.ceiling).value := by
      rw [Decimal.value_min]
      exact lt_min pos rival_pos
    have room := roof_add_roof_lt
    obtain ⟨sum, added, -, sum_value⟩ := Settlement.exists_sum
      (wholeCeiling.min wholeRival) wholeStep lower_pos.le step_pos.le (by linarith)
    rw [Decimal.value_min] at sum_value
    refine ⟨sum, added, sum_value, ?_⟩
    rw [standing_eq]
    exact Settlement.sameValue_leading_reconcile step_pos.le settled added

/-- An opening bid that is written outbids the leader. -/
theorem openingSettled :
    ∃ bids, (Settlement.openingAmount (store.standing item round).minPrice ceiling.roundCents
        item.bidStep >>= fun amount =>
          .ok [Settlement.autoBid item.id round caller.user amount caller.now]) = .ok bids ∧
      OpeningSettled store ((ceilingPut store caller item.id round ceiling).2.append bids).2 caller
        item round ceiling.roundCents := by
  obtain ⟨-, -, step_le⟩ := bounded.items item.id item taken.listed
  obtain ⟨sum, added, exact_of, -, lead, lead_eq, standing_eq⟩ :=
    opening_lands kept wholeStep step_le (bounded.minPrice_le taken.listed round) taken
  refine ⟨_, bind_eq_ok_iff.2
    ⟨_, Settlement.openingAmount_eq_ok_iff.2 ⟨sum, added, rfl⟩, rfl⟩, ?_, ?_, ?_⟩
  · rw [Store.ledger_append, ledger_ceilingPut, Store.append_eq]
    exact ⟨_, _, rfl, rfl⟩
  · rw [standing_eq]
    exact congrArg (fun bid : NewBid => some bid.user) lead_eq
  · refine ⟨sum, added, fun wholePrice => (exact_of wholePrice).2, ?_⟩
    rw [standing_eq]
    exact rfl

/-- A ceiling that is answered is settled with the one rival above the price, opens against another
leader, or leaves the standing. -/
theorem settled_of_answer (sole : AllSole store) (ceiling_le : ceiling.value ≤ roof)
    {bids : List NewBid}
    (answered : house.ceilingAnswer store caller item.id round ceiling item = .ok bids) :
    let after := ((ceilingPut store caller item.id round ceiling).2.append bids).2
    let standing := store.standing item round
    let rivals := store.activeProxies item.id round
    (∀ rival : Proxy, rival.StrongestAgainst caller.user rivals →
      standing.minPrice < rival.ceiling →
        RivalrySettled store after caller item round ceiling.roundCents rival) ∧
    (Unopposed caller.user standing.minPrice rivals →
      (∀ leader, standing.leader? = some leader → leader ≠ caller.user →
        OpeningSettled store after caller item round ceiling.roundCents) ∧
      ((∀ leader, standing.leader? = some leader → leader = caller.user) →
        after.ledger = store.ledger ∧ after.standing item round = standing)) := by
  intro after standing rivals
  unfold ceilingAnswer at answered
  rcases ceilingBids_cases house.config.proxyOrdering item round caller ceiling.roundCents standing
    ((ceilingPut store caller item.id round ceiling).2.activeProxies item.id round) with
    ⟨strongest, strongest_put, able, eq⟩ | ⟨unopposed, own, eq⟩ |
      ⟨unopposed, ⟨leader, leads, other⟩, eq⟩
  · have strongest_before := (strongestAgainst_ceilingPut kept.proxies).1 strongest_put
    obtain ⟨bids', written, settled⟩ :=
      rivalrySettled kept bounded wholeStep taken ceiling_le strongest_before.mem able
    obtain rfl : bids' = bids := Except.ok.inj (written.symm.trans (eq.symm.trans answered))
    constructor
    · intro rival rival_strongest rival_able
      have same := (sole item.id item taken.listed round).single strongest strongest_before.mem rival
        rival_strongest.mem able rival_able
      rw [← same]
      exact settled
    · intro unopposed
      have beaten := unopposed strongest strongest_before.mem strongest_before.active
        strongest_before.other
      exact absurd able (Decimal.not_lt.2 beaten)
  · rw [unopposed_ceilingPut kept.proxies] at unopposed
    obtain rfl : [] = bids := Except.ok.inj (eq.symm.trans answered)
    constructor
    · intro rival strongest able
      have beaten := unopposed rival strongest.mem strongest.active strongest.other
      exact absurd able (Decimal.not_lt.2 beaten)
    · intro _
      refine ⟨fun leader leads other => absurd (own leader leads) other, fun _ => ⟨?_, ?_⟩⟩
      · exact ledger_ceilingPut store caller item.id round ceiling
      · exact standing_ceilingPut store caller item.id round ceiling item round
  · rw [unopposed_ceilingPut kept.proxies] at unopposed
    obtain ⟨bids', written, settled⟩ :=
      @openingSettled house store caller item round ceiling kept bounded wholeStep taken
    obtain rfl : bids' = bids := Except.ok.inj (written.symm.trans (eq.symm.trans answered))
    constructor
    · intro rival strongest able
      have beaten := unopposed rival strongest.mem strongest.active strongest.other
      exact absurd able (Decimal.not_lt.2 beaten)
    · intro _
      exact ⟨fun _ _ _ => settled, fun own => absurd (own leader leads) other⟩

end Settled

/-- A ceiling that is put is that of the caller's one active proxy, whatever bids follow. -/
theorem proxyRaised (kept : store.ProxiesKept) (bids : List NewBid) :
    ProxyRaised store ((ceilingPut store caller item.id round ceiling).2.append bids).2 caller
      item.id round ceiling.roundCents (ceilingPut store caller item.id round ceiling).1 := by
  obtain ⟨user_eq, -, -, -, ceiling_eq⟩ := ceilingPut_saved store caller item.id round ceiling
  have raised_eq (previous : Option Proxy)
      (found : store.activeProxy? item.id round caller.user = previous) :
      ceilingPut store caller item.id round ceiling =
        store.putProxy (raised previous caller item.id round ceiling.roundCents) := by
    rw [ceilingPut, found]
  refine ⟨?_, ceiling_eq, ?_, ?_, ?_⟩
  · intro proxy
    rw [Store.activeProxies_append]
    constructor
    · rintro ⟨mem, own⟩
      rcases cases_of_mem_ceilingPut kept mem with ⟨-, -, eq⟩ | ⟨-, other⟩
      · exact eq
      · exact absurd own other
    · rintro rfl
      exact ⟨saved_mem_ceilingPut kept, user_eq⟩
  · intro old found
    have old_mem := (Store.mem_activeProxies.1 (Store.activeProxy?_eq_some found).1).1
    have old_pos := kept.keyed.id_pos old_mem
    have pos : 0 < (raised (some old) caller item.id round ceiling.roundCents).id := old_pos
    rw [raised_eq _ found, Store.putProxy_old pos]
    exact ⟨rfl, rfl⟩
  · intro missing
    rw [raised_eq _ missing, Store.putProxy_new rfl]
    refine ⟨?_, rfl⟩
    cases found : store.proxies.get? store.nextProxyId with
    | none => rfl
    | some proxy => exact absurd (kept.keyed _ _ found).2.2 (Nat.lt_irrefl _)
  · intro number other
    have put_eq : (ceilingPut store caller item.id round ceiling).2.proxies =
        store.proxies.insert (ceilingPut store caller item.id round ceiling).1.id
          (ceilingPut store caller item.id round ceiling).1 := Store.proxies_putProxy _ _
    rw [Store.append_eq, put_eq, Table.get?_insert, if_neg other]

/-- What a ceiling does if it is answered. -/
theorem taken_of_setProxy {id : ItemId} {saved : Proxy} {after : Store}
    (performed : house.perform store caller (.setProxy id round ceiling) =
      (.ok (.proxy saved), after)) :
    ∃ item bids, CeilingTaken house store caller id round ceiling item ∧
      house.ceilingAnswer store caller id round ceiling item = .ok bids ∧
      saved = (ceilingPut store caller id round ceiling).1 ∧
      after = ((ceilingPut store caller id round ceiling).2.append bids).2 := by
  have served := served house store caller (.setProxy id round ceiling)
  rw [performed] at served
  cases served with
  | ceiling taken answered => exact ⟨_, _, taken, answered, rfl, rfl⟩

/-- After every modest run, a ceiling below the roof for an item with a step in whole cents is
settled with the one rival that has a ceiling above the price, opens against another leader if there
is no such rival, and else leaves the ledger and the standing of its round.  It becomes the ceiling
of the caller's one active proxy, and all other proxies stay as they are. -/
theorem ceiling_settled (house : House) (events : List Event)
    (modest : ∀ event ∈ events, event.Modest) {id : ItemId}
    (listed : (house.run events).item? id = some item) (wholeStep : item.bidStep.IsCents)
    (ceiling_lt : ceiling.value < roof) {saved : Proxy} {after : Store}
    (performed : house.perform (house.run events) caller (.setProxy id round ceiling) =
      (.ok (.proxy saved), after)) :
    let before := house.run events
    let standing := before.standing item round
    let rivals := before.activeProxies id round
    (∀ rival : Proxy, rival.StrongestAgainst caller.user rivals →
      standing.minPrice < rival.ceiling →
        RivalrySettled before after caller item round ceiling.roundCents rival) ∧
    (Unopposed caller.user standing.minPrice rivals →
      (∀ leader, standing.leader? = some leader → leader ≠ caller.user →
        OpeningSettled before after caller item round ceiling.roundCents) ∧
      ((∀ leader, standing.leader? = some leader → leader = caller.user) →
        after.ledger = before.ledger ∧ after.standing item round = standing)) ∧
    ProxyRaised before after caller id round ceiling.roundCents saved := by
  intro before standing rivals
  have kept := kept_run house events
  obtain ⟨bounded, sole⟩ := settled_run house events modest
  obtain ⟨item', bids, taken, answered, rfl, rfl⟩ := taken_of_setProxy performed
  obtain rfl : item' = item := Option.some.inj (taken.listed.symm.trans listed)
  obtain rfl := (kept.items id item' listed).1
  obtain ⟨rivalry, opening⟩ :=
    settled_of_answer kept bounded wholeStep taken sole ceiling_lt.le answered
  exact ⟨rivalry, opening, proxyRaised kept.proxies bids⟩

theorem ceiling_settled_vase :
    let events : List Event :=
      [.register .vase, .call ⟨2, .hour 1⟩ (.setProxy 1 0 (.whole 20))]
    ∃ saved after, perform {} (run {} events) ⟨3, .hour 2⟩ (.setProxy 1 0 (.whole 30)) =
        (.ok (.proxy saved), after) ∧
      (after.standing .vase 0).leader? = some 3 ∧
      (after.standing .vase 0).minPrice.SameValue (.whole 21) ∧ saved.ceiling = .whole 30 := by
  intro events
  have modest : ∀ event ∈ events, event.Modest := by
    have below : Item.vase.startingPrice.value < roof ∧ Item.vase.buyNowPrice.value < roof ∧
        Item.vase.bidStep.value < roof ∧ (Decimal.whole 20).value < roof := by decide +kernel
    obtain ⟨start_lt, buy_now_lt, step_lt, ceiling_lt⟩ := below
    simp only [events, List.mem_cons, List.not_mem_nil, or_false]
    rintro event (rfl | rfl)
    · exact ⟨start_lt, buy_now_lt, step_lt⟩
    · exact ceiling_lt
  have vase_eq : (run {} events).item? 1 = some .vase := by decide +kernel
  have wholeStep : Item.vase.bidStep.IsCents := Decimal.isCents_of_scale_le (by decide)
  have ceiling_lt : (Decimal.whole 30).value < roof := by decide +kernel
  let rival : Proxy :=
    { id := 1, item := 1, user := 2, ceiling := .whole 20, round := 0, active := true,
      createdAt := .hour 1, updatedAt := .hour 1 }
  let put := ceilingPut (run {} events) ⟨3, .hour 2⟩ 1 0 (.whole 30)
  have taken : CeilingTaken {} (run {} events) ⟨3, .hour 2⟩ 1 0 (.whole 30) .vase :=
    ⟨rfl, vase_eq, rfl, by decide +kernel⟩
  have answered : ceilingAnswer {} (run {} events) ⟨3, .hour 2⟩ 1 0 (.whole 30) .vase =
      .ok [Settlement.autoBid 1 0 3 (.whole 21) (.hour 2),
        Settlement.autoBid 1 0 2 (.whole 20) (.hour 2)] := by
    decide +kernel
  have served_eq := perform_setProxy_of_taken taken
  simp only [answered] at served_eq
  obtain ⟨rivalry, -, raised⟩ :=
    ceiling_settled {} events modest vase_eq wholeStep ceiling_lt served_eq
  have rivals_eq : (run {} events).activeProxies 1 0 = [rival] := by decide +kernel
  have strongest : rival.StrongestAgainst 3 ((run {} events).activeProxies 1 0) := by
    rw [rivals_eq]
    refine ⟨List.mem_cons_self, rfl, by decide, ?_⟩
    intro proxy mem _ _
    rw [List.mem_singleton.1 mem]
  have able : ((run {} events).standing .vase 0).minPrice < rival.ceiling := by decide +kernel
  obtain ⟨-, leads, sum, added, -, same⟩ := rivalry rival strongest able
  obtain rfl : sum = .whole 21 := by
    have computed : (Decimal.whole 20).add (.whole 1) = .ok (.whole 21) := by decide +kernel
    exact Except.ok.inj (added.symm.trans computed)
  exact ⟨put.1, _, served_eq, leads, same, raised.ceiling_eq⟩

end AuctionHouse.House
