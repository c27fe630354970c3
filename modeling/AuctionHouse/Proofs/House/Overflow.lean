import AuctionHouse.Proofs.House.Amounts

/-!
# Calls that stop at a sum

The only arithmetic of a call that can have no answer is to add a step: to a bid that a rival
ceiling is above, to the lower of two ceilings that are settled, or to a price at which a ceiling
opens (`Overflows`).  A bid is answered before it is written, so a bid that stops leaves the store
as it was.  A ceiling is put before it is settled, and it stays put if that stops
(`overflow_leaves`).
-/

namespace AuctionHouse

theorem Decimal.SumOverflows.of_sameValue {a a' b : Decimal} (overflows : a.SumOverflows b)
    (same : a.SameValue a') : a'.SumOverflows b := by
  unfold SumOverflows at *
  rwa [← sameValue_iff_value_eq.1 same]

namespace House

variable {house : House} {store : Store} {caller : Caller} {id : ItemId} {round : Round}
  {item : Item} {fault : Fault}

/-- Whether a call needs a sum that overflows: a step above a bid that is accepted and that a rival
ceiling is above, above the lower one of two ceilings of which the one is taken and the other is the
strongest above the price, or above the price of another leader whom no ceiling defends. -/
def Overflows (house : House) (store : Store) (caller : Caller) : Call → Prop
  | .placeBid id round amount kind =>
    ∃ item, house.bidItem store caller id round amount kind = .ok item ∧
      house.config.autobidEnabled = true ∧
      ∃ rival : Proxy, rival.StrongestAgainst caller.user (store.activeProxies id round) ∧
        amount.roundCents < rival.ceiling ∧ amount.roundCents.SumOverflows item.bidStep
  | .setProxy id round ceiling =>
    ∃ item, CeilingTaken house store caller id round ceiling item ∧
      let before := store.standing item round
      ((∃ rival : Proxy, rival.StrongestAgainst caller.user (store.activeProxies id round) ∧
          before.minPrice < rival.ceiling ∧ ¬ ceiling.roundCents.SameValue rival.ceiling ∧
          (min ceiling.roundCents rival.ceiling).SumOverflows item.bidStep) ∨
        (Unopposed caller.user before.minPrice (store.activeProxies id round) ∧
          (∃ leader, before.leader? = some leader ∧ leader ≠ caller.user) ∧
          before.minPrice.SumOverflows item.bidStep))
  | .placeBuyNow _ => False
  | .removeProxy .. => False

theorem answerTo_eq_error_iff {bid : NewBid} :
    house.answerTo store item bid = .error fault ↔
      fault = .sumTooLarge ∧ house.config.autobidEnabled = true ∧
        ∃ rival : Proxy,
          rival.StrongestAgainst bid.user (store.activeProxies bid.item bid.round) ∧
          bid.amount < rival.ceiling ∧ bid.amount.SumOverflows item.bidStep := by
  unfold answerTo counterBid
  split
  · next enabled =>
    split
    · next no_rival =>
      refine ⟨nofun, ?_⟩
      rintro ⟨-, -, rival, strongest, -⟩
      have own := strongestRival?_eq_none_iff.1 no_rival rival strongest.mem strongest.active
      exact absurd own strongest.other
    · next rival found =>
      have strongest := strongestRival?_eq_some found
      rw [bind_eq_error_iff]
      constructor
      · rintro (failed | ⟨amount, -, impossible⟩)
        · obtain ⟨cause, able, overflows⟩ := Settlement.counterAmount_eq_error_iff.1 failed
          exact ⟨cause, enabled, rival, strongest, able, overflows⟩
        · cases impossible
      · rintro ⟨cause, -, rival', strongest', able, overflows⟩
        have same := sameValue_of_strongestAgainst strongest strongest'
        refine .inl (Settlement.counterAmount_eq_error_iff.2 ⟨cause, ?_, overflows⟩)
        rw [Decimal.lt_iff_value_lt] at able ⊢
        rwa [Decimal.sameValue_iff_value_eq.1 same]
  · next disabled => exact ⟨nofun, fun h => absurd h.2.1 disabled⟩

/-- A ceiling that is taken is not settled exactly if it overflows. -/
theorem ceilingAnswer_eq_error_iff (kept : house.Kept store) {ceiling : Decimal}
    (taken : CeilingTaken house store caller id round ceiling item) :
    house.ceilingAnswer store caller id round ceiling item = .error fault ↔
      fault = .sumTooLarge ∧ house.Overflows store caller (.setProxy id round ceiling) := by
  obtain ⟨-, -, -, pos, -⟩ := Validation.ceilingViolations_eq_nil_iff.1 taken.valid
  rw [Decimal.lt_iff_value_lt, Decimal.value_zero] at pos
  have step_pos := Item.bidStep_pos (kept.items id item taken.listed).2
  have unique {item' : Item} (taken' : CeilingTaken house store caller id round ceiling item') :
      item' = item := Option.some.inj (taken'.listed.symm.trans taken.listed)
  unfold ceilingAnswer
  rcases ceilingBids_cases house.config.proxyOrdering item round caller ceiling.roundCents
    (store.standing item round)
    ((ceilingPut store caller id round ceiling).2.activeProxies id round) with
    ⟨rival, strongest, able, eq⟩ | ⟨unopposed, own, eq⟩ | ⟨unopposed, other, eq⟩
  · rw [strongestAgainst_ceilingPut kept.proxies] at strongest
    rw [eq, bind_eq_error_iff]
    constructor
    · rintro (failed | ⟨settlement, -, impossible⟩)
      · obtain ⟨cause, differ, overflows⟩ :=
          (Settlement.reconcile_eq_error_iff pos.le step_pos.le).1 failed
        exact ⟨cause, item, taken, .inl ⟨rival, strongest, able, differ, overflows⟩⟩
      · cases impossible
    · rintro ⟨cause, item', taken', settles | ⟨alone, -⟩⟩
      · obtain rfl := unique taken'
        obtain ⟨rival', strongest', -, differ, overflows⟩ := settles
        have same := sameValue_of_strongestAgainst strongest strongest'
        refine .inl ((Settlement.reconcile_eq_error_iff pos.le step_pos.le).2 ⟨cause, ?_, ?_⟩)
        · rw [Decimal.sameValue_iff_value_eq] at differ same ⊢
          rwa [same]
        · apply overflows.of_sameValue
          rw [Decimal.sameValue_iff_value_eq] at same ⊢
          rw [Decimal.value_min, Decimal.value_min, same]
      · obtain rfl := unique taken'
        have defended := alone rival strongest.mem strongest.active strongest.other
        exact absurd able (Decimal.not_lt.2 defended)
  · rw [unopposed_ceilingPut kept.proxies] at unopposed
    rw [eq]
    refine ⟨nofun, ?_⟩
    rintro ⟨-, item', taken', ⟨rival, strongest, able, -⟩ | ⟨-, ⟨leader, leads, other⟩, -⟩⟩
    · obtain rfl := unique taken'
      have beaten := unopposed rival strongest.mem strongest.active strongest.other
      exact absurd able (Decimal.not_lt.2 beaten)
    · obtain rfl := unique taken'
      exact absurd (own leader leads) other
  · rw [unopposed_ceilingPut kept.proxies] at unopposed
    rw [eq, bind_eq_error_iff]
    constructor
    · rintro (failed | ⟨amount, -, impossible⟩)
      · obtain ⟨cause, overflows⟩ := Settlement.openingAmount_eq_error_iff.1 failed
        exact ⟨cause, item, taken, .inr ⟨unopposed, other, overflows⟩⟩
      · cases impossible
    · rintro ⟨cause, item', taken', ⟨rival, strongest, able, -⟩ | ⟨-, -, overflows⟩⟩
      · obtain rfl := unique taken'
        have beaten := unopposed rival strongest.mem strongest.active strongest.other
        exact absurd able (Decimal.not_lt.2 beaten)
      · obtain rfl := unique taken'
        exact .inl (Settlement.openingAmount_eq_error_iff.2 ⟨cause, overflows⟩)

/-- What a call that stops at its arithmetic leaves: the store as it was, or with its ceiling. -/
def leftBy (store : Store) (caller : Caller) : Call → Store
  | .setProxy id round ceiling => (ceilingPut store caller id round ceiling).2
  | .placeBid .. | .placeBuyNow _ | .removeProxy .. => store

theorem faulted_placeBid_iff {amount : Decimal} {kind : BidKind} {left : Store} :
    house.perform store caller (.placeBid id round amount kind) = (.error (.faulted fault), left) ↔
      left = store ∧ fault = .sumTooLarge ∧
        house.Overflows store caller (.placeBid id round amount kind) := by
  rw [perform_placeBid]
  cases accepted : house.bidItem store caller id round amount kind with
  | error refusal =>
    refine ⟨nofun, ?_⟩
    rintro ⟨-, -, item, impossible, -⟩
    rw [accepted] at impossible
    cases impossible
  | ok item =>
    have overflows_iff : house.Overflows store caller (.placeBid id round amount kind) ↔
        house.config.autobidEnabled = true ∧
          ∃ rival : Proxy, rival.StrongestAgainst caller.user (store.activeProxies id round) ∧
            amount.roundCents < rival.ceiling ∧ amount.roundCents.SumOverflows item.bidStep := by
      simp only [Overflows, accepted, Except.ok.injEq, exists_eq_left']
    have error_iff := @answerTo_eq_error_iff house store item fault
      (byHand caller id round amount kind)
    rw [overflows_iff]
    cases answered : house.answerTo store item (byHand caller id round amount kind) with
    | error other =>
      rw [answered, Except.error.injEq] at error_iff
      simp only [answered, Prod.mk.injEq, Except.error.injEq, Stop.faulted.injEq]
      rw [and_comm, eq_comm]
      exact and_congr_right fun _ => error_iff
    | ok counter =>
      rw [answered] at error_iff
      simp only [answered]
      exact ⟨nofun, fun h => nomatch error_iff.2 h.2⟩

theorem faulted_setProxy_iff (kept : house.Kept store) {ceiling : Decimal} {left : Store} :
    house.perform store caller (.setProxy id round ceiling) = (.error (.faulted fault), left) ↔
      left = (ceilingPut store caller id round ceiling).2 ∧ fault = .sumTooLarge ∧
        house.Overflows store caller (.setProxy id round ceiling) := by
  rw [perform_setProxy]
  cases accepted : house.ceilingItem store caller id round ceiling with
  | error refusal =>
    refine ⟨nofun, ?_⟩
    rintro ⟨-, -, item, taken, -⟩
    rw [ceilingItem_eq_ok_iff.2 taken] at accepted
    cases accepted
  | ok item =>
    have error_iff := @ceilingAnswer_eq_error_iff house store caller id round item fault kept
      ceiling (ceilingItem_eq_ok_iff.1 accepted)
    cases answered : house.ceilingAnswer store caller id round ceiling item with
    | error other =>
      rw [answered, Except.error.injEq] at error_iff
      simp only [answered, Prod.mk.injEq, Except.error.injEq, Stop.faulted.injEq]
      rw [and_comm, eq_comm]
      exact and_congr_right fun _ => error_iff
    | ok bids =>
      rw [answered] at error_iff
      simp only [answered]
      exact ⟨nofun, fun h => nomatch error_iff.2 h.2⟩

/-- A call stops at its arithmetic exactly if it overflows. -/
theorem faulted_iff (kept : house.Kept store) (call : Call) {left : Store} :
    house.perform store caller call = (.error (.faulted fault), left) ↔
      left = leftBy store caller call ∧ fault = .sumTooLarge ∧
        house.Overflows store caller call := by
  cases call with
  | placeBid id round amount kind => exact faulted_placeBid_iff
  | placeBuyNow id =>
    rw [perform_placeBuyNow]
    cases house.purchaseItem store caller id with
    | error refusal => exact ⟨nofun, fun h => h.2.2.elim⟩
    | ok item => exact ⟨nofun, fun h => h.2.2.elim⟩
  | setProxy id round ceiling => exact faulted_setProxy_iff kept
  | removeProxy id round =>
    rw [perform_removeProxy]
    cases store.inRound id round with
    | error refusal => exact ⟨nofun, fun h => h.2.2.elim⟩
    | ok item =>
      cases store.activeProxy? id round caller.user with
      | none => exact ⟨nofun, fun h => h.2.2.elim⟩
      | some proxy => exact ⟨nofun, fun h => h.2.2.elim⟩

/-- Of the proxies, one that is put changes nothing exactly if the caller had it already. -/
theorem proxies_ceilingPut_eq_iff (kept : store.ProxiesKept) {ceiling : Decimal} :
    let put := ceilingPut store caller id round ceiling
    put.2.proxies = store.proxies ↔ store.activeProxy? id round caller.user = some put.1 := by
  intro put
  obtain ⟨user_eq, item_eq, round_eq, active, -⟩ := ceilingPut_saved store caller id round ceiling
  rw [kept.activeProxy?_eq_some_iff]
  constructor
  · intro same
    have found : put.2.proxies.get? put.1.id = some put.1 := Store.get?_putProxy_self _ _
    rw [same] at found
    have value := Table.mem_values.2 ⟨_, found⟩
    exact ⟨Store.mem_activeProxies.2 ⟨value, active, item_eq, round_eq⟩, user_eq⟩
  · rintro ⟨mem, -⟩
    have found := kept.keyed.get?_eq_some (Store.mem_activeProxies.1 mem).1
    have put_eq : put.2.proxies = store.proxies.insert put.1.id put.1 :=
      Store.proxies_putProxy _ _
    rw [put_eq]
    apply Table.eq_of_get?
    intro key
    rw [Table.get?_insert]
    split
    · next equal => rw [equal, found]
    · rfl

/-- In every state that a run comes to, a call stops at its arithmetic exactly if it overflows, and
the fault is that of a sum.  A bid, a purchase and a ceiling taken back leave the store as it was
then.  A ceiling leaves the items and the bids, but it stays put for its user in place of the one
before, so that the proxies are as they were only if the user had the same one already. -/
theorem overflow_leaves (house : House) (events : List Event) (caller : Caller) (call : Call)
    (fault : Fault) :
    let before := house.run events
    let served := house.perform before caller call
    (served.1 = .error (.faulted fault) ↔
      fault = .sumTooLarge ∧ house.Overflows before caller call) ∧
    (served.1 = .error (.faulted fault) →
      served.2.items = before.items ∧ served.2.ledger = before.ledger ∧
      ((∀ id round ceiling, call ≠ .setProxy id round ceiling) → served.2 = before) ∧
      ∀ id round ceiling, call = .setProxy id round ceiling →
        ∃ saved : Proxy, saved.ceiling = ceiling.roundCents ∧
          served.2.activeProxy? id round caller.user = some saved ∧
          served.2.proxies = before.proxies.insert saved.id saved ∧
          (served.2.proxies = before.proxies ↔
            before.activeProxy? id round caller.user = some saved)) := by
  intro before served
  have kept := kept_run house events
  have left_of {left : Store} := @faulted_iff house before caller fault kept call left
  constructor
  · constructor
    · intro faulted
      exact (left_of.1 (Prod.ext faulted rfl)).2
    · intro overflows
      exact congrArg Prod.fst (left_of.2 ⟨rfl, overflows⟩)
  · intro faulted
    have left_eq : served.2 = leftBy before caller call := (left_of.1 (Prod.ext faulted rfl)).1
    rw [left_eq]
    cases call with
    | setProxy id round ceiling =>
      refine ⟨Store.items_putProxy, ledger_ceilingPut before caller id round ceiling, ?_, ?_⟩
      · intro other
        exact absurd rfl (other id round ceiling)
      · rintro _ _ _ ⟨⟩
        obtain ⟨user_eq, -, -, -, ceiling_eq⟩ := ceilingPut_saved before caller id round ceiling
        obtain ⟨item, taken, -⟩ := (left_of.1 (Prod.ext faulted rfl)).2.2
        have put_kept := (kept.ceilingPut taken).proxies
        refine ⟨(ceilingPut before caller id round ceiling).1, ceiling_eq, ?_,
          Store.proxies_putProxy _ _, proxies_ceilingPut_eq_iff kept.proxies⟩
        exact put_kept.activeProxy?_eq_some_iff.2 ⟨saved_mem_ceilingPut kept.proxies, user_eq⟩
    | placeBid | placeBuyNow | removeProxy => exact ⟨rfl, rfl, fun _ => rfl, nofun⟩

theorem overflow_leaves_vase :
    let vase : Item := { Item.vase with bidStep := .whole 2 }
    let events : List Event := [.register vase,
      .call ⟨2, .hour 1⟩ (.setProxy 1 0 (.whole 79228162514264337593543950335))]
    let call : Call := .setProxy 1 0 (.whole 79228162514264337593543950334)
    Overflows {} (run {} events) ⟨3, .hour 2⟩ call ∧
      ∃ after,
        perform {} (run {} events) ⟨3, .hour 2⟩ call = (.error (.faulted .sumTooLarge), after) ∧
        after.ledger = [] ∧ after.proxies ≠ (run {} events).proxies ∧
        ∃ saved, after.activeProxy? 1 0 3 = some saved ∧
          saved.ceiling = .whole 79228162514264337593543950334 := by
  intro vase events call
  have faulted : (perform {} (run {} events) ⟨3, .hour 2⟩ call).1 =
      .error (.faulted .sumTooLarge) := by
    decide +kernel
  obtain ⟨after, served_eq⟩ : ∃ after, perform {} (run {} events) ⟨3, .hour 2⟩ call =
      (.error (.faulted .sumTooLarge), after) := by
    rw [← faulted]
    exact ⟨_, Prod.mk.eta.symm⟩
  obtain ⟨fault_iff, left⟩ := overflow_leaves {} events ⟨3, .hour 2⟩ call .sumTooLarge
  rw [served_eq] at fault_iff left
  obtain ⟨-, ledger_eq, -, put⟩ := left rfl
  obtain ⟨saved, ceiling_eq, stands, -, same_iff⟩ :=
    put 1 0 (.whole 79228162514264337593543950334) rfl
  rw [Decimal.roundCents, Decimal.round_of_scale_le (Nat.zero_le 2)] at ceiling_eq
  have empty : (run {} events).ledger = [] := by decide +kernel
  have fresh : (run {} events).activeProxy? 1 0 3 = none := by decide +kernel
  refine ⟨(fault_iff.1 rfl).2, after, served_eq, ledger_eq.trans empty, ?_, saved, stands,
    ceiling_eq⟩
  intro same
  rw [same_iff.1 same] at fresh
  cases fresh

end House

end AuctionHouse
