import AuctionHouse.Proofs.House.IdleProxy

/-!
# Ceilings alone make a second price

In a round that gets ceilings only, each user's never going down, the order of the ceilings does not
matter: the highest one wins, at a price between the second highest one and a step above it.  What
every ceiling keeps (`Raced.next`) is that each of those submitted is at or below the price or
covered by its user's active proxy, and that the price is at most the leader's ceiling and a step
above that of another user.
-/

namespace AuctionHouse

/-- A ceiling that a user submits. -/
structure Submission where
  caller : Caller
  ceiling : Decimal

namespace Submission

/-- The user who submits a ceiling. -/
def user (submission : Submission) : UserId := submission.caller.user

/-- The ceiling in cents. -/
def amount (submission : Submission) : Decimal := submission.ceiling.roundCents

/-- The event that a submission is in a round. -/
def event (id : ItemId) (round : Round) (submission : Submission) : Event :=
  .call submission.caller (.setProxy id round submission.ceiling)

/-- The largest amount that a user has submitted. -/
def largest? (user : UserId) : List Submission → Option Decimal
  | [] => none
  | submission :: rest =>
    if submission.user = user then
      match largest? user rest with
      | none => some submission.amount
      | some amount => some (max submission.amount amount)
    else largest? user rest

variable {submissions : List Submission} {submission : Submission} {user : UserId}
  {amount : Decimal}

theorem exists_of_largest? (found : largest? user submissions = some amount) :
    ∃ submission ∈ submissions, submission.user = user ∧ submission.amount = amount := by
  induction submissions generalizing amount with
  | nil => cases found
  | cons head rest ih =>
    rw [largest?] at found
    have in_rest {amount : Decimal} (later : largest? user rest = some amount) :
        ∃ submission ∈ head :: rest, submission.user = user ∧ submission.amount = amount := by
      obtain ⟨submission, mem, own, amount_eq⟩ := ih later
      exact ⟨submission, List.mem_cons_of_mem _ mem, own, amount_eq⟩
    by_cases own : head.user = user
    · rw [if_pos own] at found
      cases later : largest? user rest with
      | none =>
        rw [later] at found
        exact ⟨head, List.mem_cons_self, own, Option.some.inj found⟩
      | some other =>
        simp only [later, Option.some.injEq] at found
        rw [← found, Decimal.max_def]
        split
        · exact in_rest later
        · exact ⟨head, List.mem_cons_self, own, rfl⟩
    · rw [if_neg own] at found
      exact in_rest found

theorem le_largest? (mem : submission ∈ submissions) :
    ∃ amount, largest? submission.user submissions = some amount ∧ submission.amount ≤ amount := by
  induction submissions with
  | nil => cases mem
  | cons head rest ih =>
    rw [largest?]
    rcases List.mem_cons.1 mem with rfl | later
    · rw [if_pos rfl]
      cases largest? submission.user rest with
      | none => exact ⟨_, rfl, Decimal.le_refl _⟩
      | some other =>
        exact ⟨_, rfl, Decimal.le_max_left _ _⟩
    · obtain ⟨amount, found, amount_le⟩ := ih later
      rw [found]
      by_cases own : head.user = submission.user
      · rw [if_pos own]
        exact ⟨_, rfl, le_trans amount_le (Decimal.le_max_right _ _)⟩
      · rw [if_neg own]
        exact ⟨amount, rfl, amount_le⟩

/-- No amount of a user is above the largest one. -/
theorem amount_le_of_largest? (found : largest? user submissions = some amount)
    (mem : submission ∈ submissions) (own : submission.user = user) :
    submission.amount ≤ amount := by
  obtain ⟨largest, found', amount_le⟩ := le_largest? mem
  rw [own, found, Option.some.injEq] at found'
  exact found' ▸ amount_le

end Submission

namespace House

/-- The submissions of users who may bid. -/
def admitted (house : House) (submissions : List Submission) : List Submission :=
  submissions.filter fun submission => house.mayBid submission.user

theorem admitted_concat (house : House) (submissions : List Submission) (submission : Submission) :
    house.admitted (submissions ++ [submission]) =
      house.admitted submissions ++ if house.mayBid submission.user then [submission] else [] := by
  unfold admitted
  rw [List.filter_append, List.filter_singleton]
  cases house.mayBid submission.user <;> rfl

/-- Whether a price is covered by the leader and has been contested: it is at most the leader's
active ceiling, and a step above an amount that another user has submitted. -/
def Contested (item : Item) (proxies : List Proxy) (submissions : List Submission) (leader : UserId)
    (price : Decimal) : Prop :=
  (∃ proxy ∈ proxies, proxy.user = leader ∧ price ≤ proxy.ceiling) ∧
    ∃ submission ∈ submissions, submission.user ≠ leader ∧
      price.value ≤ submission.amount.value + item.bidStep.value

/-- What is kept of a round that gets ceilings only. -/
structure Raced (store : Store) (item : Item) (round : Round) (submissions : List Submission) : Prop
    extends Balanced store item round where
  covered : ∀ submission ∈ submissions,
    submission.amount ≤ (store.standing item round).minPrice ∨
      ∃ proxy ∈ store.activeProxies item.id round, proxy.user = submission.user ∧
        submission.amount ≤ proxy.ceiling
  submitted : ∀ proxy ∈ store.activeProxies item.id round,
    ∃ submission ∈ submissions, submission.user = proxy.user ∧ submission.amount = proxy.ceiling
  contested : ∀ lead, (store.standing item round).lead = some lead →
    Contested item (store.activeProxies item.id round) submissions lead.user
      (store.standing item round).minPrice

section Next

variable {house : House} {store : Store} {item : Item} {round : Round}
  {submissions : List Submission} {submission : Submission} {bids : List NewBid}

theorem minPrice_le_ceiling (store : Store) (caller : Caller) (ceiling : Decimal) (item : Item)
    (round : Round) (bids : List NewBid) :
    (store.standing item round).minPrice ≤
      (((ceilingPut store caller item.id round ceiling).2.append bids).2.standing item
        round).minPrice := by
  have bids_eq : (ceilingPut store caller item.id round ceiling).2.bidsFor item.id round =
      store.bidsFor item.id round := Store.bidsFor_putProxy _ _
  unfold Store.standing
  rw [Store.bidsFor_append, bids_eq]
  exact Ranking.minPrice_le_append _ _ _

/-- Of two ceilings that are settled, the loser's contests the price. -/
theorem Raced.contested_rivalry (kept : house.Kept store)
    (raced : Raced store item round submissions) {rival : Proxy}
    (rival_mem : rival ∈ store.activeProxies item.id round)
    (other : rival.user ≠ submission.caller.user) {leader : UserId} {price : Decimal}
    (leader_eq : leader = if submission.ceiling.roundCents < rival.ceiling then rival.user
      else submission.caller.user)
    (price_eq : price.value =
      min (min submission.ceiling.roundCents.value rival.ceiling.value + item.bidStep.value)
        (max submission.ceiling.roundCents.value rival.ceiling.value)) :
    Contested item
      ((ceilingPut store submission.caller item.id round submission.ceiling).2.activeProxies item.id
        round) (submissions ++ [submission]) leader price := by
  have rival_mem_after : rival ∈
      (ceilingPut store submission.caller item.id round submission.ceiling).2.activeProxies item.id
        round := by
    rw [mem_activeProxies_ceilingPut kept.proxies]
    exact .inr ⟨rival_mem, fun own => other own.2.2⟩
  obtain ⟨saved_user, -, -, -, saved_ceiling⟩ :=
    ceilingPut_saved store submission.caller item.id round submission.ceiling
  by_cases less : submission.ceiling.roundCents < rival.ceiling
  · have less_value := (Decimal.lt_iff_value_lt.1 less).le
    rw [min_eq_left less_value, max_eq_right less_value] at price_eq
    rw [leader_eq, if_pos less]
    refine ⟨⟨rival, rival_mem_after, rfl, ?_⟩, submission,
      List.mem_append_right _ List.mem_cons_self, other.symm, ?_⟩
    · rw [Decimal.le_iff_value_le, price_eq]
      exact min_le_right _ _
    · rw [price_eq]
      exact min_le_left _ _
  · have rival_le := Decimal.le_iff_value_le.1 (Decimal.not_lt.1 less)
    rw [min_eq_right rival_le, max_eq_left rival_le] at price_eq
    rw [leader_eq, if_neg less]
    obtain ⟨earlier, earlier_mem, earlier_user, earlier_amount⟩ := raced.submitted rival rival_mem
    refine ⟨⟨_, saved_mem_ceilingPut kept.proxies, saved_user, ?_⟩, earlier,
      List.mem_append_left _ earlier_mem, ?_, ?_⟩
    · rw [saved_ceiling, Decimal.le_iff_value_le, price_eq]
      exact min_le_right _ _
    · rw [earlier_user]
      exact other
    · rw [earlier_amount, price_eq]
      exact min_le_left _ _

/-- When a ceiling opens, that of the leader before is at the price and contests the new one. -/
theorem Raced.contested_opening (kept : house.Kept store)
    (raced : Raced store item round submissions) {previous : Bid}
    (previous_leads : (store.standing item round).lead = some previous)
    (other : previous.user ≠ submission.caller.user) {price : Decimal}
    (price_eq : price.value = min ((store.standing item round).minPrice.value + item.bidStep.value)
      submission.ceiling.roundCents.value) :
    Contested item
      ((ceilingPut store submission.caller item.id round submission.ceiling).2.activeProxies item.id
        round) (submissions ++ [submission]) submission.caller.user price := by
  obtain ⟨saved_user, -, -, -, saved_ceiling⟩ :=
    ceilingPut_saved store submission.caller item.id round submission.ceiling
  obtain ⟨⟨proxy, proxy_mem, proxy_user, price_le⟩, -⟩ := raced.contested previous previous_leads
  obtain ⟨earlier, earlier_mem, earlier_user, earlier_amount⟩ := raced.submitted proxy proxy_mem
  refine ⟨⟨_, saved_mem_ceilingPut kept.proxies, saved_user, ?_⟩, earlier,
    List.mem_append_left _ earlier_mem, ?_, ?_⟩
  · rw [saved_ceiling, Decimal.le_iff_value_le, price_eq]
    exact min_le_right _ _
  · rw [earlier_user, proxy_user]
    exact other
  · rw [earlier_amount, price_eq]
    exact (min_le_left _ _).trans (add_le_add_left (Decimal.le_iff_value_le.1 price_le) _)

/-- The lead after a ceiling is covered and contested. -/
theorem Raced.contested_next (kept : house.Kept store) (raced : Raced store item round submissions)
    (amount_le : submission.amount.value ≤ roof)
    (taken : CeilingTaken house store submission.caller item.id round submission.ceiling item)
    (answered : house.ceilingAnswer store submission.caller item.id round submission.ceiling item =
      .ok bids) {lead : Bid} :
    let put := ceilingPut store submission.caller item.id round submission.ceiling
    ((put.2.append bids).2.standing item round).lead = some lead →
      Contested item (put.2.activeProxies item.id round) (submissions ++ [submission]) lead.user
        ((put.2.append bids).2.standing item round).minPrice := by
  intro put leads
  unfold ceilingAnswer at answered
  rcases ceilingBids_cases house.config.proxyOrdering item round submission.caller
    submission.ceiling.roundCents (store.standing item round)
    (put.2.activeProxies item.id round) with
    ⟨rival, strongest, able, eq⟩ | ⟨-, alone, eq⟩ | ⟨-, ⟨leader, leading, other⟩, eq⟩
  · rcases cases_of_mem_ceilingPut kept.proxies strongest.mem with ⟨own, -⟩ | ⟨rival_mem, -⟩
    · exact absurd own strongest.other
    obtain ⟨bids', settled, lead', lead_user, -, lead_value, standing_eq⟩ :=
      rivalry_settles kept raced.toOrderly taken amount_le rival_mem able
    obtain rfl : bids = bids' := Except.ok.inj (answered.symm.trans (eq.trans settled))
    rw [show (put.2.append bids).2.standing item round = _ from standing_eq] at leads ⊢
    obtain rfl : lead' = lead := Option.some.inj leads
    exact raced.contested_rivalry kept rival_mem strongest.other lead_user lead_value
  · obtain rfl : bids = [] := Except.ok.inj (answered.symm.trans eq)
    obtain ⟨-, -, -, -, above⟩ := Validation.ceilingViolations_eq_nil_iff.1 taken.valid
    obtain ⟨saved_user, -, -, -, saved_ceiling⟩ :=
      ceilingPut_saved store submission.caller item.id round submission.ceiling
    rw [Store.append_nil, standing_ceilingPut] at leads ⊢
    obtain ⟨-, earlier, earlier_mem, earlier_other, step_above⟩ := raced.contested lead leads
    have led : lead.user = submission.caller.user := by
      apply alone
      rw [Standing.leader?, leads]
      rfl
    refine ⟨⟨put.1, saved_mem_ceilingPut kept.proxies, saved_user.trans led.symm, ?_⟩, earlier,
      List.mem_append_left _ earlier_mem, earlier_other, step_above⟩
    rw [saved_ceiling]
    exact Decimal.le_of_lt above
  · obtain ⟨previous, previous_leads, rfl⟩ := Option.map_eq_some_iff.1 leading
    obtain ⟨bids', opened, lead', lead_user, -, lead_value, standing_eq⟩ :=
      opening_settles kept raced.toOrderly taken previous_leads
    obtain rfl : bids = bids' := Except.ok.inj (answered.symm.trans (eq.trans opened))
    rw [show (put.2.append bids).2.standing item round = _ from standing_eq] at leads ⊢
    obtain rfl : lead' = lead := Option.some.inj leads
    rw [lead_user]
    exact raced.contested_opening kept previous_leads other lead_value

/-- A ceiling that is taken is kept track of if it is not below those that its user submitted
before. -/
theorem Raced.next (kept : house.Kept store) (raced : Raced store item round submissions)
    (amount_le : submission.amount.value ≤ roof)
    (taken : CeilingTaken house store submission.caller item.id round submission.ceiling item)
    (rising : ∀ earlier ∈ submissions, earlier.user = submission.user →
      earlier.amount ≤ submission.amount) :
    ∃ bids, house.ceilingAnswer store submission.caller item.id round submission.ceiling item =
        .ok bids ∧
      Raced ((ceilingPut store submission.caller item.id round submission.ceiling).2.append bids).2
        item round (submissions ++ [submission]) := by
  obtain ⟨bids, answered, balanced⟩ := raced.ceiling_taken kept amount_le taken
  obtain ⟨saved_user, -, -, -, saved_ceiling⟩ :=
    ceilingPut_saved store submission.caller item.id round submission.ceiling
  have saved_mem := @saved_mem_ceilingPut store submission.caller item.id round submission.ceiling
    kept.proxies
  have price_le := minPrice_le_ceiling store submission.caller submission.ceiling item round bids
  refine ⟨bids, answered, balanced, ?_, ?_, ?_⟩
  · rw [Store.activeProxies_append]
    intro other mem
    by_cases own : other.user = submission.user
    · right
      refine ⟨_, saved_mem, saved_user.trans own.symm, ?_⟩
      rw [saved_ceiling]
      rcases List.mem_append.1 mem with old | new
      · exact rising other old own
      · rw [List.mem_singleton.1 new]
        exact Decimal.le_refl _
    · rcases List.mem_append.1 mem with old | new
      · rcases raced.covered other old with beaten | ⟨proxy, proxy_mem, proxy_user, amount_le⟩
        · exact .inl (le_trans beaten price_le)
        · refine .inr ⟨proxy, ?_, proxy_user, amount_le⟩
          rw [mem_activeProxies_ceilingPut kept.proxies]
          exact .inr ⟨proxy_mem, fun h => own (proxy_user.symm.trans h.2.2)⟩
      · exact absurd (congrArg Submission.user (List.mem_singleton.1 new)) own
  · rw [Store.activeProxies_append]
    intro proxy mem
    rcases cases_of_mem_ceilingPut kept.proxies mem with ⟨own, eq, -⟩ | ⟨old, -⟩
    · exact ⟨submission, List.mem_append_right _ List.mem_cons_self, own.symm, eq.symm⟩
    · obtain ⟨earlier, earlier_mem, earlier_eq⟩ := raced.submitted proxy old
      exact ⟨earlier, List.mem_append_left _ earlier_mem, earlier_eq⟩
  · rw [Store.activeProxies_append]
    intro lead leads
    exact raced.contested_next kept amount_le taken answered leads

/-- A submission at or below the price changes nothing. -/
theorem Raced.beaten (raced : Raced store item round submissions)
    (beaten : submission.amount ≤ (store.standing item round).minPrice) :
    Raced store item round (submissions ++ [submission]) := by
  refine ⟨raced.toBalanced, ?_, ?_, ?_⟩
  · intro other mem
    rcases List.mem_append.1 mem with old | new
    · exact raced.covered other old
    · rw [List.mem_singleton.1 new]
      exact .inl beaten
  · intro proxy mem
    obtain ⟨earlier, earlier_mem, earlier_eq⟩ := raced.submitted proxy mem
    exact ⟨earlier, List.mem_append_left _ earlier_mem, earlier_eq⟩
  · intro lead leads
    obtain ⟨covered, earlier, earlier_mem, earlier_eq⟩ := raced.contested lead leads
    exact ⟨covered, earlier, List.mem_append_left _ earlier_mem, earlier_eq⟩

end Next

section Run

variable {house : House} {store : Store} {item : Item} {submissions : List Submission}

/-- A ceiling is taken at an open time if it is above the price. -/
theorem ceilingTaken_of_lt {round : Round} {caller : Caller} {ceiling : Decimal}
    (authorized : house.mayBid caller.user = true) (listed : store.item? item.id = some item)
    (current : item.round = round) (sound : item.problems = [])
    (enabled : house.config.autobidEnabled = true) (biddable : item.instantOnly = false)
    (opened : Validation.statusViolations item (item.window.statusAt caller.now) .ceiling = [])
    (above : (store.standing item round).minPrice < ceiling.roundCents) :
    CeilingTaken house store caller item.id round ceiling item := by
  have start_lt : item.startingPrice < ceiling.roundCents :=
    lt_of_le_of_lt (Ranking.startingPrice_le_minPrice _ _) above
  refine ⟨authorized, listed, current, ?_⟩
  refine Validation.ceilingViolations_eq_nil_iff.2 ⟨enabled, biddable, opened, ?_, above⟩
  rw [Decimal.lt_iff_value_lt, Decimal.value_zero]
  exact (Item.startingPrice_pos sound).trans (Decimal.lt_iff_value_lt.1 start_lt)

/-- A submission at an open time is kept track of if it is not below those of its user before.  It
is not counted if its user may not bid. -/
theorem Raced.step (kept : house.Kept store) (listed : store.item? item.id = some item)
    (raced : Raced store item item.round (house.admitted submissions))
    (enabled : house.config.autobidEnabled = true) (biddable : item.instantOnly = false)
    {submission : Submission} (opened : Validation.statusViolations item
      (item.window.statusAt submission.caller.now) .ceiling = [])
    (bounded : submission.ceiling.value < roof)
    (rising : ∀ earlier ∈ submissions, earlier.user = submission.user →
      earlier.ceiling ≤ submission.ceiling) :
    let after := house.step store (submission.event item.id item.round)
    after.item? item.id = some item ∧
      Raced after item item.round (house.admitted (submissions ++ [submission])) := by
  intro after
  have after_eq : after = (house.perform store submission.caller
    (.setProxy item.id item.round submission.ceiling)).2 := rfl
  rw [after_eq, admitted_concat]
  by_cases taken : CeilingTaken house store submission.caller item.id item.round submission.ceiling
    item
  · have authorized : house.mayBid submission.user = true := taken.authorized
    obtain ⟨bids, answered, raced_after⟩ := raced.next kept
      (value_roundCents_le_roof bounded.le) taken (by
        intro earlier mem own
        have earlier_mem := (List.mem_filter.1 mem).1
        exact Decimal.roundCents_le_roundCents (rising earlier earlier_mem own))
    rw [perform_setProxy_of_taken taken, answered, if_pos authorized]
    refine ⟨?_, raced_after⟩
    rw [Store.item?_append, item?_ceilingPut]
    exact listed
  · have refused : (house.perform store submission.caller
        (.setProxy item.id item.round submission.ceiling)).2 = store := by
      rw [perform_setProxy]
      cases accepted : house.ceilingItem store submission.caller item.id item.round
        submission.ceiling with
      | error refusal => rfl
      | ok other =>
        have other_taken := ceilingItem_eq_ok_iff.1 accepted
        rw [Option.some.inj (other_taken.listed.symm.trans listed)] at other_taken
        exact absurd other_taken taken
    rw [refused]
    refine ⟨listed, ?_⟩
    by_cases authorized : house.mayBid submission.user = true
    · have sound := (kept.items item.id item listed).2
      rw [if_pos authorized]
      apply raced.beaten
      rw [← Decimal.not_lt]
      intro above
      exact taken
        (ceilingTaken_of_lt authorized listed rfl sound enabled biddable opened above)
    · rw [if_neg authorized, List.append_nil]
      exact raced

/-- After any submissions at open times, each user's never going down, the round is what is kept of
it. -/
theorem raced_runFrom (kept : house.Kept store) (listed : store.item? item.id = some item)
    (fresh : Raced store item item.round []) (enabled : house.config.autobidEnabled = true)
    (biddable : item.instantOnly = false)
    (opened : ∀ submission ∈ submissions, Validation.statusViolations item
      (item.window.statusAt submission.caller.now) .ceiling = [])
    (bounded : ∀ submission ∈ submissions, submission.ceiling.value < roof)
    (rising : submissions.Pairwise fun earlier later =>
      earlier.user = later.user → earlier.ceiling ≤ later.ceiling) :
    let after := house.runFrom store (submissions.map (·.event item.id item.round))
    house.Kept after ∧ after.item? item.id = some item ∧
      Raced after item item.round (house.admitted submissions) := by
  induction submissions using List.reverseRecOn with
  | nil => exact ⟨kept, listed, fresh⟩
  | append_singleton submissions submission ih =>
    rw [List.pairwise_append] at rising
    obtain ⟨rising_before, -, rising_last⟩ := rising
    obtain ⟨kept_before, listed_before, raced⟩ := ih
      (fun earlier mem => opened earlier (List.mem_append_left _ mem))
      (fun earlier mem => bounded earlier (List.mem_append_left _ mem)) rising_before
    have last_mem : submission ∈ submissions ++ [submission] :=
      List.mem_append_right _ List.mem_cons_self
    rw [List.map_append, List.map_singleton, runFrom_concat]
    refine ⟨kept_before.step _, ?_⟩
    apply raced.step kept_before listed_before enabled biddable (opened submission last_mem)
      (bounded submission last_mem)
    intro earlier earlier_mem own
    exact rising_last earlier earlier_mem submission List.mem_cons_self own

/-- The highest ceiling wins a round that is kept track of, at a second price. -/
theorem Raced.second_price {round : Round} (raced : Raced store item round submissions)
    (sound : item.problems = []) {winner second : UserId} {top next : Decimal}
    (highest : Submission.largest? winner submissions = some top)
    (second_highest : Submission.largest? second submissions = some next)
    (different : second ≠ winner)
    (others : ∀ user amount, user ≠ winner →
      Submission.largest? user submissions = some amount → amount ≤ next)
    (next_lt : next < top) (start_lt : item.startingPrice < next) :
    (store.standing item round).leader? = some winner ∧
      next ≤ (store.standing item round).minPrice ∧
      ∃ sum, next.add item.bidStep = .ok sum ∧
        (store.standing item round).minPrice ≤ (min sum top).roundCents := by
  obtain ⟨first, first_mem, first_user, first_amount⟩ := Submission.exists_of_largest? highest
  obtain ⟨rival, rival_mem, rival_user, rival_amount⟩ :=
    Submission.exists_of_largest? second_highest
  have other_le {submission : Submission} (mem : submission ∈ submissions)
      (other : submission.user ≠ winner) : submission.amount ≤ next := by
    obtain ⟨amount, found, amount_le⟩ := Submission.le_largest? mem
    exact le_trans amount_le (others _ _ other found)
  have proxy_le {proxy : Proxy} (mem : proxy ∈ store.activeProxies item.id round)
      (other : proxy.user ≠ winner) : proxy.ceiling ≤ next := by
    obtain ⟨submission, submission_mem, own, amount_eq⟩ := raced.submitted proxy mem
    exact amount_eq ▸ other_le submission_mem (own ▸ other)
  cases leading : (store.standing item round).lead with
  | none =>
    -- Both highest ceilings would be active, but without a bid there is one at most.
    have price_eq : (store.standing item round).minPrice = item.startingPrice := by
      have eq : store.standing item round = ⟨item.startingPrice, none⟩ :=
        Ranking.standing_of_none leading
      rw [eq]
    have active {submission : Submission} (mem : submission ∈ submissions)
        (above : item.startingPrice < submission.amount) :
        ∃ proxy ∈ store.activeProxies item.id round, proxy.user = submission.user := by
      rcases raced.covered submission mem with beaten | ⟨proxy, proxy_mem, own, -⟩
      · rw [price_eq] at beaten
        exact absurd above (Decimal.not_lt.2 beaten)
      · exact ⟨proxy, proxy_mem, own⟩
    obtain ⟨p, p_mem, p_user⟩ := active first_mem (first_amount ▸ lt_trans start_lt next_lt)
    obtain ⟨q, q_mem, q_user⟩ := active rival_mem (rival_amount ▸ start_lt)
    have same := (raced.fresh leading).2 p p_mem q q_mem
    rw [← same, p_user, first_user, rival_user] at q_user
    exact absurd q_user.symm different
  | some lead =>
    obtain ⟨⟨proxy, proxy_mem, proxy_user, price_le⟩, earlier, earlier_mem, earlier_other,
      step_above⟩ := raced.contested lead leading
    have led : lead.user = winner := by
      by_contra other
      have price_le_next := le_trans price_le (proxy_le proxy_mem (proxy_user ▸ other))
      rcases raced.covered first first_mem with beaten | ⟨own, own_mem, own_user, amount_le⟩
      · rw [first_amount] at beaten
        exact absurd next_lt (Decimal.not_lt.2 (le_trans beaten price_le_next))
      · rw [first_amount] at amount_le
        rcases raced.leads lead leading own own_mem with led | beaten
        · exact other (led.symm.trans (own_user.trans first_user))
        · have top_le := le_trans amount_le (le_trans beaten price_le_next)
          exact absurd next_lt (Decimal.not_lt.2 top_le)
    have next_le : next ≤ (store.standing item round).minPrice := by
      rcases raced.covered rival rival_mem with beaten | ⟨own, own_mem, own_user, amount_le⟩
      · exact rival_amount ▸ beaten
      · rcases raced.leads lead leading own own_mem with own_leads | beaten
        · exact absurd (rival_user.symm.trans (own_user.symm.trans (own_leads.trans led))) different
        · exact rival_amount ▸ le_trans amount_le beaten
    have whole_next : next.IsCents := rival_amount ▸ Decimal.isCents_roundCents _
    have whole_top : top.IsCents := first_amount ▸ Decimal.isCents_roundCents _
    have start_pos := Item.startingPrice_pos sound
    obtain ⟨sum, added, whole_sum, sum_value⟩ := raced.exists_sum sound whole_next
      (start_pos.trans (Decimal.lt_iff_value_lt.1 start_lt)).le
      ((Decimal.le_iff_value_le.1 next_le).trans raced.price_le)
    refine ⟨?_, next_le, sum, added, ?_⟩
    · rw [Standing.leader?, leading, ← led]
      rfl
    · rw [Decimal.le_iff_value_le, Settlement.value_roundCents_min whole_sum whole_top, sum_value]
      apply le_min
      · have earlier_le := Decimal.le_iff_value_le.1 (other_le earlier_mem (led ▸ earlier_other))
        linarith
      · obtain ⟨submission, mem, own, amount_eq⟩ := raced.submitted proxy proxy_mem
        have ceiling_le := Submission.amount_le_of_largest? highest mem
          (own.trans (proxy_user.trans led))
        rw [amount_eq] at ceiling_le
        exact Decimal.le_iff_value_le.1 (le_trans price_le ceiling_le)

/-- In a fresh round that gets ceilings only, in any order and at open times, each user's never
going down: if one user's largest ceiling is above all others' and the next one is above the
starting price, that user leads in the end, at a price between the next one and a step above it. -/
theorem proxy_second_price (house : House) (events : List Event) {item : Item}
    (listed : (house.run events).item? item.id = some item)
    (no_bids : (house.run events).bidsFor item.id item.round = [])
    (no_proxies : (house.run events).activeProxies item.id item.round = [])
    (enabled : house.config.autobidEnabled = true) (biddable : item.instantOnly = false)
    (whole : item.bidStep.IsCents) (step_lt : item.bidStep.value < roof)
    (start_lt_roof : item.startingPrice.value < roof)
    (submissions : List Submission)
    (opened : ∀ submission ∈ submissions, Validation.statusViolations item
      (item.window.statusAt submission.caller.now) .ceiling = [])
    (bounded : ∀ submission ∈ submissions, submission.ceiling.value < roof)
    (rising : submissions.Pairwise fun earlier later =>
      earlier.user = later.user → earlier.ceiling ≤ later.ceiling)
    {winner second : UserId} {top next : Decimal}
    (highest : Submission.largest? winner (house.admitted submissions) = some top)
    (second_highest : Submission.largest? second (house.admitted submissions) = some next)
    (different : second ≠ winner)
    (others : ∀ user amount, user ≠ winner →
      Submission.largest? user (house.admitted submissions) = some amount → amount ≤ next)
    (next_lt : next < top) (start_lt : item.startingPrice < next) :
    let after := house.runFrom (house.run events) (submissions.map (·.event item.id item.round))
    after.item? item.id = some item ∧
      (after.standing item item.round).leader? = some winner ∧
      next ≤ (after.standing item item.round).minPrice ∧
      ∃ sum, next.add item.bidStep = .ok sum ∧
        (after.standing item item.round).minPrice ≤ (min sum top).roundCents := by
  intro after
  have kept := kept_run house events
  have sound := (kept.items item.id item listed).2
  have fresh : Raced (house.run events) item item.round [] := by
    refine ⟨balanced_of_empty no_bids no_proxies whole step_lt.le start_lt_roof.le, ?_, ?_, ?_⟩
    · intro submission mem
      cases mem
    · rw [no_proxies]
      intro proxy mem
      cases mem
    · intro lead leads
      rw [Store.standing, no_bids, Ranking.standing_nil] at leads
      cases leads
  obtain ⟨-, listed_after, raced⟩ :=
    raced_runFrom kept listed fresh enabled biddable opened bounded rising
  exact ⟨listed_after,
    raced.second_price sound highest second_highest different others next_lt start_lt⟩

theorem proxy_second_price_vase :
    let submissions : List Submission := [⟨⟨2, .hour 1⟩, .whole 20⟩, ⟨⟨3, .hour 2⟩, .whole 30⟩]
    let after := runFrom {} (run {} [.register .vase]) (submissions.map (·.event 1 0))
    (after.standing .vase 0).leader? = some 3 ∧
      (Decimal.whole 20).roundCents ≤ (after.standing .vase 0).minPrice := by
  intro submissions after
  have others : ∀ user amount, user ≠ 3 →
      Submission.largest? user (admitted {} submissions) = some amount →
        amount ≤ (Decimal.whole 20).roundCents := by
    intro user amount other found
    obtain ⟨submission, mem, rfl, rfl⟩ := Submission.exists_of_largest? found
    have mem : submission ∈ submissions := (List.mem_filter.1 mem).1
    simp only [submissions, List.mem_cons, List.not_mem_nil, or_false] at mem
    rcases mem with rfl | rfl
    · exact Decimal.le_refl _
    · exact absurd rfl other
  obtain ⟨-, leads, price_le, -⟩ := @proxy_second_price {} [.register .vase] .vase
    (by decide +kernel) (by decide +kernel) (by decide +kernel) rfl rfl
    (Decimal.isCents_of_scale_le (by decide)) (by decide +kernel) (by decide +kernel) submissions
    (by decide +kernel) (by decide +kernel) (by decide +kernel) 3 2
    (Decimal.whole 30).roundCents (Decimal.whole 20).roundCents (by decide +kernel)
    (by decide +kernel) (by decide) others (by decide +kernel) (by decide +kernel)
  exact ⟨leads, price_le⟩

end Run

end House

end AuctionHouse
