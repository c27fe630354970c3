import AuctionHouse.Proofs.House.Kept
import AuctionHouse.Proofs.Ranking
import Mathlib.Data.List.Induction

/-!
# Prices over time

An event writes at the end of the ledger and leaves the terms of every item, so the price of a round
never falls.  If the clock does not go back, a lead is only lost to a higher bid.
-/

namespace AuctionHouse

/-- Whether an item differs in its state and its round only. -/
def Item.SameTerms (item later : Item) : Prop :=
  later = { item with workflow := later.workflow, round := later.round }

namespace Item.SameTerms

variable {item later last : Item}

theorem refl (item : Item) : item.SameTerms item := rfl

theorem trans (h : item.SameTerms later) (h' : later.SameTerms last) : item.SameTerms last := by
  unfold SameTerms at *
  refine h'.trans ?_
  rw [h]

theorem id_eq (h : item.SameTerms later) : later.id = item.id := congrArg (·.id) h

theorem startingPrice_eq (h : item.SameTerms later) : later.startingPrice = item.startingPrice :=
  congrArg (·.startingPrice) h

theorem bidStep_eq (h : item.SameTerms later) : later.bidStep = item.bidStep :=
  congrArg (·.bidStep) h

end Item.SameTerms

namespace House

section Step

variable {house : House} {store : Store}

/-- What an event can do to an item. -/
inductive ItemChange (id : ItemId) (item : Item) : Event → Item → Prop where
  | same {event : Event} : ItemChange id item event item
  | relisted {round : Round} (opened : item.round.next = .ok round) :
      ItemChange id item (.relist id) (item.reopened round)
  | put {workflow : Workflow} :
      ItemChange id item (.setWorkflow id workflow) { item with workflow }
  | sold {caller : Caller} :
      ItemChange id item (.call caller (.placeBuyNow id)) { item with workflow := .finished }

theorem ItemChange.sameTerms {id : ItemId} {item later : Item} {event : Event}
    (changed : ItemChange id item event later) : item.SameTerms later := by
  cases changed <;> exact rfl

/-- Only the opening of its next round changes the round of an item. -/
theorem ItemChange.round_eq {id : ItemId} {item later : Item} {event : Event}
    (changed : ItemChange id item event later) (other : event ≠ .relist id) :
    later.round = item.round := by
  cases changed with
  | same => rfl
  | relisted => exact absurd rfl other
  | put => rfl
  | sold => rfl

/-- A change of some item does to every item what it does to its own. -/
theorem itemChange_modify {id : ItemId} {item : Item} (listed : store.item? id = some item)
    (id' : ItemId) {change : Item → Item} {event : Event}
    (changed : id = id' → ItemChange id item event (change item)) :
    ∃ later, ({ store with items := store.items.modify id' change } : Store).item? id =
      some later ∧ ItemChange id item event later := by
  rw [Store.item?_modify]
  by_cases equal : id = id'
  · refine ⟨change item, ?_, changed equal⟩
    rw [if_pos equal, ← equal, listed]
    rfl
  · exact ⟨item, (if_neg equal).trans listed, .same⟩

theorem itemChange_served {caller : Caller} {call : Call} {answer : Except Stop Outcome}
    {after : Store} {id : ItemId} {item : Item}
    (served : Served house store caller call answer after) (listed : store.item? id = some item) :
    ∃ later, after.item? id = some later ∧ ItemChange id item (.call caller call) later := by
  cases served with
  | stopped => exact ⟨item, listed, .same⟩
  | bid taken => exact ⟨item, (Store.item?_append _ _ _).trans listed, .same⟩
  | @purchase id' sold_item taken =>
    apply itemChange_modify listed id'
    rintro rfl
    exact .sold
  | ceiling taken answered =>
    exact ⟨item, (Store.item?_append _ _ _).trans ((item?_ceilingPut ..).trans listed), .same⟩
  | ceilingFault taken answered => exact ⟨item, (item?_ceilingPut ..).trans listed, .same⟩
  | noRemoval => exact ⟨item, listed, .same⟩
  | removal => exact ⟨item, (Store.item?_putProxy id).trans listed, .same⟩

/-- An event does to every item what it can. -/
theorem itemChange_step (house : House) {id : ItemId} {item : Item}
    (listed : store.item? id = some item) (event : Event) :
    ∃ later, (house.step store event).item? id = some later ∧ ItemChange id item event later := by
  have changed := change house store event
  generalize house.step store event = after at changed ⊢
  cases changed with
  | call served => exact itemChange_served served listed
  | @relist id' item' round listed' opened =>
    apply itemChange_modify listed
    rintro rfl
    rw [listed, Option.some.injEq] at listed'
    subst listed'
    exact .relisted opened
  | setWorkflow =>
    apply itemChange_modify listed
    rintro rfl
    exact .put
  | @register item' valid fresh =>
    refine ⟨item, ?_, .same⟩
    rw [Store.item?_insertItem, if_neg, listed]
    rintro rfl
    rw [fresh] at listed
    cases listed
  | nothing => exact ⟨item, listed, .same⟩

/-- An event leaves the terms of every item. -/
theorem item?_step {id : ItemId} {item : Item} (listed : store.item? id = some item)
    (event : Event) :
    ∃ later, (house.step store event).item? id = some later ∧ item.SameTerms later := by
  obtain ⟨later, later_listed, changed⟩ := itemChange_step house listed event
  exact ⟨later, later_listed, changed.sameTerms⟩

theorem item?_modify_of_none {id : ItemId} (missing : store.item? id = none) (id' : ItemId)
    (change : Item → Item) :
    ({ store with items := store.items.modify id' change } : Store).item? id = none := by
  rw [Store.item?_modify]
  by_cases equal : id = id'
  · rw [if_pos equal, ← equal, missing]
    rfl
  · exact (if_neg equal).trans missing

theorem item?_served_of_none {caller : Caller} {call : Call} {answer : Except Stop Outcome}
    {after : Store} {id : ItemId} (served : Served house store caller call answer after)
    (missing : store.item? id = none) : after.item? id = none := by
  cases served with
  | stopped => exact missing
  | bid => exact (Store.item?_append _ _ _).trans missing
  | purchase => exact item?_modify_of_none missing _ _
  | ceiling => exact (Store.item?_append _ _ _).trans ((item?_ceilingPut ..).trans missing)
  | ceilingFault => exact (item?_ceilingPut ..).trans missing
  | noRemoval => exact missing
  | removal => exact (Store.item?_putProxy id).trans missing

/-- An item only comes by being put up. -/
theorem item?_step_of_none {id : ItemId} (missing : store.item? id = none) {event : Event}
    {item : Item} (listed : (house.step store event).item? id = some item) :
    event = .register item ∧ house.step store event = store.insertItem item ∧ item.id = id := by
  have changed := change house store event
  generalize house.step store event = after at changed listed ⊢
  have absent (none_there : after.item? id = none) : False := by
    rw [none_there] at listed
    cases listed
  cases changed with
  | call served => exact (absent (item?_served_of_none served missing)).elim
  | relist => exact (absent (item?_modify_of_none missing _ _)).elim
  | setWorkflow => exact (absent (item?_modify_of_none missing _ _)).elim
  | @register item' valid fresh =>
    rw [Store.item?_insertItem] at listed
    by_cases equal : id = item'.id
    · rw [if_pos equal, Option.some.injEq] at listed
      subst listed
      exact ⟨rfl, rfl, equal.symm⟩
    · rw [if_neg equal, missing] at listed
      cases listed
  | nothing => exact (absent missing).elim

/-- What is not a registration leaves the numbers of the items. -/
theorem listed_step_iff {event : Event} (other : ∀ item, event ≠ .register item) (id : ItemId) :
    (∃ item, (house.step store event).item? id = some item) ↔
      ∃ item, store.item? id = some item := by
  constructor
  · rintro ⟨item, listed⟩
    cases before : store.item? id with
    | some earlier => exact ⟨earlier, rfl⟩
    | none => exact absurd (item?_step_of_none before listed).1 (other item)
  · rintro ⟨item, listed⟩
    obtain ⟨later, later_listed, -⟩ := itemChange_step house listed event
    exact ⟨later, later_listed⟩

/-- A call that stops leaves the items. -/
theorem items_step_of_stopped {caller : Caller} {call : Call} {stop : Stop}
    (stopped : (house.perform store caller call).1 = .error stop) :
    (house.step store (.call caller call)).items = store.items := by
  have served := served house store caller call
  rw [stopped] at served
  change (house.perform store caller call).2.items = store.items
  generalize (house.perform store caller call).2 = after at served ⊢
  cases served with
  | stopped => rfl
  | ceilingFault => exact Store.items_putProxy

/-- Some events leave the terms of every item. -/
theorem item?_runFrom {id : ItemId} {item : Item} (listed : store.item? id = some item)
    (events : List Event) :
    ∃ later, (house.runFrom store events).item? id = some later ∧ item.SameTerms later := by
  induction events generalizing store item with
  | nil => exact ⟨item, listed, .refl item⟩
  | cons event rest ih =>
    obtain ⟨next, next_listed, same⟩ := @item?_step house store id item listed event
    obtain ⟨later, later_listed, same'⟩ := ih next_listed
    exact ⟨later, later_listed, same.trans same'⟩

/-- An item of a run has been put up with its terms. -/
theorem exists_register (house : House) (events : List Event) {id : ItemId} {item : Item}
    (listed : (house.run events).item? id = some item) :
    ∃ listing, .register listing ∈ events ∧ listing.SameTerms item := by
  induction events using List.reverseRecOn generalizing item with
  | nil => cases listed
  | append_singleton events event ih =>
    rw [run_concat] at listed
    cases found : (house.run events).item? id with
    | none =>
      obtain ⟨rfl, -⟩ := item?_step_of_none found listed
      exact ⟨item, List.mem_append_right _ List.mem_cons_self, .refl item⟩
    | some before =>
      obtain ⟨later, later_listed, same⟩ := @item?_step house _ id before found event
      obtain rfl : later = item := Option.some.inj (later_listed.symm.trans listed)
      obtain ⟨listing, mem, same'⟩ := ih found
      exact ⟨listing, List.mem_append_left _ mem, same'.trans same⟩

/-- A call writes at the end of the ledger, and what it writes has its time. -/
theorem ledger_served {caller : Caller} {call : Call} {answer : Except Stop Outcome}
    {after : Store} (served : Served house store caller call answer after) :
    ∃ written, after.ledger = store.ledger ++ written ∧
      ∀ bid ∈ written, bid.createdAt = caller.now := by
  have of_batch (store : Store) {batch : List NewBid}
      (timed : ∀ bid ∈ batch, bid.createdAt = caller.now) :
      ∃ written, (store.append batch).2.ledger = store.ledger ++ written ∧
        ∀ bid ∈ written, bid.createdAt = caller.now := by
    refine ⟨Store.numbered store.nextBidId batch, by rw [Store.append_eq], ?_⟩
    intro bid mem
    exact timed _ (Store.mem_numbered mem).1
  have unchanged {after : Store} (same : after.ledger = store.ledger) :
      ∃ written, after.ledger = store.ledger ++ written ∧
        ∀ bid ∈ written, bid.createdAt = caller.now :=
    ⟨[], by rw [same, List.append_nil], fun bid mem => by cases mem⟩
  cases served with
  | stopped => exact unchanged rfl
  | bid taken =>
    apply of_batch
    intro bid mem
    rcases List.mem_cons.1 mem with rfl | answer
    · rfl
    · have answered := taken.answered
      rw [Option.mem_toList.1 answer] at answered
      obtain ⟨user, amount, rfl⟩ := answer_eq_autoBid answered
      rfl
  | @purchase id item taken =>
    have timed : ∀ bid ∈ [purchase caller id item], bid.createdAt = caller.now := by
      intro bid mem
      rw [List.mem_singleton.1 mem]
      rfl
    exact of_batch store timed
  | ceiling taken answered =>
    rw [← ledger_ceilingPut store caller]
    apply of_batch
    intro bid mem
    obtain ⟨user, amount, rfl⟩ := eq_autoBid_of_mem_ceilingBids answered mem
    rfl
  | ceilingFault taken answered => exact unchanged (ledger_ceilingPut ..)
  | noRemoval => exact unchanged rfl
  | removal => exact unchanged Store.ledger_putProxy

/-- An event writes at the end of the ledger, and what it writes has its time. -/
theorem ledger_step (house : House) (store : Store) (event : Event) :
    ∃ written, (house.step store event).ledger = store.ledger ++ written ∧
      ∀ bid ∈ written, event.time? = some bid.createdAt := by
  have changed := change house store event
  have unchanged {after : Store} (same : after.ledger = store.ledger) :
      ∃ written, after.ledger = store.ledger ++ written ∧
        ∀ bid ∈ written, event.time? = some bid.createdAt :=
    ⟨[], by rw [same, List.append_nil], fun bid mem => by cases mem⟩
  generalize house.step store event = after at changed ⊢
  cases changed with
  | call served =>
    obtain ⟨written, ledger_eq, timed⟩ := ledger_served served
    refine ⟨written, ledger_eq, ?_⟩
    intro bid mem
    rw [timed bid mem]
    rfl
  | relist => exact unchanged rfl
  | setWorkflow => exact unchanged rfl
  | register => exact unchanged rfl
  | nothing => exact unchanged rfl

/-- Some events write at the end of the ledger, each at its time. -/
theorem ledger_runFrom (house : House) (store : Store) (events : List Event) :
    ∃ written, (house.runFrom store events).ledger = store.ledger ++ written ∧
      ∀ bid ∈ written, bid.createdAt ∈ events.filterMap Event.time? := by
  induction events generalizing store with
  | nil => exact ⟨[], (List.append_nil _).symm, fun bid mem => by cases mem⟩
  | cons event rest ih =>
    obtain ⟨first, first_eq, first_timed⟩ := ledger_step house store event
    obtain ⟨later, later_eq, later_timed⟩ := ih (house.step store event)
    refine ⟨first ++ later, ?_, ?_⟩
    · rw [← List.append_assoc, ← first_eq]
      exact later_eq
    · intro bid mem
      rcases List.mem_append.1 mem with early | late
      · exact List.mem_filterMap.2 ⟨event, List.mem_cons_self, first_timed bid early⟩
      · obtain ⟨event', event_mem, timed⟩ := List.mem_filterMap.1 (later_timed bid late)
        exact List.mem_filterMap.2 ⟨event', List.mem_cons_of_mem _ event_mem, timed⟩

theorem bidsFor_eq_append {after : Store} {written : List Bid}
    (ledger_eq : after.ledger = store.ledger ++ written) (id : ItemId) (round : Round) :
    after.bidsFor id round = store.bidsFor id round ++
      written.filter fun bid => bid.item = id && bid.round = round := by
  unfold Store.bidsFor
  rw [ledger_eq, List.filter_append]

theorem standing_eq_of_sameTerms {item later : Item} (same : item.SameTerms later) (round : Round) :
    store.standing later round = store.standing item round := by
  unfold Store.standing
  rw [same.startingPrice_eq, same.id_eq]

/-- A bid that is taken by hand is not below any bid of the round. -/
theorem amount_le_of_taken (kept : house.Kept store) {caller : Caller} {id : ItemId}
    {round : Round} {amount : Decimal} {kind : BidKind} {item : Item} {counter : Option NewBid}
    (taken : BidTaken house store caller id round amount kind item counter) {bid : Bid}
    (mem : bid ∈ store.bidsFor id round) : bid.amount ≤ amount.roundCents := by
  obtain ⟨-, -, -, price_le, -, -⟩ := Validation.bidViolations_eq_nil_iff.1 taken.valid
  have counts := kept.ledger.counts mem
  rw [← (kept.items id item taken.listed).1] at mem
  exact le_trans (Ranking.amount_le_minPrice _ mem counts) price_le

/-- In every round of an item that there is at some time, the price only rises from then on, and if
the clock does not go back, the lead stays or goes to a higher bid.  A bid that is taken by hand is
not below any bid that the round has. -/
theorem price_history (house : House) (events later : List Event) {id : ItemId} {item : Item}
    (listed : (house.run events).item? id = some item) (round : Round) :
    ∃ item', (house.run (events ++ later)).item? id = some item' ∧
      let before := (house.run events).standing item round
      let after := (house.run (events ++ later)).standing item' round
      before.minPrice ≤ after.minPrice ∧
      (((events ++ later).filterMap Event.time?).Pairwise (· ≤ ·) →
        ∀ lead, before.lead = some lead →
          ∃ next, after.lead = some next ∧ (next = lead ∨ lead.amount < next.amount)) ∧
      ∀ caller amount kind receipt,
        (house.perform (house.run events) caller (.placeBid id round amount kind)).1 =
          .ok (.bid receipt) →
        ∀ bid ∈ (house.run events).bidsFor id round, bid.amount ≤ receipt.bid.amount := by
  obtain ⟨item', listed', same⟩ := @item?_runFrom house _ id item listed later
  obtain ⟨written, ledger_eq, timed⟩ := ledger_runFrom house (house.run events) later
  have kept := kept_run house (events ++ later)
  rw [← run_append] at listed' ledger_eq
  have bids_eq := bidsFor_eq_append ledger_eq item.id round
  refine ⟨item', listed', ?_, ?_, ?_⟩
  · rw [standing_eq_of_sameTerms same]
    unfold Store.standing
    rw [bids_eq]
    exact Ranking.minPrice_le_append _ _ _
  · intro ordered lead leads
    rw [standing_eq_of_sameTerms same]
    unfold Store.standing at leads ⊢
    rw [Ranking.lead_standing] at leads ⊢
    rw [bids_eq]
    have ids : ((house.run (events ++ later)).bidsFor item.id round).Pairwise
        fun a b => a.id < b.id := kept.ledger.ids.filter _
    rw [bids_eq] at ids
    apply Ranking.winner?_append ids leads
    intro bid mem
    obtain ⟨earlier, earlier_eq, earlier_timed⟩ := ledger_runFrom house {} events
    have lead_mem := (Ranking.winner?_spec leads).1
    rw [Store.mem_bidsFor] at lead_mem
    have lead_time := earlier_timed lead (by
      have mem := lead_mem.1
      rwa [run, earlier_eq, List.nil_append] at mem)
    rw [List.filterMap_append, List.pairwise_append] at ordered
    exact ordered.2.2 _ lead_time _ (timed bid (List.mem_filter.1 mem).1)
  · intro caller amount kind receipt performed bid mem
    have served := served house (house.run events) caller (.placeBid id round amount kind)
    rw [performed] at served
    generalize (house.perform _ _ _).2 = after at served
    cases served with
    | bid taken => exact amount_le_of_taken (kept_run house events) taken mem

theorem price_history_vase :
    let events : List Event :=
      [.register .vase, .call ⟨2, .hour 1⟩ (.setProxy 1 0 (.whole 20))]
    let later : List Event := [.call ⟨3, .hour 2⟩ (.placeBid 1 0 (.whole 12) .standard)]
    ∃ item, (run {} (events ++ later)).item? 1 = some item ∧
      ((run {} events).standing .vase 0).minPrice ≤
        ((run {} (events ++ later)).standing item 0).minPrice := by
  intro events later
  obtain ⟨item, listed, rises, -⟩ := price_history {} events later
    (show (run {} events).item? 1 = some .vase by decide +kernel) 0
  exact ⟨item, listed, rises⟩

end Step

end House

end AuctionHouse
