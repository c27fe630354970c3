import AuctionHouse.Proofs.House.Closing
import AuctionHouse.Proofs.House.Rounds

/-!
# A sale is final

A purchase is written together with the state of the item, and a finished item takes no bid, no
ceiling and no other purchase.  So, as long as nobody forces the state of items, a round is over
once it has a purchase or a later round is open (`Over`), and from then on it only loses active
proxies.
-/

namespace AuctionHouse

/-- Whether an event does not force the state of an item. -/
def Event.Unforced : Event → Prop
  | .setWorkflow .. => False
  | _ => True

namespace Proxy

/-- Whether a proxy stays as it is or is taken back. -/
def Retires (proxy later : Proxy) : Prop :=
  later = proxy ∨ proxy.active = true ∧
    ∃ now, later = { proxy with active := false, updatedAt := now }

variable {proxy later last : Proxy}

theorem Retires.refl (proxy : Proxy) : proxy.Retires proxy := .inl rfl

theorem Retires.trans (h : proxy.Retires later) (h' : later.Retires last) : proxy.Retires last := by
  rcases h with rfl | ⟨active, now, rfl⟩
  · exact h'
  · rcases h' with rfl | ⟨impossible, -⟩
    · exact .inr ⟨active, now, rfl⟩
    · cases impossible

/-- What holds of proxies one by one over two spans of time holds over both. -/
theorem forall₂_retires_trans {proxies laters lasts : List Proxy}
    (h : List.Forall₂ Retires proxies laters) (h' : List.Forall₂ Retires laters lasts) :
    List.Forall₂ Retires proxies lasts := by
  induction h generalizing lasts with
  | nil => exact h'
  | cons first rest ih =>
    cases h' with
    | cons first' rest' => exact .cons (first.trans first') (ih rest')

end Proxy

namespace House

variable {house : House} {store : Store} {caller : Caller} {id : ItemId} {round : Round}

section Over

/-- Whether a round is over: a later one is open, or its item is finished in it. -/
def Over (store : Store) (id : ItemId) (round : Round) : Prop :=
  ∃ item, store.item? id = some item ∧
    (round < item.round ∨ round = item.round ∧ item.workflow = .finished)

/-- A round that is over stays over. -/
theorem Over.step (ended : Over store id round) {event : Event} (unforced : event.Unforced) :
    Over (house.step store event) id round := by
  obtain ⟨item, listed, past_or_finished⟩ := ended
  obtain ⟨later, later_listed, changed⟩ := itemChange_step house listed event
  refine ⟨later, later_listed, ?_⟩
  cases changed with
  | same => exact past_or_finished
  | relisted opened =>
    have round_le : round ≤ item.round := by
      rcases past_or_finished with past | ⟨current, -⟩
      · exact UInt32.le_of_lt past
      · exact UInt32.le_of_eq current
    exact .inl (UInt32.lt_of_le_of_lt round_le (Round.lt_of_next opened))
  | put => cases unforced
  | sold =>
    rcases past_or_finished with past | ⟨current, -⟩
    · exact .inl past
    · exact .inr ⟨current, rfl⟩

/-- An item whose current round is over is finished. -/
theorem Over.finished {item : Item} (ended : Over store id item.round)
    (listed : store.item? id = some item) : item.workflow = .finished := by
  obtain ⟨item', listed', past_or_finished⟩ := ended
  obtain rfl : item = item' := Option.some.inj (listed.symm.trans listed')
  rcases past_or_finished with past | ⟨-, finished⟩
  · exact absurd past (UInt32.lt_irrefl _)
  · exact finished

theorem statusViolations_of_finished {item : Item} (finished : item.workflow = .finished)
    {status : PhaseStatus} {field : Field} :
    Validation.statusViolations item status field ≠ [] := by
  rw [ne_eq, Validation.statusViolations_eq_nil_iff]
  exact fun none => none.2.1 finished

/-- A finished item is not sold. -/
theorem not_purchaseTaken_of_finished {item : Item} (finished : item.workflow = .finished) :
    ¬ PurchaseTaken house store caller id item := by
  rintro ⟨-, -, valid⟩
  have still_open := (Validation.buyNowViolations_eq_nil_iff.1 valid).1
  rw [PhaseStatus.isClosed_iff.2 (.inr (.inl finished))] at still_open
  cases still_open

/-- A removal takes one proxy of its round back and leaves the others. -/
theorem retires_removal (kept : store.ProxiesKept) {old : Proxy}
    (found : store.activeProxy? id round caller.user = some old) :
    List.Forall₂ Proxy.Retires (store.proxiesFor id round)
      ((store.putProxy (withdrawn caller old)).2.proxiesFor id round) := by
  obtain ⟨old_mem, -⟩ := Store.activeProxy?_eq_some found
  obtain ⟨value, active, -, -⟩ := Store.mem_activeProxies.1 old_mem
  have same : (withdrawn caller old).id = old.id := rfl
  unfold Store.proxiesFor
  rw [Store.filter_putProxy_old kept.keyed value same rfl, List.forall₂_map_right_iff,
    List.forall₂_same]
  intro proxy mem
  split
  · next equal =>
    obtain rfl := kept.keyed.eq_of_id_eq (List.mem_filter.1 mem).1 value equal
    exact .inr ⟨active, caller.now, rfl⟩
  · exact .refl proxy

/-- A call writes no bid in a round that is over, and of its proxies it only takes back. -/
theorem Over.served (kept : house.Kept store) (ended : Over store id round) {call : Call}
    {answer : Except Stop Outcome} {after : Store}
    (served : Served house store caller call answer after) :
    after.bidsFor id round = store.bidsFor id round ∧
      List.Forall₂ Proxy.Retires (store.proxiesFor id round) (after.proxiesFor id round) := by
  have unchanged (store : Store) : List.Forall₂ Proxy.Retires (store.proxiesFor id round)
      (store.proxiesFor id round) := List.forall₂_same.2 fun proxy _ => .refl proxy
  have ⟨item, listed, _⟩ := ended
  by_cases here : call.item = id ∧ item.round = round
  · obtain ⟨rfl, rfl⟩ := here
    have finished := ended.finished listed
    cases served with
    | stopped => exact ⟨rfl, unchanged store⟩
    | @bid _ _ _ _ item' _ taken =>
      obtain rfl : item = item' := Option.some.inj (listed.symm.trans taken.listed)
      exact absurd (Validation.bidViolations_eq_nil_iff.1 taken.valid).2.1
        (statusViolations_of_finished finished)
    | @purchase _ item' taken =>
      obtain rfl : item = item' := Option.some.inj (listed.symm.trans taken.listed)
      exact absurd taken (not_purchaseTaken_of_finished finished)
    | @ceiling _ _ _ item' _ taken =>
      obtain rfl : item = item' := Option.some.inj (listed.symm.trans taken.listed)
      exact absurd (Validation.ceilingViolations_eq_nil_iff.1 taken.valid).2.2.1
        (statusViolations_of_finished finished)
    | @ceilingFault _ _ _ item' _ taken =>
      obtain rfl : item = item' := Option.some.inj (listed.symm.trans taken.listed)
      exact absurd (Validation.ceilingViolations_eq_nil_iff.1 taken.valid).2.2.1
        (statusViolations_of_finished finished)
    | noRemoval => exact ⟨rfl, unchanged store⟩
    | @removal _ _ item' _ listed' current found =>
      obtain rfl : item = item' := Option.some.inj (listed.symm.trans listed')
      subst current
      exact ⟨Store.bidsFor_putProxy _ _, retires_removal kept.proxies found⟩
  · have same : Store.SameAt id round store after := by
      apply sameAt_served kept served
      intro item' named listed' current
      obtain rfl : item = item' := Option.some.inj (listed.symm.trans listed')
      exact here ⟨named, current⟩
    rw [same.bidsFor_eq, same.proxiesFor_eq]
    exact ⟨rfl, unchanged store⟩

/-- Events write no bid in a round that is over, and of its proxies they only take back. -/
theorem Over.runFrom (kept : house.Kept store) (ended : Over store id round) (later : List Event)
    (unforced : ∀ event ∈ later, event.Unforced) :
    (house.runFrom store later).bidsFor id round = store.bidsFor id round ∧
      List.Forall₂ Proxy.Retires (store.proxiesFor id round)
        ((house.runFrom store later).proxiesFor id round) := by
  induction later generalizing store with
  | nil => exact ⟨rfl, List.forall₂_same.2 fun proxy _ => .refl proxy⟩
  | cons event rest ih =>
    have first : (house.step store event).bidsFor id round = store.bidsFor id round ∧
        List.Forall₂ Proxy.Retires (store.proxiesFor id round)
          ((house.step store event).proxiesFor id round) := by
      have changed := change house store event
      generalize house.step store event = after at changed ⊢
      cases changed with
      | call served => exact ended.served kept served
      | _ => exact ⟨rfl, List.forall₂_same.2 fun proxy _ => .refl proxy⟩
    have over_next : Over (house.step store event) id round :=
      ended.step (unforced event List.mem_cons_self)
    obtain ⟨bids_eq, retired⟩ := ih (kept.step event) over_next
      fun later mem => unforced later (List.mem_cons_of_mem _ mem)
    exact ⟨bids_eq.trans first.1, Proxy.forall₂_retires_trans first.2 retired⟩

end Over

section Sold

theorem ledger_sold (store : Store) (bid : NewBid) :
    (sold store bid).ledger = store.ledger ++ [{ bid with id := store.nextBidId }] := by
  unfold sold
  rw [Store.append_eq]
  rfl

theorem item?_sold (store : Store) (bid : NewBid) (id : ItemId) :
    (sold store bid).item? id = if id = bid.item then
      (store.item? bid.item).map fun item => { item with workflow := .finished }
    else store.item? id :=
  store.item?_modify bid.item id _

/-- What a sale does: it is the one bid that is written, and its item is finished in its round. -/
structure Sells (house : House) (store : Store) (caller : Caller) (item : Item) (sale : Bid)
    (after : Store) : Prop where
  taken : PurchaseTaken house store caller sale.item item
  round_eq : sale.round = item.round
  ledger_eq : after.ledger = store.ledger ++ [sale]
  finished : after.item? sale.item = some { item with workflow := .finished }

/-- A purchase comes into the ledger only by a sale. -/
theorem sells_of_purchased {call : Call} {answer : Except Stop Outcome} {after : Store}
    (served : Served house store caller call answer after) {sale : Bid}
    (mem : sale ∈ after.ledger) (new : sale ∉ store.ledger) (purchased : sale.offer = .purchased) :
    ∃ item, Sells house store caller item sale after := by
  have of_batch {batch : List NewBid} {store' : Store} (same : store'.ledger = store.ledger)
      (mem : sale ∈ (store'.append batch).2.ledger) : sale.toNewBid ∈ batch := by
    rw [Store.ledger_append, same, List.mem_append, Store.append_eq] at mem
    rcases mem with old | written
    · exact absurd old new
    · exact (Store.mem_numbered written).1
  have not_auto {item : ItemId} {round : Round} {user : UserId} {amount : Decimal} {now : Instant}
      (auto : sale.toNewBid = Settlement.autoBid item round user amount now) : False := by
    have offer_eq : sale.offer = .notApplicable := by rw [auto]; rfl
    exact nomatch purchased.symm.trans offer_eq
  cases served with
  | stopped => exact absurd mem new
  | bid taken =>
    rcases List.mem_cons.1 (of_batch rfl mem) with by_hand | answer
    · have offer_eq : sale.offer = .notApplicable := by rw [by_hand]; rfl
      exact nomatch purchased.symm.trans offer_eq
    · have answered := taken.answered
      rw [Option.mem_toList.1 answer] at answered
      obtain ⟨user, amount, auto⟩ := answer_eq_autoBid answered
      exact (not_auto auto).elim
  | @purchase id item taken =>
    rw [ledger_sold, List.mem_append, List.mem_singleton] at mem
    rcases mem with old | rfl
    · exact absurd old new
    · refine ⟨item, taken, rfl, ledger_sold _ _, ?_⟩
      rw [item?_sold, if_pos rfl]
      exact congrArg _ taken.listed
  | ceiling taken answered =>
    obtain ⟨user, amount, auto⟩ := eq_autoBid_of_mem_ceilingBids answered
      (of_batch (ledger_ceilingPut ..) mem)
    exact (not_auto auto).elim
  | ceilingFault =>
    rw [ledger_ceilingPut] at mem
    exact absurd mem new
  | noRemoval => exact absurd mem new
  | removal =>
    rw [Store.ledger_putProxy] at mem
    exact absurd mem new

theorem sells_of_step {event : Event} {sale : Bid} (mem : sale ∈ (house.step store event).ledger)
    (new : sale ∉ store.ledger) (purchased : sale.offer = .purchased) :
    ∃ caller item, Sells house store caller item sale (house.step store event) := by
  have changed := change house store event
  generalize house.step store event = after at changed mem ⊢
  cases changed with
  | call served => exact ⟨_, sells_of_purchased served mem new purchased⟩
  | _ => exact absurd mem new

/-- Whether every round with a purchase is over and has no other one. -/
structure SalesFinal (store : Store) : Prop where
  ended : ∀ sale ∈ store.ledger, sale.offer = .purchased → Over store sale.item sale.round
  single : ∀ sale ∈ store.ledger, ∀ other ∈ store.ledger, sale.offer = .purchased →
    other.offer = .purchased → other.item = sale.item → other.round = sale.round → other = sale

/-- A round with a purchase has no second one. -/
theorem SalesFinal.not_sells (final : SalesFinal store) {sale other : Bid} {item : Item}
    {after : Store} (mem : sale ∈ store.ledger) (purchased : sale.offer = .purchased)
    (item_eq : other.item = sale.item) (round_eq : other.round = sale.round) :
    ¬ Sells house store caller item other after := by
  intro sells
  have ended := final.ended sale mem purchased
  rw [← item_eq, ← round_eq, sells.round_eq] at ended
  exact not_purchaseTaken_of_finished (ended.finished sells.taken.listed) sells.taken

theorem SalesFinal.step (final : SalesFinal store) {event : Event} (unforced : event.Unforced) :
    SalesFinal (house.step store event) := by
  constructor
  · intro sale mem purchased
    by_cases old : sale ∈ store.ledger
    · exact (final.ended sale old purchased).step unforced
    · obtain ⟨caller, item, sells⟩ := sells_of_step mem old purchased
      exact ⟨_, sells.finished, .inr ⟨sells.round_eq, rfl⟩⟩
  · intro sale mem other other_mem purchased other_purchased item_eq round_eq
    by_cases old : sale ∈ store.ledger
    · by_cases other_old : other ∈ store.ledger
      · exact final.single sale old other other_old purchased other_purchased item_eq round_eq
      · obtain ⟨caller, item, sells⟩ := sells_of_step other_mem other_old other_purchased
        exact absurd sells (final.not_sells old purchased item_eq round_eq)
    · obtain ⟨caller, item, sells⟩ := sells_of_step mem old purchased
      rw [sells.ledger_eq, List.mem_append, List.mem_singleton] at other_mem
      rcases other_mem with other_old | same
      · exact absurd sells (final.not_sells other_old other_purchased item_eq.symm round_eq.symm)
      · exact same

/-- As long as no state is forced, every round with a purchase is over and has no other one. -/
theorem SalesFinal.runFrom (final : SalesFinal store) (events : List Event)
    (unforced : ∀ event ∈ events, event.Unforced) : SalesFinal (house.runFrom store events) := by
  induction events generalizing store with
  | nil => exact final
  | cons event rest ih =>
    exact ih (final.step (unforced event List.mem_cons_self))
      fun later mem => unforced later (List.mem_cons_of_mem _ mem)

/-- There is at most one of bids that are all the same but in the order of their numbers. -/
theorem length_le_one {bids : List Bid} (ids : bids.Pairwise fun a b => a.id < b.id)
    (same : ∀ a ∈ bids, ∀ b ∈ bids, b = a) : bids.length ≤ 1 := by
  match bids with
  | [] => exact Nat.zero_le 1
  | [_] => exact Nat.le_refl 1
  | first :: second :: _ =>
    have id_lt := (List.pairwise_cons.1 ids).1 second List.mem_cons_self
    rw [same first List.mem_cons_self second (List.mem_cons_of_mem _ List.mem_cons_self)] at id_lt
    exact absurd id_lt (Nat.lt_irrefl _)

/-- A round has at most one purchase. -/
theorem SalesFinal.length_le_one (final : SalesFinal store) (kept : store.LedgerKept) (id : ItemId)
    (round : Round) :
    ((store.bidsFor id round).filter fun bid => bid.offer = .purchased).length ≤ 1 := by
  have ids : ((store.bidsFor id round).filter fun bid => bid.offer = .purchased).Pairwise
      fun a b => a.id < b.id := (kept.ids.filter _).filter _
  apply House.length_le_one ids
  intro sale sale_mem other other_mem
  rw [List.mem_filter, Store.mem_bidsFor, decide_eq_true_eq] at sale_mem other_mem
  obtain ⟨⟨mem, rfl, rfl⟩, purchased⟩ := sale_mem
  obtain ⟨⟨mem', item_eq, round_eq⟩, purchased'⟩ := other_mem
  exact final.single sale mem other mem' purchased purchased' item_eq round_eq

end Sold

section Reopening

/-- What is written for an item is in the round that it has at the time. -/
theorem round_of_new {item : Item} (kept : house.Kept store) (listed : store.item? id = some item)
    {event : Event} {bid : Bid} (mem : bid ∈ (house.step store event).ledger)
    (new : bid ∉ store.ledger) (item_eq : bid.item = id) : bid.round = item.round := by
  by_contra elsewhere
  have same : Store.SameAt id bid.round store (house.step store event) := by
    apply sameAt_step kept
    intro caller call item' _ _ listed' current
    obtain rfl : item = item' := Option.some.inj (listed.symm.trans listed')
    exact elsewhere current.symm
  have here : bid ∈ (house.step store event).bidsFor id bid.round :=
    (Store.mem_bidsFor _).2 ⟨mem, item_eq, rfl⟩
  rw [same.bidsFor_eq, Store.mem_bidsFor] at here
  exact new here.1

/-- What is written for an item is in its round or a later one, and if no round of it is opened in
between, in its round. -/
theorem round_of_new_runFrom {item : Item} (kept : house.Kept store)
    (listed : store.item? id = some item) (later : List Event) {bid : Bid}
    (mem : bid ∈ (house.runFrom store later).ledger) (new : bid ∉ store.ledger)
    (item_eq : bid.item = id) :
    item.round ≤ bid.round ∧ (.relist id ∉ later → bid.round = item.round) := by
  induction later generalizing store item with
  | nil => exact absurd mem new
  | cons event rest ih =>
    by_cases first : bid ∈ (house.step store event).ledger
    · have round_eq := round_of_new kept listed first new item_eq
      exact ⟨UInt32.le_of_eq round_eq.symm, fun _ => round_eq⟩
    · obtain ⟨next, next_listed, changed⟩ := itemChange_step house listed event
      obtain ⟨round_le, round_eq⟩ := ih (kept.step event) next_listed mem first
      refine ⟨UInt32.le_trans changed.round_le round_le, ?_⟩
      intro not_reopened
      rw [List.mem_cons, not_or] at not_reopened
      rw [round_eq not_reopened.2]
      cases changed with
      | relisted => exact absurd rfl not_reopened.1
      | _ => rfl

end Reopening

/-- In a run in which no state is forced, no round has two purchases.  Once a round has one, nothing
that follows writes a bid in it, and its proxies only stay or are taken back.  Another purchase of
the item is in a later round, and if the round was the current one, a round of the item has been
opened in between. -/
theorem sold_once (house : House) (events : List Event)
    (unforced : ∀ event ∈ events, event.Unforced) :
    let store := house.run events
    (∀ id round,
      ((store.bidsFor id round).filter fun bid => bid.offer = .purchased).length ≤ 1) ∧
    ∀ sale ∈ store.ledger, sale.offer = .purchased →
      ∀ later : List Event, (∀ event ∈ later, event.Unforced) →
        let after := house.runFrom store later
        after.bidsFor sale.item sale.round = store.bidsFor sale.item sale.round ∧
        List.Forall₂ Proxy.Retires (store.proxiesFor sale.item sale.round)
          (after.proxiesFor sale.item sale.round) ∧
        ∀ other ∈ after.ledger, other ∉ store.ledger → other.item = sale.item →
          other.offer = .purchased → sale.round < other.round ∧
            ∀ item, store.item? sale.item = some item → item.round = sale.round →
              .relist sale.item ∈ later := by
  intro store
  have kept : house.Kept store := kept_run house events
  have none_sold : SalesFinal {} := ⟨fun _ mem => (nomatch mem), fun _ mem => (nomatch mem)⟩
  have final : SalesFinal store := none_sold.runFrom events unforced
  refine ⟨final.length_le_one kept.ledger, ?_⟩
  intro sale mem purchased later later_unforced after
  have ended := final.ended sale mem purchased
  obtain ⟨bids_eq, retired⟩ := ended.runFrom kept later later_unforced
  refine ⟨bids_eq, retired, ?_⟩
  intro other other_mem new item_eq _
  obtain ⟨item, listed, round_le⟩ := kept.ledger.filed sale mem
  obtain ⟨round_ge, unopened⟩ := round_of_new_runFrom kept listed later other_mem new item_eq
  have different : sale.round ≠ other.round := by
    intro round_eq
    have here : other ∈ after.bidsFor sale.item sale.round :=
      (Store.mem_bidsFor _).2 ⟨other_mem, item_eq, round_eq.symm⟩
    rw [bids_eq, Store.mem_bidsFor] at here
    exact new here.1
  refine ⟨UInt32.lt_of_le_of_ne (UInt32.le_trans round_le round_ge) different, ?_⟩
  intro item' listed' current
  obtain rfl : item = item' := Option.some.inj (listed.symm.trans listed')
  by_contra not_opened
  exact different (current.symm.trans (unopened not_opened).symm)

theorem sold_once_vase :
    let events : List Event :=
      [.register .vase, .call ⟨2, .hour 1⟩ (.setProxy 1 0 (.whole 20)),
        .call ⟨3, .hour 2⟩ (.placeBuyNow 1)]
    let later : List Event :=
      [.call ⟨2, .hour 1⟩ (.removeProxy 1 0), .call ⟨4, .hour 3⟩ (.placeBuyNow 1), .relist 1]
    ((run {} events).bidsFor 1 0).length = 1 ∧
      (runFrom {} (run {} events) later).bidsFor 1 0 = (run {} events).bidsFor 1 0 := by
  intro events later
  have unforced : ∀ event ∈ events, event.Unforced := by
    simp only [events, List.mem_cons, List.not_mem_nil, or_false]
    rintro event (rfl | rfl | rfl) <;> trivial
  have later_unforced : ∀ event ∈ later, event.Unforced := by
    simp only [later, List.mem_cons, List.not_mem_nil, or_false]
    rintro event (rfl | rfl | rfl) <;> trivial
  let sale : Bid := { purchase ⟨3, .hour 2⟩ 1 .vase with id := 1 }
  have written : sale ∈ (run {} events).ledger := by decide +kernel
  obtain ⟨-, final⟩ := sold_once {} events unforced
  exact ⟨by decide +kernel, (final sale written rfl later later_unforced).1⟩

end House

end AuctionHouse
