import AuctionHouse.Proofs.House.Run
import AuctionHouse.Proofs.Validation

/-!
# What a closed item takes

A closed item is never sold, and it takes neither bids nor ceilings, with one exception: the rules
on time and state do not look for a deleted item (`statusViolations_eq_nil_of_closed`).  One that is
deleted before its window closes is shown as closed, and answers bids and ceilings as if it had been
put up again (`perform_putUp_of_offersIn`).
-/

namespace AuctionHouse

/-- A bid by hand or a ceiling in a round. -/
def Call.OffersIn (id : ItemId) (round : Round) : Call → Prop
  | placeBid item round' .. | setProxy item round' _ => item = id ∧ round' = round
  | placeBuyNow _ | removeProxy .. => False

namespace Item

/-- Whether an item is deleted, at a time that is not past its window. -/
structure DeletedEarly (item : Item) (now : Instant) : Prop where
  deleted : item.workflow = .deleted
  in_time : (item.window.statusAt now).phase ≠ .ended

/-- An item that is put up again as it is. -/
def putUp (item : Item) : Item := { item with workflow := .active }

@[simp] theorem window_putUp (item : Item) : item.putUp.window = item.window := rfl

end Item

namespace Store

/-- The store with an item put up again as it is. -/
def putUp (store : Store) (id : ItemId) : Store :=
  { store with items := store.items.modify id Item.putUp }

variable (store : Store) (id : ItemId)

theorem item?_putUp : (store.putUp id).item? id = (store.item? id).map Item.putUp := by
  unfold putUp
  rw [item?_modify, if_pos rfl]

theorem inRound_putUp (round : Round) :
    (store.putUp id).inRound id round = (store.inRound id round).map Item.putUp := by
  unfold inRound
  rw [item?_putUp]
  cases store.item? id with
  | none => rfl
  | some item =>
    simp only [Option.map_some]
    by_cases current : item.round = round
    · rw [if_pos current]
      exact if_pos current
    · rw [if_neg current]
      exact if_neg current

/-- It is the same whether an item is put up before or after bids are written. -/
theorem append_putUp (bids : List NewBid) :
    (store.putUp id).append bids = ((store.append bids).1, (store.append bids).2.putUp id) := by
  rw [append_eq, append_eq]
  rfl

/-- It is the same whether an item is put up before or after a proxy is put. -/
theorem putProxy_putUp (proxy : Proxy) :
    (store.putUp id).putProxy proxy =
      ((store.putProxy proxy).1, (store.putProxy proxy).2.putUp id) := by
  unfold putProxy
  split <;> rfl

end Store

theorem PhaseStatus.isClosed_iff {status : PhaseStatus} {workflow : Workflow} :
    status.isClosed workflow = true ↔ workflow = .deleted ∨ workflow = .finished ∨
      workflow = .closed ∨ status.phase = .ended := by
  cases workflow <;> simp [isClosed, Workflow.isTerminal]

namespace Validation

variable {item : Item} {now : Instant} {field : Field}

/-- A closed item breaks no rule on time and state exactly if it is deleted early. -/
theorem statusViolations_eq_nil_of_closed
    (closed : (item.window.statusAt now).isClosed item.workflow = true) :
    statusViolations item (item.window.statusAt now) field = [] ↔ item.DeletedEarly now := by
  rw [statusViolations_eq_nil_iff]
  rw [PhaseStatus.isClosed_iff] at closed
  constructor
  · rintro ⟨-, not_finished, not_closed, in_time⟩
    refine ⟨?_, in_time⟩
    rcases closed with deleted | finished | by_state | ended
    · exact deleted
    · exact absurd finished not_finished
    · exact absurd by_state not_closed
    · exact absurd ended in_time
  · rintro ⟨deleted, in_time⟩
    rw [deleted]
    exact ⟨nofun, nofun, nofun, in_time⟩

/-- An item that is deleted early breaks the rules that it breaks when it is put up again. -/
theorem statusViolations_putUp (early : item.DeletedEarly now) :
    statusViolations item.putUp (item.window.statusAt now) field =
      statusViolations item (item.window.statusAt now) field := by
  have none : statusViolations item (item.window.statusAt now) field = [] := by
    rw [statusViolations_eq_nil_iff, early.deleted]
    exact ⟨nofun, nofun, nofun, early.in_time⟩
  rw [none, statusViolations_eq_nil_iff]
  exact ⟨nofun, nofun, nofun, early.in_time⟩

end Validation

namespace House

variable {house : House} {store : Store} {caller : Caller} {id : ItemId} {item : Item}

section PutUp

variable {now : Instant}

theorem bidViolations_putUp (early : item.DeletedEarly now) :
    Validation.bidViolations item.putUp (item.window.statusAt now) =
      Validation.bidViolations item (item.window.statusAt now) := by
  funext standing user amount kind
  unfold Validation.bidViolations
  rw [Validation.statusViolations_putUp early]
  rfl

theorem ceilingViolations_putUp (early : item.DeletedEarly now) :
    Validation.ceilingViolations item.putUp (item.window.statusAt now) =
      Validation.ceilingViolations item (item.window.statusAt now) := by
  funext standing ceiling enabled
  unfold Validation.ceilingViolations
  rw [Validation.statusViolations_putUp early]
  rfl

/-- An item that is deleted early is accepted for a bid as if it were put up again. -/
theorem bidItem_putUp (listed : store.item? id = some item) (early : item.DeletedEarly caller.now)
    (round : Round) (amount : Decimal) (kind : BidKind) :
    house.bidItem (store.putUp id) caller id round amount kind =
      (house.bidItem store caller id round amount kind).map Item.putUp := by
  unfold bidItem
  rw [Store.inRound_putUp]
  apply accept_map
  intro item' loaded
  obtain ⟨listed', -⟩ := (store.inRound_eq_ok_iff id round).1 loaded
  obtain rfl : item = item' := Option.some.inj (listed.symm.trans listed')
  rw [Item.window_putUp, bidViolations_putUp early]
  rfl

/-- An item that is deleted early is accepted for a ceiling as if it were put up again. -/
theorem ceilingItem_putUp (listed : store.item? id = some item)
    (early : item.DeletedEarly caller.now) (round : Round) (ceiling : Decimal) :
    house.ceilingItem (store.putUp id) caller id round ceiling =
      (house.ceilingItem store caller id round ceiling).map Item.putUp := by
  unfold ceilingItem
  rw [Store.inRound_putUp]
  apply accept_map
  intro item' loaded
  obtain ⟨listed', -⟩ := (store.inRound_eq_ok_iff id round).1 loaded
  obtain rfl : item = item' := Option.some.inj (listed.symm.trans listed')
  rw [Item.window_putUp, ceilingViolations_putUp early]
  rfl

theorem ceilingPut_putUp (store : Store) (caller : Caller) (id : ItemId) (round : Round)
    (ceiling : Decimal) :
    ceilingPut (store.putUp id) caller id round ceiling =
      ((ceilingPut store caller id round ceiling).1,
        (ceilingPut store caller id round ceiling).2.putUp id) :=
  Store.putProxy_putUp store id _

theorem ceilingAnswer_putUp (house : House) (store : Store) (item : Item) (round : Round)
    (ceiling : Decimal) :
    house.ceilingAnswer (store.putUp id) caller id round ceiling item.putUp =
      house.ceilingAnswer store caller id round ceiling item := by
  unfold ceilingAnswer
  rw [ceilingPut_putUp]
  rfl

/-- A call that makes an offer for an item that is deleted early answers and writes what it does
when the item is put up again. -/
theorem perform_putUp_of_offersIn {user : UserId} {call : Call}
    (listed : store.item? id = some item) (early : item.DeletedEarly now)
    (offers : call.OffersIn id item.round) :
    house.perform (store.putUp id) ⟨user, now⟩ call =
      ((house.perform store ⟨user, now⟩ call).1,
        (house.perform store ⟨user, now⟩ call).2.putUp id) := by
  cases call with
  | placeBid id' round amount kind =>
    obtain ⟨rfl, rfl⟩ := offers
    have up_accepted : house.bidItem (store.putUp id') ⟨user, now⟩ id' item.round amount kind = _ :=
      bidItem_putUp listed early item.round amount kind
    rw [perform_placeBid, perform_placeBid, up_accepted]
    cases house.bidItem store ⟨user, now⟩ id' item.round amount kind with
    | error refusal => rfl
    | ok item =>
      have answer_eq (bid : NewBid) : house.answerTo (store.putUp id') item.putUp bid =
        house.answerTo store item bid := rfl
      simp only [Except.map, answer_eq, Store.append_putUp]
      cases house.answerTo store item (byHand ⟨user, now⟩ id' _ amount kind) <;> rfl
  | setProxy id' round ceiling =>
    obtain ⟨rfl, rfl⟩ := offers
    have up_accepted : house.ceilingItem (store.putUp id') ⟨user, now⟩ id' item.round ceiling = _ :=
      ceilingItem_putUp listed early item.round ceiling
    rw [perform_setProxy, perform_setProxy, up_accepted]
    cases house.ceilingItem store ⟨user, now⟩ id' item.round ceiling with
    | error refusal => rfl
    | ok item =>
      simp only [Except.map, ceilingAnswer_putUp, ceilingPut_putUp, Store.append_putUp]
      cases house.ceilingAnswer store ⟨user, now⟩ id' _ ceiling item <;> rfl
  | placeBuyNow _ => cases offers
  | removeProxy _ _ => cases offers

theorem step_putUp (house : House) (listed : store.item? id = some item) :
    house.step store (.setWorkflow id .active) = store.putUp id := by
  simp only [step, Store.setWorkflow, listed]
  rfl

end PutUp

section Closed

variable {now : Instant}

/-- A round as it is shown, once it is known whether the offer to buy at once is. -/
def viewAt (store : Store) (item : Item) (id : ItemId) (round : Round) (now : Instant)
    (strict visible : Bool) : AuctionView where
  item := id
  round
  phase := (item.window.statusAt now).phase
  startPassed := (item.window.statusAt now).startPassed
  endPassed := (item.window.statusAt now).endPassed
  isOpen := (item.window.statusAt now).isOpen item.workflow strict
  isClosed := (item.window.statusAt now).isClosed item.workflow
  minPrice := (store.standing item round).minPrice
  leader := (store.standing item round).leader?
  buyNowVisible := visible
  bidCount := (store.bidsFor id round).length

/-- A round is shown if it can be computed whether the offer to buy at once is. -/
theorem auctionView_eq (listed : store.item? id = some item) (round : Round) (strict : Bool) :
    (auctionView id round now strict { store }).1 =
      (item.buyNowVisible now (store.standing item round).minPrice).map
        (viewAt store item id round now strict) := by
  have start : ({ store } : Floor) = Floor.calm store [] [] := rfl
  have loaded := (store.listed_eq_ok_iff id).2 listed
  rw [start]
  simp only [auctionView, Action.bind_apply, Action.loadItem_calm, loaded, Action.standing_calm]
  cases item.buyNowVisible now (store.standing item round).minPrice <;> rfl

/-- What is shown of a round is its view. -/
theorem view_of_auctionView {round : Round} {strict : Bool} {view : AuctionView}
    (listed : store.item? id = some item)
    (shown : (auctionView id round now strict { store }).1 = .ok view) :
    ∃ visible, view = viewAt store item id round now strict visible := by
  rw [auctionView_eq listed] at shown
  cases computed : item.buyNowVisible now (store.standing item round).minPrice with
  | error stop =>
    rw [computed] at shown
    cases shown
  | ok visible =>
    rw [computed] at shown
    cases shown
    exact ⟨visible, rfl⟩

/-- A view of a round shows whether its item is closed. -/
theorem isClosed_of_auctionView {round : Round} {strict : Bool} {view : AuctionView}
    {after : Floor} (listed : store.item? id = some item)
    (shown : auctionView id round now strict { store } = (.ok view, after)) :
    view.isClosed = (item.window.statusAt now).isClosed item.workflow := by
  obtain ⟨visible, rfl⟩ := view_of_auctionView listed (congrArg Prod.fst shown)
  rfl

/-- A closed item is not sold. -/
theorem perform_placeBuyNow_of_closed (listed : store.item? id = some item)
    (closed : (item.window.statusAt caller.now).isClosed item.workflow = true) :
    ∃ refusal, house.perform store caller (.placeBuyNow id) =
      (.error (.refused refusal), store) := by
  rw [perform_placeBuyNow]
  cases accepted : house.purchaseItem store caller id with
  | error refusal => exact ⟨refusal, rfl⟩
  | ok item' =>
    obtain ⟨-, listed', valid⟩ := purchaseItem_eq_ok_iff.1 accepted
    obtain rfl : item = item' := Option.some.inj (listed.symm.trans listed')
    have still_open := (Validation.buyNowViolations_eq_nil_iff.1 valid).1
    exact Bool.noConfusion (closed.symm.trans still_open)

/-- A closed item takes no bid and no ceiling, if it is not deleted early. -/
theorem perform_offersIn_of_closed {user : UserId} {call : Call}
    (listed : store.item? id = some item)
    (closed : (item.window.statusAt now).isClosed item.workflow = true)
    (not_early : ¬ item.DeletedEarly now) (offers : call.OffersIn id item.round) :
    ∃ refusal, house.perform store ⟨user, now⟩ call = (.error (.refused refusal), store) := by
  have broken (field : Field) :
      Validation.statusViolations item (item.window.statusAt now) field ≠ [] :=
    fun none => not_early ((Validation.statusViolations_eq_nil_of_closed closed).1 none)
  cases call with
  | placeBid id' round amount kind =>
    obtain ⟨rfl, rfl⟩ := offers
    rw [perform_placeBid]
    cases accepted : house.bidItem store ⟨user, now⟩ id' item.round amount kind with
    | error refusal => exact ⟨refusal, rfl⟩
    | ok item' =>
      obtain ⟨-, loaded, valid⟩ := accept_eq_ok_iff.1 accepted
      obtain ⟨listed', -⟩ := (store.inRound_eq_ok_iff id' _).1 loaded
      obtain rfl : item = item' := Option.some.inj (listed.symm.trans listed')
      exact absurd (Validation.bidViolations_eq_nil_iff.1 valid).2.1 (broken _)
  | setProxy id' round ceiling =>
    obtain ⟨rfl, rfl⟩ := offers
    rw [perform_setProxy]
    cases accepted : house.ceilingItem store ⟨user, now⟩ id' item.round ceiling with
    | error refusal => exact ⟨refusal, rfl⟩
    | ok item' =>
      obtain ⟨-, listed', -, valid⟩ := ceilingItem_eq_ok_iff.1 accepted
      obtain rfl : item = item' := Option.some.inj (listed.symm.trans listed')
      exact absurd (Validation.ceilingViolations_eq_nil_iff.1 valid).2.2.1 (broken _)
  | placeBuyNow _ => cases offers
  | removeProxy _ _ => cases offers

/-- After every run, an item that is closed is shown so and not sold.  It takes no bid and no
ceiling either, unless it is deleted early; then calls answer and write what they do when the item
is put up again. -/
theorem closed_refuses (house : House) (events : List Event) {id : ItemId} {item : Item}
    {now : Instant} (listed : (house.run events).item? id = some item)
    (closed : (item.window.statusAt now).isClosed item.workflow = true) (user : UserId) :
    let store := house.run events
    let reopened := house.step store (.setWorkflow id .active)
    (∀ round strict view after,
      auctionView id round now strict { store } = (.ok view, after) → view.isClosed = true) ∧
    (∃ refusal, house.perform store ⟨user, now⟩ (.placeBuyNow id) =
      (.error (.refused refusal), store)) ∧
    ∀ call : Call, call.OffersIn id item.round →
      (¬ item.DeletedEarly now →
        ∃ refusal, house.perform store ⟨user, now⟩ call = (.error (.refused refusal), store)) ∧
      (item.DeletedEarly now →
        let taken := house.perform store ⟨user, now⟩ call
        let taken_reopened := house.perform reopened ⟨user, now⟩ call
        taken.1 = taken_reopened.1 ∧ taken.2.ledger = taken_reopened.2.ledger ∧
          taken.2.proxies = taken_reopened.2.proxies) := by
  intro store reopened
  refine ⟨?_, perform_placeBuyNow_of_closed listed closed, ?_⟩
  · intro round strict view after shown
    exact (isClosed_of_auctionView listed shown).trans closed
  · intro call offers
    refine ⟨fun not_early => perform_offersIn_of_closed listed closed not_early offers, ?_⟩
    intro early taken taken_reopened
    have reopened_eq : taken_reopened = (taken.1, taken.2.putUp id) := by
      have up := @perform_putUp_of_offersIn house store id item now user call listed early offers
      rw [← step_putUp house listed] at up
      exact up
    rw [reopened_eq]
    exact ⟨rfl, rfl, rfl⟩

theorem closed_refuses_vase :
    let store := run {} [.register .vase, .setWorkflow 1 .closed]
    ∃ refusal, perform {} store ⟨2, .hour 1⟩ (.placeBid 1 0 (.whole 12) .standard) =
      (.error (.refused refusal), store) := by
  intro store
  let item : Item := { Item.vase with workflow := .closed }
  have listed : store.item? 1 = some item := by decide +kernel
  have closed : (item.window.statusAt (.hour 1)).isClosed item.workflow = true := by decide
  have not_early : ¬ item.DeletedEarly (.hour 1) := fun early => nomatch early.deleted
  obtain ⟨-, -, offers⟩ := closed_refuses {} _ listed closed 2
  exact (offers (.placeBid 1 0 (.whole 12) .standard) ⟨rfl, rfl⟩).1 not_early

/-- A deleted vase is shown as closed and cannot be bought, and takes a bid. -/
theorem deleted_takes_bid :
    let store := run {} [.register .vase, .setWorkflow 1 .deleted]
    let after := perform {} store ⟨2, .hour 1⟩ (.placeBid 1 0 (.whole 12) .standard)
    (auctionView 1 0 (.hour 1) false { store }).1.map AuctionView.isClosed = .ok true ∧
      (perform {} store ⟨2, .hour 1⟩ (.placeBuyNow 1)).1 =
        .error (.refused (.rejected [⟨.auctionClosed, .buyNow, "Auction has closed!"⟩])) ∧
      after.2.ledger = [{ byHand ⟨2, .hour 1⟩ 1 0 (.whole 12) .standard with id := 1 }] := by
  decide +kernel

end Closed

end House

end AuctionHouse
