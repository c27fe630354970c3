import AuctionHouse.Proofs.House.Closing
import AuctionHouse.Proofs.House.Kept
import AuctionHouse.Proofs.Visibility

/-!
# What is shown of a round that takes offers

Whether a round is open is decided twice: when it is shown, by the state of its item or its start,
and when an offer comes in, by the states that stop offers and its end.  The two agree but for items
that are listed again and not yet begun, and for deleted ones (`isOpen_of_statusViolations`).
-/

namespace AuctionHouse

/-- On an item that is not deleted and breaks no rule on time and state, the round is not closed,
and it is open, strictly read or not, unless the item is listed again and its start has not
passed. -/
theorem isOpen_of_statusViolations {item : Item} {now : Instant} {field : Field}
    (valid : Validation.statusViolations item (item.window.statusAt now) field = [])
    (not_deleted : item.workflow ≠ .deleted) (strict : Bool) :
    (item.window.statusAt now).isClosed item.workflow = false ∧
      ((item.window.statusAt now).isOpen item.workflow strict = false ↔
        item.workflow = .relisted ∧ ¬ item.window.opens < now) := by
  obtain ⟨not_early, not_finished, not_closed, in_time⟩ :=
    Validation.statusViolations_eq_nil_iff.1 valid
  have still_open : (item.window.statusAt now).isClosed item.workflow = false := by
    rw [← Bool.not_eq_true, PhaseStatus.isClosed_iff]
    rintro (deleted | finished | closed | ended)
    · exact not_deleted deleted
    · exact not_finished finished
    · exact not_closed closed
    · exact in_time ended
  have started : (item.window.statusAt now).startPassed = decide (item.window.opens < now) := rfl
  refine ⟨still_open, ?_⟩
  unfold PhaseStatus.isOpen
  rw [still_open, started]
  cases state : item.workflow <;> simp_all

namespace House

variable {house : House} {store : Store}

/-- An offer is only answered in the current round of an item that breaks no rule on time and
state. -/
theorem statusViolations_of_accepted {caller : Caller} {call : Call} {id : ItemId} {round : Round}
    {outcome : Outcome} (offers : call.OffersIn id round)
    (accepted : (house.perform store caller call).1 = .ok outcome) :
    ∃ item field, store.item? id = some item ∧ item.round = round ∧
      Validation.statusViolations item (item.window.statusAt caller.now) field = [] := by
  have served := served house store caller call
  rw [accepted] at served
  generalize (house.perform store caller call).2 = after at served
  cases served with
  | @bid _ _ _ _ item _ taken =>
    obtain ⟨rfl, rfl⟩ := offers
    obtain ⟨-, valid, -⟩ := Validation.bidViolations_eq_nil_iff.1 taken.valid
    exact ⟨item, .amount, taken.listed, taken.current, valid⟩
  | @ceiling _ _ _ item _ taken _ =>
    obtain ⟨rfl, rfl⟩ := offers
    obtain ⟨-, -, valid, -⟩ := Validation.ceilingViolations_eq_nil_iff.1 taken.valid
    exact ⟨item, .ceiling, taken.listed, taken.current, valid⟩
  | purchase => cases offers
  | noRemoval => cases offers
  | removal => cases offers

/-- After every run, an offer that is answered is in the current round of an item.  Unless the item
is deleted, the round is shown at that time as not closed, and as open with one exception: the item
is listed again and its start has not passed.  This is so for both readings of what is open, and the
round is shown if the offer to buy at once can be judged. -/
theorem accepted_shown (house : House) (events : List Event) {user : UserId} {now : Instant}
    {id : ItemId} {round : Round} {call : Call} {outcome : Outcome}
    (offers : call.OffersIn id round)
    (accepted : (house.perform (house.run events) ⟨user, now⟩ call).1 = .ok outcome) :
    let store := house.run events
    ∃ item, store.item? id = some item ∧ item.round = round ∧
      (item.workflow ≠ .deleted → ∀ strict,
        (∀ view, (auctionView id round now strict { store }).1 = .ok view →
          view.isClosed = false ∧
            (view.isOpen = false ↔ item.workflow = .relisted ∧ ¬ item.window.opens < now)) ∧
        (item.Judgeable → ∃ view, (auctionView id round now strict { store }).1 = .ok view)) := by
  intro store
  obtain ⟨item, field, listed, current, valid⟩ := statusViolations_of_accepted offers accepted
  have formed := Item.window_wellFormed ((kept_run house events).items id item listed).2
  refine ⟨item, listed, current, ?_⟩
  intro not_deleted strict
  constructor
  · intro view shown
    obtain ⟨visible, rfl⟩ := view_of_auctionView listed shown
    exact isOpen_of_statusViolations valid not_deleted strict
  · intro judgeable
    obtain ⟨visible, computed⟩ := (Item.exists_buyNowVisible_iff formed now
      (store.standing item round).minPrice).2 judgeable
    refine ⟨viewAt store item id round now strict visible, ?_⟩
    rw [auctionView_eq listed, computed]
    rfl

theorem accepted_shown_vase :
    let store := run {} [.register .vase]
    ∃ view, (auctionView 1 0 (.hour 1) false { store }).1 = .ok view ∧ view.isOpen = true := by
  intro store
  have accepted : (perform {} store ⟨2, .hour 1⟩ (.placeBid 1 0 (.whole 12) .standard)).1 =
      .ok (.bid (receipt store (byHand ⟨2, .hour 1⟩ 1 0 (.whole 12) .standard) none)) := by
    decide +kernel
  have offers : (Call.placeBid 1 0 (.whole 12) .standard).OffersIn 1 0 := ⟨rfl, rfl⟩
  obtain ⟨item, listed, -, shown⟩ := accepted_shown {} [.register .vase] offers accepted
  have here : store.item? 1 = some .vase := by decide +kernel
  obtain rfl : Item.vase = item := Option.some.inj (here.symm.trans listed)
  have judgeable : Item.vase.Judgeable :=
    ⟨by decide +kernel, fun _ _ => ⟨.whole 8000, by decide +kernel⟩⟩
  obtain ⟨as_stated, some_view⟩ := shown (by decide) false
  obtain ⟨view, shown⟩ := some_view judgeable
  refine ⟨view, shown, ?_⟩
  rw [← Bool.not_eq_false, (as_stated view shown).2]
  exact fun early => nomatch early.1

/-- A vase that is listed again before it begins takes a bid and a ceiling, and is shown as not
open. -/
theorem relisted_early_takes_offers :
    let early : Item := { Item.vase with window := ⟨.hour 10, .hour 23⟩, workflow := .notStarted }
    let store := run {} [.register early, .relist 1]
    (auctionView 1 1 (.hour 1) false { store }).1.map AuctionView.isOpen = .ok false ∧
      (perform {} store ⟨2, .hour 1⟩ (.placeBid 1 1 (.whole 12) .standard)).1.isOk = true ∧
      (perform {} store ⟨3, .hour 1⟩ (.setProxy 1 1 (.whole 20))).1.isOk = true := by
  decide +kernel

/-- A vase that is up for half a millisecond takes a bid and cannot be shown. -/
theorem short_window_not_shown :
    let closes : Instant := { Instant.hour 0 with
      nano := 500000, nano_lt := by decide, leap_second := fun leap => absurd leap (by decide) }
    let brief : Item := { Item.vase with window := ⟨.hour 0, closes⟩ }
    let store := run {} [.register brief]
    (auctionView 1 0 (.hour 0) false { store }).1.map AuctionView.isOpen =
        .error (.faulted .divisionByZero) ∧
      (perform {} store ⟨2, .hour 0⟩ (.placeBid 1 0 (.whole 12) .standard)).1.isOk = true := by
  decide +kernel

end House

end AuctionHouse
