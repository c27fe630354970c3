import AuctionHouse.Proofs.House.Closing
import AuctionHouse.Proofs.House.Kept
import AuctionHouse.Proofs.Visibility

/-!
# Which items can be shown

An item on sound terms can have a window of less than a millisecond, of which no part can be
computed, and a buy-now price whose product with the threshold no amount holds.  All other items can
be shown in every round, at every time and price (`visibility_computed`).
-/

namespace AuctionHouse

/-- What becomes of the visibility of an item's offer to buy at once at a time, by itself and in the
view of a round. -/
structure Item.ShownAt (item : Item) (now : Instant) : Prop where
  /-- The part of the window that has passed is computed, and is one, if the window is not brief. -/
  fraction_iff : (∃ fraction, item.timeFraction now = .ok fraction ∧
    .zero ≤ fraction ∧ fraction ≤ .one) ↔ ¬ item.window.Brief
  /-- The visibility is computed at every price if no product is too large either. -/
  visible_iff : ∀ price, (∃ visible, item.buyNowVisible now price = .ok visible) ↔
    ¬ item.window.Brief ∧ ¬ item.PartOverflows
  /-- A brief window divides by zero. -/
  brief : item.window.Brief → item.timeFraction now = .error (.faulted .divisionByZero) ∧
    ∀ price, item.buyNowVisible now price = .error (.faulted .divisionByZero)
  /-- In any other window the product is the fault. -/
  overflow : ¬ item.window.Brief → item.PartOverflows →
    ∀ price, item.buyNowVisible now price = .error (.faulted .productTooLarge)
  /-- In every store that lists the item, its rounds are shown under the same condition. -/
  view_iff : ∀ (store : Store) (id : ItemId) (round : Round) (strict : Bool),
    store.item? id = some item →
      ((∃ view, (House.auctionView id round now strict { store }).1 = .ok view) ↔
        ¬ item.window.Brief ∧ ¬ item.PartOverflows)

namespace House

variable {item : Item} {now : Instant}

/-- The view of a round is there exactly if the visibility in it is computed. -/
theorem exists_auctionView_iff {store : Store} {id : ItemId} (listed : store.item? id = some item)
    (round : Round) (strict : Bool) :
    (∃ view, (auctionView id round now strict { store }).1 = .ok view) ↔
      ∃ visible, item.buyNowVisible now (store.standing item round).minPrice = .ok visible := by
  rw [auctionView_eq listed]
  cases item.buyNowVisible now (store.standing item round).minPrice with
  | ok visible => exact ⟨fun _ => ⟨visible, rfl⟩, fun _ => ⟨_, rfl⟩⟩
  | error stop => exact ⟨nofun, nofun⟩

/-- The visibility of an item on sound terms is computed at all times and prices, and its rounds are
shown, unless its window is brief or the threshold part of its buy-now price too large. -/
theorem visibility_computed (sound : item.problems = []) (now : Instant) : item.ShownAt now := by
  have formed := Item.window_wellFormed sound
  have visible_iff (price : Decimal) : (∃ visible, item.buyNowVisible now price = .ok visible) ↔
      ¬ item.window.Brief ∧ ¬ item.PartOverflows :=
    (Item.exists_buyNowVisible_iff formed now price).trans Item.judgeable_iff
  refine
    { fraction_iff := ?_
      visible_iff
      brief := fun brief => ⟨Item.timeFraction_of_brief formed brief now,
        Item.buyNowVisible_of_brief formed brief now⟩
      overflow := fun lasts overflows => Item.buyNowVisible_of_overflow formed lasts overflows now
      view_iff := fun store id round strict listed =>
        (exists_auctionView_iff listed round strict).trans (visible_iff _) }
  have computed_iff : (∃ fraction, item.timeFraction now = .ok fraction) ↔ _ :=
    Item.exists_timeFraction_iff formed
  rw [Window.Brief, ← Instant.millisSince_eq_zero_iff, ← ne_eq, ← computed_iff]
  constructor
  · rintro ⟨fraction, passed, -⟩
    exact ⟨fraction, passed⟩
  · rintro ⟨fraction, passed⟩
    obtain ⟨nonneg, le_one, -⟩ := Item.timeFraction_bounds formed passed
    exact ⟨fraction, passed, nonneg, le_one⟩

theorem visibility_computed_vase :
    let store := run {} [.register .vase]
    Item.vase.problems = [] ∧ ∃ view, (auctionView 1 0 (.hour 23) true { store }).1 = .ok view := by
  intro store
  have sound : Item.vase.problems = [] := by decide +kernel
  have shown := visibility_computed sound (.hour 23)
  have listed : store.item? 1 = some .vase := by decide +kernel
  obtain ⟨visible, judged⟩ : ∃ visible, Item.vase.buyNowVisible (.hour 23) .zero = .ok visible :=
    ⟨false, by decide +kernel⟩
  refine ⟨sound, (shown.view_iff store 1 0 true listed).2 ?_⟩
  exact (shown.visible_iff .zero).1 ⟨visible, judged⟩

/-- A vase at the highest price of all is registered, and no round of it is shown. -/
theorem dear_item_not_shown :
    let dearest : Decimal := .whole 79228162514264337593543950335
    let dear : Item := { Item.vase with buyNowPrice := dearest }
    let store := run {} [.register dear]
    store.item? 1 = some dear ∧
      (auctionView 1 0 (.hour 1) false { store }).1.map AuctionView.isOpen =
        .error (.faulted .productTooLarge) := by
  decide +kernel

end House

end AuctionHouse
