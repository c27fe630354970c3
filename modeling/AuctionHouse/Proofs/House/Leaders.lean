import AuctionHouse.Proofs.House.Closing
import AuctionHouse.Proofs.House.Kept
import AuctionHouse.Proofs.Ranking

/-!
# What is read of a ranking

The winner of a round, its standing, its view, the status of a proxy in it and every listing of its
bids look up the first claim by themselves.  They agree, since all of them read one ranking, and the
bids of a round have only one (`ranking_agreed`).
-/

namespace AuctionHouse.House

/-- What is read of a round whose bids have a ranking and whose price is as given. -/
structure ShowsRanking (house : House) (store : Store) (item : Item) (round : Round)
    (ranking : List Bid) (price : Decimal) : Prop where
  /-- Without a limit all bids that count are listed. -/
  top_none : Ranking.top (store.bidsFor item.id round) none = ranking
  /-- With a limit, as many of the first ones. -/
  top_some : ∀ limit, Ranking.top (store.bidsFor item.id round) (some limit) = ranking.take limit
  /-- Users get as many as they ask for, or as the house lists. -/
  listing : ∀ now limit, (house.answer now (.highestBids item.id round limit) { store }).1 =
    .ok (.highestBids (ranking.take (limit.getD house.config.listingLength)))
  /-- A listing that has a first row has the first bid there. -/
  first_row : ∀ now limit row rest,
    (house.answer now (.highestBids item.id round limit) { store }).1 =
      .ok (.highestBids (row :: rest)) → ranking.head? = some row
  winner : ∀ now, (house.answer now (.winner item.id round) { store }).1 =
    .ok (.winner ranking.head?)
  standing : (Action.standing item round { store }).1 =
    .ok { minPrice := price, lead := ranking.head? }
  /-- A view shows the leader and the price, if the visibility of the offer can be computed. -/
  view : store.item? item.id = some item → ∀ now strict,
    (auctionView item.id round now strict { store }).1.map
        (fun view => (view.leader, view.minPrice)) =
      (item.buyNowVisible now price).map fun _ => (ranking.head?.map (·.user), price)
  /-- A proxy is outbid if its ceiling is at the price and its user is not the leader. -/
  status : store.item? item.id = some item → ∀ user,
    (proxyStatus item.id round user { store }).1 = .ok
      { proxy := store.activeProxy? item.id round user
        minPrice := price
        outbid := (store.activeProxy? item.id round user).any fun proxy =>
          proxy.ceiling ≤ price && ranking.head?.map (·.user) ≠ some user }

/-- What is read of a round follows from the ranking of its bids. -/
theorem showsRanking_of_ranked (house : House) {store : Store} {item : Item} {round : Round}
    {ranking : List Bid} {price : Decimal}
    (ranked : Ranking.ranked (store.bidsFor item.id round) = ranking)
    (standing : store.standing item round = { minPrice := price, lead := ranking.head? }) :
    house.ShowsRanking store item round ranking price := by
  have listing (now : Instant) (limit : Option Nat) :
      (house.answer now (.highestBids item.id round limit) { store }).1 =
        .ok (.highestBids (ranking.take (limit.getD house.config.listingLength))) := by
    rw [← ranked]
    rfl
  refine
    { top_none := ranked
      top_some := fun limit => congrArg (List.take limit) ranked
      listing
      first_row := ?_
      winner := fun now => ?_
      standing := congrArg Except.ok standing
      view := fun listed now strict => ?_
      status := fun listed user => ?_ }
  · intro now limit row rest answered
    rw [listing now limit, Except.ok.injEq, Answer.highestBids.injEq] at answered
    cases ranking with
    | nil => simp at answered
    | cons first others =>
      cases length : limit.getD house.config.listingLength with
      | zero => simp [length] at answered
      | succ count =>
        rw [length, List.take_succ_cons, List.cons.injEq] at answered
        exact congrArg some answered.1
  · rw [← ranked]
    rfl
  · rw [auctionView_eq listed, standing]
    cases item.buyNowVisible now price with
    | error stop => rfl
    | ok visible =>
      simp only [Except.map, viewAt, standing]
      rfl
  · rw [proxyStatus_eq listed, standing]
    rfl

/-- The bids of a round, with numbers of their own, have one ranking, and the price is the highest
of the starting price and the amounts that count.  All that is read of the round agrees on both, in
whichever order the bids are in the ledger. -/
theorem ranking_agreed (house : House) {store : Store} {item : Item} {round : Round}
    (ids : ((store.bidsFor item.id round).map (·.id)).Nodup) :
    ∃ ranking price, Ranking.IsRanking (store.bidsFor item.id round) ranking ∧
      (∀ other, Ranking.IsRanking (store.bidsFor item.id round) other → other = ranking) ∧
      IsGreatest {amount | amount = item.startingPrice ∨
        ∃ bid ∈ store.bidsFor item.id round, bid.counts = true ∧ amount = bid.amount} price ∧
      ∀ shuffled : Store, (shuffled.bidsFor item.id round).Perm (store.bidsFor item.id round) →
        house.ShowsRanking shuffled item round ranking price := by
  have is_ranking := Ranking.isRanking_ranked (store.bidsFor item.id round)
  refine ⟨_, (store.standing item round).minPrice, is_ranking,
    fun other is_other => is_other.unique ids is_ranking,
    Ranking.isGreatest_minPrice item.startingPrice _, ?_⟩
  intro shuffled same
  have ranked_eq := Ranking.ranked_eq_of_perm ids same
  exact showsRanking_of_ranked house ranked_eq
    (Ranking.standing_eq_of_ranked_eq item.startingPrice ranked_eq)

theorem ranking_agreed_vase :
    let store := run {} [.register .vase, .call ⟨2, .hour 1⟩ (.placeBid 1 0 (.whole 12) .standard),
      .call ⟨3, .hour 2⟩ (.placeBid 1 0 (.whole 15) .standard)]
    let shuffled : Store := { store with ledger := store.ledger.reverse }
    (store.bidsFor 1 0).length = 2 ∧ ∃ ranking price,
      House.ShowsRanking {} store .vase 0 ranking price ∧
      House.ShowsRanking {} shuffled .vase 0 ranking price := by
  intro store shuffled
  have ids : ((store.bidsFor Item.vase.id 0).map (·.id)).Nodup := by decide +kernel
  have perm : (shuffled.bidsFor Item.vase.id 0).Perm (store.bidsFor Item.vase.id 0) :=
    (List.reverse_perm store.ledger).filter _
  obtain ⟨ranking, price, -, -, -, shows⟩ := ranking_agreed {} ids
  exact ⟨by decide +kernel, ranking, price, shows store (List.Perm.refl _), shows shuffled perm⟩

end AuctionHouse.House
