import AuctionHouse.Proofs.House.Floor

/-!
# The terms of a call

Every call begins in the same way: the caller must be allowed to bid, the item must be there and, if
the call names a round, in that round, and no rule may be broken.  This beginning is a function of
the store (`accept`), which says why a call is refused, too.  The terms under which a call is taken
(`BidTaken`, `CeilingTaken`, `PurchaseTaken`) say when it is not.
-/

namespace AuctionHouse.House

/-- The beginning of a call: the item that it is about, or why it is refused. -/
def accept (house : House) (user : UserId) (loaded : Except Refusal Item)
    (violations : Item → List Violation) : Except Refusal Item :=
  if house.mayBid user = true then
    match loaded with
    | .error refusal => .error refusal
    | .ok item => if violations item = [] then .ok item else .error (.rejected (violations item))
  else .error .notAuthorized

/-- The beginning of a bid. -/
def bidItem (house : House) (store : Store) (caller : Caller) (id : ItemId) (round : Round)
    (amount : Decimal) (kind : BidKind) : Except Refusal Item :=
  house.accept caller.user (store.inRound id round) fun item =>
    Validation.bidViolations item (item.window.statusAt caller.now) (store.standing item round)
      caller.user amount.roundCents kind

/-- The beginning of a purchase. -/
def purchaseItem (house : House) (store : Store) (caller : Caller) (id : ItemId) :
    Except Refusal Item :=
  house.accept caller.user (store.listed id) fun item =>
    Validation.buyNowViolations item (item.window.statusAt caller.now)

/-- The beginning of a ceiling. -/
def ceilingItem (house : House) (store : Store) (caller : Caller) (id : ItemId) (round : Round)
    (ceiling : Decimal) : Except Refusal Item :=
  house.accept caller.user (store.inRound id round) fun item =>
    Validation.ceilingViolations item (item.window.statusAt caller.now)
      (store.standing item round) ceiling.roundCents house.config.autobidEnabled

/-- The bid that a caller makes by hand. -/
def byHand (caller : Caller) (item : ItemId) (round : Round) (amount : Decimal)
    (kind : BidKind) : NewBid :=
  { item, user := caller.user, amount := amount.roundCents, kind, offer := .notApplicable, round,
    createdAt := caller.now }

/-- The automatic bid that answers a bid, if proxies are enabled and a rival one can. -/
def answerTo (house : House) (store : Store) (item : Item) (bid : NewBid) :
    Except Fault (Option NewBid) :=
  if house.config.autobidEnabled then
    counterBid house.config.proxyOrdering item bid (store.activeProxies bid.item bid.round)
  else .ok none

/-- The terms under which a bid is taken: the caller may bid, the item is in the round, no rule is
broken, and the answer of the proxies can be computed. -/
structure BidTaken (house : House) (store : Store) (caller : Caller) (id : ItemId) (round : Round)
    (amount : Decimal) (kind : BidKind) (item : Item) (counter : Option NewBid) : Prop where
  authorized : house.mayBid caller.user = true
  listed : store.item? id = some item
  current : item.round = round
  valid : Validation.bidViolations item (item.window.statusAt caller.now)
    (store.standing item round) caller.user amount.roundCents kind = []
  answered : house.answerTo store item (byHand caller id round amount kind) = .ok counter

/-- The terms under which a ceiling is taken: the caller may bid, the item is in the round, and no
rule is broken. -/
structure CeilingTaken (house : House) (store : Store) (caller : Caller) (id : ItemId)
    (round : Round) (ceiling : Decimal) (item : Item) : Prop where
  authorized : house.mayBid caller.user = true
  listed : store.item? id = some item
  current : item.round = round
  valid : Validation.ceilingViolations item (item.window.statusAt caller.now)
    (store.standing item round) ceiling.roundCents house.config.autobidEnabled = []

/-- The terms under which an item is sold at its buy-now price: the caller may bid, there is the
item, and no rule is broken. -/
structure PurchaseTaken (house : House) (store : Store) (caller : Caller) (id : ItemId)
    (item : Item) : Prop where
  authorized : house.mayBid caller.user = true
  listed : store.item? id = some item
  valid : Validation.buyNowViolations item (item.window.statusAt caller.now) = []

variable {house : House} {store : Store} {caller : Caller} {id : ItemId} {round : Round}

/-- A call of a user who may make it, for an item that is there, is up to the rules. -/
theorem accept_of_listed {user : UserId} {loaded : Except Refusal Item} {item : Item}
    (authorized : house.mayBid user = true) (found : loaded = .ok item)
    (violations : Item → List Violation) :
    house.accept user loaded violations =
      if violations item = [] then .ok item else .error (.rejected (violations item)) := by
  rw [found]
  exact if_pos authorized

theorem accept_eq_ok_iff {user : UserId} {loaded : Except Refusal Item}
    {violations : Item → List Violation} {item : Item} :
    house.accept user loaded violations = .ok item ↔
      house.mayBid user = true ∧ loaded = .ok item ∧ violations item = [] := by
  unfold accept
  split
  · next authorized =>
    cases loaded with
    | error refusal => exact ⟨nofun, nofun⟩
    | ok found =>
      simp only
      split
      · next valid =>
        constructor
        · rintro ⟨⟩
          exact ⟨authorized, rfl, valid⟩
        · exact fun h => h.2.1
      · next broken =>
        refine ⟨nofun, ?_⟩
        rintro ⟨-, ⟨⟩, valid⟩
        exact absurd valid broken
  · next barred => exact ⟨nofun, fun h => absurd h.1 barred⟩

/-- Calls whose rules agree on the item that they load begin in the same way, also if one of them
loads it with a change. -/
theorem accept_map {user : UserId} {loaded : Except Refusal Item}
    {violations violations' : Item → List Violation} (change : Item → Item)
    (same : ∀ item, loaded = .ok item → violations' (change item) = violations item) :
    house.accept user (loaded.map change) violations' =
      (house.accept user loaded violations).map change := by
  unfold accept
  by_cases authorized : house.mayBid user = true
  · rw [if_pos authorized, if_pos authorized]
    cases loaded with
    | error refusal => rfl
    | ok item =>
      simp only [Except.map, same item rfl]
      split <;> rfl
  · rw [if_neg authorized, if_neg authorized]
    rfl

/-- Calls whose rules agree on the item that they load begin in the same way. -/
theorem accept_congr {user : UserId} {loaded : Except Refusal Item}
    {violations violations' : Item → List Violation}
    (same : ∀ item, loaded = .ok item → violations' item = violations item) :
    house.accept user loaded violations' = house.accept user loaded violations := by
  have mapped := @accept_map house user loaded violations violations' id same
  rwa [Except.map_id] at mapped

theorem ceilingItem_eq_ok_iff {ceiling : Decimal} {item : Item} :
    house.ceilingItem store caller id round ceiling = .ok item ↔
      CeilingTaken house store caller id round ceiling item := by
  unfold ceilingItem
  rw [accept_eq_ok_iff, Store.inRound_eq_ok_iff]
  constructor
  · rintro ⟨authorized, ⟨listed, current⟩, valid⟩
    exact ⟨authorized, listed, current, valid⟩
  · rintro ⟨authorized, listed, current, valid⟩
    exact ⟨authorized, ⟨listed, current⟩, valid⟩

theorem purchaseItem_eq_ok_iff {item : Item} :
    house.purchaseItem store caller id = .ok item ↔ PurchaseTaken house store caller id item := by
  unfold purchaseItem
  rw [accept_eq_ok_iff, Store.listed_eq_ok_iff]
  constructor
  · rintro ⟨authorized, listed, valid⟩
    exact ⟨authorized, listed, valid⟩
  · rintro ⟨authorized, listed, valid⟩
    exact ⟨authorized, listed, valid⟩

theorem bidTaken_iff {amount : Decimal} {kind : BidKind} {item : Item} {counter : Option NewBid} :
    BidTaken house store caller id round amount kind item counter ↔
      house.bidItem store caller id round amount kind = .ok item ∧
        house.answerTo store item (byHand caller id round amount kind) = .ok counter := by
  unfold bidItem
  rw [accept_eq_ok_iff, Store.inRound_eq_ok_iff]
  constructor
  · rintro ⟨authorized, listed, current, valid, answered⟩
    exact ⟨⟨authorized, ⟨listed, current⟩, valid⟩, answered⟩
  · rintro ⟨⟨authorized, ⟨listed, current⟩, valid⟩, answered⟩
    exact ⟨authorized, listed, current, valid, answered⟩

/-- The beginning of a call for a round, with what comes after it. -/
theorem accept_calm {α : Type} (house : House) (store : Store) (user : UserId) (id : ItemId)
    (round : Round) (violations : Item → Standing → List Violation)
    (rest : Item → Standing → Action α) (calls : List AccessPoint) (notices : List Notice) :
    ∃ calls', (do
      house.authorize user
      let _ ← Action.loadRound id round
      let item ← Action.loadRound id round
      let before ← Action.standing item round
      demand (violations item before)
      rest item before : Action α) (Floor.calm store calls notices) =
        match house.accept user (store.inRound id round)
          fun item => violations item (store.standing item round) with
        | .error refusal => (.error (.refused refusal), Floor.calm store calls' notices)
        | .ok item => rest item (store.standing item round) (Floor.calm store calls' notices) := by
  unfold accept
  by_cases authorized : house.mayBid user = true
  · cases loaded : store.inRound id round with
    | error refusal =>
      simp only [Action.bind_apply, authorize_apply, if_pos authorized, Action.loadRound_calm,
        loaded]
      exact ⟨_, rfl⟩
    | ok item =>
      by_cases valid : violations item (store.standing item round) = []
      · simp only [Action.bind_apply, authorize_apply, if_pos authorized, Action.loadRound_calm,
          loaded, Action.standing_calm, demand_apply, if_pos valid]
        exact ⟨_, rfl⟩
      · simp only [Action.bind_apply, authorize_apply, if_pos authorized, Action.loadRound_calm,
          loaded, Action.standing_calm, demand_apply, if_neg valid]
        exact ⟨_, rfl⟩
  · simp only [Action.bind_apply, authorize_apply, if_neg authorized]
    exact ⟨_, rfl⟩

end AuctionHouse.House
