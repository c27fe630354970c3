import AuctionHouse.House.Call
import AuctionHouse.House.Query
import AuctionHouse.Proofs.Store

/-!
# A floor at which nothing fails

As long as the store can be reached, every access to it is a function of the store (`Floor.calm`).
-/

namespace AuctionHouse

/-- A floor at which nothing fails, after calls of some points and with some notices sent. -/
def Floor.calm (store : Store) (calls : List AccessPoint) (notices : List Notice) : Floor :=
  { store, outages := { calls }, notices }

/-- The standing of a round of an item. -/
def Store.standing (store : Store) (item : Item) (round : Round) : Standing :=
  Ranking.standing item.startingPrice (store.bidsFor item.id round)

namespace Store

section Loaded

variable (store : Store) (id : ItemId) (round : Round) {item : Item}

/-- The item of a number, which must exist. -/
def listed : Except Refusal Item :=
  match store.item? id with
  | none => .error (.itemNotFound id)
  | some item => .ok item

/-- The item of a number, which must exist and be in a round. -/
def inRound : Except Refusal Item :=
  match store.item? id with
  | none => .error (.itemNotFound id)
  | some item =>
    if item.round = round then .ok item else .error (.roundMismatch item.round round)

theorem listed_eq_ok_iff : store.listed id = .ok item ↔ store.item? id = some item := by
  unfold listed
  cases store.item? id with
  | none => exact ⟨nofun, nofun⟩
  | some found => rw [Except.ok.injEq, Option.some.injEq]

theorem inRound_eq_ok_iff :
    store.inRound id round = .ok item ↔ store.item? id = some item ∧ item.round = round := by
  unfold inRound
  cases store.item? id with
  | none => exact ⟨nofun, nofun⟩
  | some found =>
    simp only [Option.some.injEq]
    split
    · next current =>
      rw [Except.ok.injEq]
      exact ⟨fun same => ⟨same, same ▸ current⟩, fun h => h.1⟩
    · next elsewhere =>
      refine ⟨nofun, ?_⟩
      rintro ⟨rfl, current⟩
      exact absurd current elsewhere

end Loaded

end Store

namespace Action

theorem bind_apply {α β : Type} (action : Action α) (next : α → Action β) (floor : Floor) :
    (action >>= next) floor =
      match action floor with
      | (.ok answer, after) => next answer after
      | (.error stop, after) => (.error stop, after) := by
  change (match action floor with
    | (answer, after) => (ExceptT.bindCont next answer : StateM Floor _) after) = _
  cases action floor with
  | mk answer after => cases answer <;> rfl

theorem pure_apply {α : Type} (answer : α) (floor : Floor) :
    (pure answer : Action α) floor = (.ok answer, floor) := rfl

theorem tryCatch_apply {α : Type} (action : Action α) (handle : Stop → Action α) (floor : Floor) :
    (tryCatch action handle : Action α) floor =
      match action floor with
      | (.ok answer, after) => (.ok answer, after)
      | (.error stop, after) => handle stop after := by
  change (ExceptT.run (tryCatch action handle : Action α)) floor = _
  rw [ExceptT.run_tryCatch]
  simp only [bind, StateT.bind, ExceptT.run]
  cases action floor with
  | mk answer after => cases answer <;> rfl

theorem attempt_apply {α : Type} (action : Action α) (floor : Floor) :
    action.attempt floor =
      match action floor with
      | (.ok answer, after) => (.ok (.ok answer), after)
      | (.error (.refused refusal), after) => (.ok (.error refusal), after)
      | (.error (.faulted fault), after) => (.error (.faulted fault), after) := by
  unfold attempt
  rw [tryCatch_apply, bind_apply]
  rcases action floor with ⟨_ | _, after⟩
  · next stop => cases stop <;> rfl
  · rfl

variable (store : Store) (calls : List AccessPoint) (notices : List Notice)

theorem compute_apply {α : Type} (answer : Except Fault α) (floor : Floor) :
    compute answer floor = (Stop.ofFault answer, floor) := by
  cases answer <;> rfl

theorem write_apply {α : Type} (change : Store → Except StorageError (α × Store)) (floor : Floor) :
    write change floor =
      match change floor.store with
      | .ok (answer, next) => (.ok answer, { floor with store := next })
      | .error error => (.error (.refused (.storage error)), floor) := by
  have reached : (get : Action Floor) floor = (.ok floor, floor) := rfl
  simp only [write, bind_apply, reached]
  cases change floor.store <;> rfl

theorem write_calm {α : Type} {change : Store → Except StorageError (α × Store)} {answer : α}
    {next : Store} (h : change store = .ok (answer, next)) :
    write change (Floor.calm store calls notices) =
      (.ok answer, Floor.calm next calls notices) := by
  have stored : (Floor.calm store calls notices).store = store := rfl
  rw [write_apply, stored, h]
  rfl

theorem item?_calm (id : ItemId) : item? id (Floor.calm store calls notices) =
    (.ok (store.item? id), Floor.calm store (.item :: calls) notices) := rfl

theorem activeProxies_calm (item : ItemId) (round : Round) :
    activeProxies item round (Floor.calm store calls notices) =
      (.ok (store.activeProxies item round),
        Floor.calm store (.activeProxies :: calls) notices) := rfl

theorem activeProxy?_calm (item : ItemId) (round : Round) (user : UserId) :
    activeProxy? item round user (Floor.calm store calls notices) =
      (.ok (store.activeProxy? item round user),
        Floor.calm store (.activeProxy :: calls) notices) := rfl

theorem putProxy_calm (proxy : Proxy) :
    putProxy proxy (Floor.calm store calls notices) =
      (.ok (store.putProxy proxy).1,
        Floor.calm (store.putProxy proxy).2 (.putProxy :: calls) notices) := rfl

theorem append_calm (bids : List NewBid) :
    ∃ calls', append bids (Floor.calm store calls notices) =
      (.ok (store.append bids).1, Floor.calm (store.append bids).2 calls' notices) := by
  by_cases pair : bids.length = 2
  · exact ⟨.lost :: .pair :: .append :: calls, by simp only [append, pair]; rfl⟩
  · exact ⟨.lost :: .append :: calls, by simp only [append, pair]; rfl⟩

theorem standing_calm (item : Item) (round : Round) :
    standing item round (Floor.calm store calls notices) =
      (.ok (store.standing item round), Floor.calm store (.bidsFor :: calls) notices) := rfl

theorem notify_calm (notice : Notice) :
    notify notice (Floor.calm store calls notices) =
      (.ok (), Floor.calm store calls (notices ++ [notice])) := rfl

theorem loadItem_calm (id : ItemId) :
    loadItem id (Floor.calm store calls notices) =
      (match store.listed id with
        | .error refusal => .error (.refused refusal)
        | .ok item => .ok item,
        Floor.calm store (.item :: calls) notices) := by
  simp only [loadItem, bind_apply, item?_calm, Store.listed]
  cases store.item? id <;> rfl

theorem loadRound_calm (id : ItemId) (round : Round) :
    loadRound id round (Floor.calm store calls notices) =
      (match store.inRound id round with
        | .error refusal => .error (.refused refusal)
        | .ok item => .ok item,
        Floor.calm store (.item :: calls) notices) := by
  simp only [loadRound, bind_apply, loadItem_calm, Store.listed, Store.inRound]
  cases store.item? id with
  | none => rfl
  | some item =>
    simp only
    split <;> rfl

end Action

namespace House

section Steps

variable (store : Store) (calls : List AccessPoint) (notices : List Notice)

theorem authorize_apply (house : House) (user : UserId) (floor : Floor) :
    house.authorize user floor =
      (if house.mayBid user then .ok () else .error (.refused .notAuthorized), floor) := by
  unfold authorize
  split <;> rfl

theorem demand_apply (violations : List Violation) (floor : Floor) :
    demand violations floor =
      (if violations = [] then .ok () else .error (.refused (.rejected violations)), floor) := by
  unfold demand
  cases violations <;> rfl

/-- The notice to a leader who has lost the lead, if there was one and it is not the new one. -/
def outbidNotices (item : ItemId) (round : Round) (previous : Option UserId) (leader : UserId)
    (amount : Decimal) : List Notice :=
  match previous with
  | none => []
  | some user => if user = leader then [] else [.outbid item round user leader amount]

theorem notifyOutbid_apply (item : ItemId) (round : Round) (previous : Option UserId)
    (leader : UserId) (amount : Decimal) (floor : Floor) :
    notifyOutbid item round previous leader amount floor =
      (.ok (), { floor with
        notices := floor.notices ++ outbidNotices item round previous leader amount }) := by
  cases previous with
  | none => simp only [notifyOutbid, outbidNotices, Action.pure_apply, List.append_nil]
  | some user =>
    simp only [notifyOutbid, outbidNotices]
    split
    · simp only [Action.pure_apply, List.append_nil]
    · rfl

theorem notifyOutbid_calm (item : ItemId) (round : Round) (previous : Option UserId)
    (leader : UserId) (amount : Decimal) :
    notifyOutbid item round previous leader amount (Floor.calm store calls notices) =
      (.ok (), Floor.calm store calls
        (notices ++ outbidNotices item round previous leader amount)) :=
  notifyOutbid_apply item round previous leader amount _

end Steps

/-- The status of a user's proxy in a round. -/
theorem proxyStatus_eq {store : Store} {id : ItemId} {item : Item}
    (listed : store.item? id = some item) (round : Round) (user : UserId) :
    (proxyStatus id round user { store }).1 = .ok
      { proxy := store.activeProxy? id round user
        minPrice := (store.standing item round).minPrice
        outbid := (store.activeProxy? id round user).any fun proxy =>
          proxy.ceiling ≤ (store.standing item round).minPrice &&
            (store.standing item round).leader? ≠ some user } := by
  have start : ({ store } : Floor) = Floor.calm store [] [] := rfl
  have loaded := (store.listed_eq_ok_iff id).2 listed
  unfold proxyStatus
  simp only [start, Action.bind_apply, Action.loadItem_calm, loaded, Action.standing_calm,
    Action.activeProxy?_calm]
  rfl

end House

end AuctionHouse
