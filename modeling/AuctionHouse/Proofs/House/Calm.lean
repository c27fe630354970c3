import AuctionHouse.Proofs.House.Terms

/-!
# Calls at which nothing fails

As long as the store can be reached, a call is a function of the store.  For every call there is one
equation that says what it answers, writes and sends, its refusals included.
-/

namespace AuctionHouse.House

/-- The receipt for a bid and its answer under the next numbers. -/
def receipt (store : Store) (bid : NewBid) (counter : Option NewBid) : Receipt :=
  ⟨{ bid with id := store.nextBidId },
    counter.map fun counter => { counter with id := store.nextBidId + 1 }⟩

section PlaceBid

variable {house : House} {caller : Caller} {id : ItemId} {round : Round} {amount : Decimal}
  {kind : BidKind}

/-- The part of a bid that writes it with its answer and tells those who do not lead. -/
def bookBid (caller : Caller) (id : ItemId) (round : Round) (previous : Option UserId)
    (bid : NewBid) (counter : Option NewBid) : Action Receipt := do
  match ← Action.append (bid :: counter.toList) with
  | [] => .refuse (.storage .nothingWritten)
  | written :: rest =>
    let receipt : Receipt := ⟨written, rest.head?⟩
    notifyOutbid id round previous receipt.leader receipt.top.amount
    if receipt.leader ≠ caller.user then
      notifyOutbid id round (some caller.user) receipt.leader receipt.top.amount
    return receipt

theorem append_receipt (store : Store) (bid : NewBid) (counter : Option NewBid) :
    (store.append (bid :: counter.toList)).1 =
      (receipt store bid counter).bid :: (receipt store bid counter).counter.toList := by
  rw [Store.append_eq]
  cases counter <;> rfl

/-- The notices that a bid sends: to the leader before it, and to the caller, each if they do not
lead in the end. -/
def bidNotices (id : ItemId) (round : Round) (previous : Option UserId) (caller : UserId)
    (receipt : Receipt) : List Notice :=
  outbidNotices id round previous receipt.leader receipt.top.amount ++
    outbidNotices id round (some caller) receipt.leader receipt.top.amount

theorem bookBid_calm (store : Store) (previous : Option UserId) (bid : NewBid)
    (counter : Option NewBid) (calls : List AccessPoint) (notices : List Notice) :
    ∃ calls', bookBid caller id round previous bid counter (Floor.calm store calls notices) =
      (.ok (receipt store bid counter),
        Floor.calm (store.append (bid :: counter.toList)).2 calls'
          (notices ++ bidNotices id round previous caller.user (receipt store bid counter))) := by
  obtain ⟨calls', append_eq⟩ := Action.append_calm store calls notices (bid :: counter.toList)
  refine ⟨calls', ?_⟩
  rw [append_receipt] at append_eq
  have head_eq : (receipt store bid counter).counter.toList.head? =
      (receipt store bid counter).counter := by
    cases counter <;> rfl
  unfold bookBid bidNotices
  simp only [Action.bind_apply, append_eq, head_eq, notifyOutbid_calm]
  by_cases same : (receipt store bid counter).leader = caller.user
  · simp only [same, ne_eq, not_true_eq_false, if_false, outbidNotices, if_true, List.append_nil]
    rfl
  · rw [if_pos same, Action.bind_apply, notifyOutbid_calm, List.append_assoc]
    rfl

/-- The part of a bid that comes once it is accepted. -/
def answerBid (house : House) (caller : Caller) (id : ItemId) (round : Round)
    (previous : Option UserId) (item : Item) (bid : NewBid) : Action Receipt := do
  let counter ←
    if house.config.autobidEnabled then do
      let proxies ← Action.activeProxies bid.item bid.round
      Action.compute (counterBid house.config.proxyOrdering item bid proxies)
    else pure none
  bookBid caller id round previous bid counter

theorem answerBid_calm (store : Store) (previous : Option UserId) (item : Item) (bid : NewBid)
    (calls : List AccessPoint) (notices : List Notice) :
    ∃ calls', house.answerBid caller id round previous item bid (Floor.calm store calls notices) =
      match house.answerTo store item bid with
      | .error fault => (.error (.faulted fault), Floor.calm store calls' notices)
      | .ok counter => (.ok (receipt store bid counter),
          Floor.calm (store.append (bid :: counter.toList)).2 calls'
            (notices ++ bidNotices id round previous caller.user (receipt store bid counter))) := by
  unfold answerBid answerTo
  by_cases enabled : house.config.autobidEnabled = true
  · simp only [if_pos enabled, Action.bind_apply, Action.activeProxies_calm, Action.compute_apply]
    cases counterBid house.config.proxyOrdering item bid
      (store.activeProxies bid.item bid.round) with
    | error fault => exact ⟨_, rfl⟩
    | ok counter => exact bookBid_calm store previous bid counter _ notices
  · simp only [if_neg enabled, Action.bind_apply, Action.pure_apply]
    exact bookBid_calm store previous bid none calls notices

/-- A bid that is not accepted is refused, and one whose answer cannot be computed stops.  Else it
is written with its answer, and those who do not lead are told. -/
theorem placeBid_calm (house : House) (store : Store) (caller : Caller) (id : ItemId)
    (round : Round) (amount : Decimal) (kind : BidKind) (calls : List AccessPoint)
    (notices : List Notice) :
    let bid := byHand caller id round amount kind
    ∃ calls', house.placeBid caller id round amount kind (Floor.calm store calls notices) =
      match house.bidItem store caller id round amount kind with
      | .error refusal => (.error (.refused refusal), Floor.calm store calls' notices)
      | .ok item =>
        match house.answerTo store item bid with
        | .error fault => (.error (.faulted fault), Floor.calm store calls' notices)
        | .ok counter => (.ok (receipt store bid counter),
            Floor.calm (store.append (bid :: counter.toList)).2 calls' (notices ++
              bidNotices id round (store.standing item round).leader? caller.user
                (receipt store bid counter))) := by
  intro bid
  have begins : ∃ calls', house.placeBid caller id round amount kind
      (Floor.calm store calls notices) = _ :=
    house.accept_calm store caller.user id round
      (fun item before => Validation.bidViolations item (item.window.statusAt caller.now) before
        caller.user amount.roundCents kind)
      (fun item before => house.answerBid caller id round before.leader? item bid) calls notices
  obtain ⟨calls', begins⟩ := begins
  cases accepted : house.bidItem store caller id round amount kind with
  | error refusal =>
    unfold bidItem at accepted
    rw [accepted] at begins
    exact ⟨calls', begins⟩
  | ok item =>
    unfold bidItem at accepted
    rw [accepted] at begins
    obtain ⟨calls'', answers⟩ := @answerBid_calm house caller id round store
      (store.standing item round).leader? item bid calls' notices
    exact ⟨calls'', begins.trans answers⟩

end PlaceBid

/-- The proxy with a new ceiling, and the store with it, before any bids follow. -/
def ceilingPut (store : Store) (caller : Caller) (id : ItemId) (round : Round)
    (ceiling : Decimal) : Proxy × Store :=
  store.putProxy
    (raised (store.activeProxy? id round caller.user) caller id round ceiling.roundCents)

/-- The automatic bids that follow from a ceiling. -/
def ceilingAnswer (house : House) (store : Store) (caller : Caller) (id : ItemId) (round : Round)
    (ceiling : Decimal) (item : Item) : Except Fault (List NewBid) :=
  ceilingBids house.config.proxyOrdering item round caller ceiling.roundCents
    (store.standing item round)
    ((ceilingPut store caller id round ceiling).2.activeProxies id round)

/-- The notices that the bids of a ceiling send: to the leader before them, and to the caller, each
if they do not lead in the end. -/
def ceilingNotices (id : ItemId) (round : Round) (before after : Standing) (caller : UserId) :
    List Notice :=
  match after.leader? with
  | none => []
  | some leader =>
    outbidNotices id round before.leader? leader after.minPrice ++
      if before.leader? = some caller then []
      else outbidNotices id round (some caller) leader after.minPrice

section SetProxy

variable {house : House} {caller : Caller} {id : ItemId} {round : Round} {ceiling : Decimal}

/-- The part of a ceiling that comes after it has been put: its bids. -/
def bookCeiling (caller : Caller) (id : ItemId) (round : Round) (item : Item) (before : Standing)
    (previous : Option Proxy) (saved : Proxy) (bids : List NewBid) : Action Proxy := do
  if bids.isEmpty then return saved
  match ← (Action.append bids).attempt with
  | .error refusal =>
    let _ ← (restore previous saved).attempt
    .refuse refusal
  | .ok _ =>
    let after ← Action.standing item round
    if let some leader := after.leader? then
      notifyOutbid id round before.leader? leader after.minPrice
      if before.leader? ≠ some caller.user then
        notifyOutbid id round (some caller.user) leader after.minPrice
    return saved

theorem bookCeiling_calm (store : Store) (item : Item) (before : Standing)
    (previous : Option Proxy) (saved : Proxy) (bids : List NewBid) (calls : List AccessPoint)
    (notices : List Notice) :
    ∃ calls', bookCeiling caller id round item before previous saved bids
        (Floor.calm store calls notices) =
      (.ok saved, Floor.calm (store.append bids).2 calls' (notices ++
        if bids = [] then []
        else ceilingNotices id round before ((store.append bids).2.standing item round)
          caller.user)) := by
  unfold bookCeiling
  by_cases empty : bids = []
  · subst empty
    refine ⟨calls, ?_⟩
    rw [if_pos rfl, List.append_nil]
    rfl
  · obtain ⟨calls', append_eq⟩ := Action.append_calm store calls notices bids
    refine ⟨.bidsFor :: calls', ?_⟩
    rw [if_neg empty, if_neg (by rwa [List.isEmpty_iff]), Action.bind_apply,
      Action.attempt_apply, append_eq]
    simp only [Action.bind_apply, Action.standing_calm]
    unfold ceilingNotices
    cases leading : ((store.append bids).2.standing item round).leader? with
    | none =>
      simp only [List.append_nil]
      rfl
    | some leader =>
      simp only [Action.bind_apply, notifyOutbid_calm]
      by_cases same : before.leader? = some caller.user
      · simp only [same, ne_eq, not_true_eq_false, if_false, if_true, List.append_nil]
        rfl
      · simp only [same, ne_eq, not_false_eq_true, if_true, if_false, Action.bind_apply,
          notifyOutbid_calm, List.append_assoc]
        rfl

/-- The part of a ceiling that comes once it is accepted. -/
def putCeiling (house : House) (caller : Caller) (id : ItemId) (round : Round) (ceiling : Decimal)
    (item : Item) (before : Standing) : Action Proxy := do
  let previous ← Action.activeProxy? id round caller.user
  let saved ← Action.putProxy (raised previous caller id round ceiling.roundCents)
  let proxies ← Action.activeProxies id round
  let bids ← Action.compute (ceilingBids house.config.proxyOrdering item round caller
    ceiling.roundCents before proxies)
  bookCeiling caller id round item before previous saved bids

theorem putCeiling_calm (store : Store) (item : Item) (calls : List AccessPoint)
    (notices : List Notice) :
    let put := ceilingPut store caller id round ceiling
    ∃ calls', house.putCeiling caller id round ceiling item (store.standing item round)
        (Floor.calm store calls notices) =
      match house.ceilingAnswer store caller id round ceiling item with
      | .error fault => (.error (.faulted fault), Floor.calm put.2 calls' notices)
      | .ok bids => (.ok put.1, Floor.calm (put.2.append bids).2 calls' (notices ++
          if bids = [] then []
          else ceilingNotices id round (store.standing item round)
            ((put.2.append bids).2.standing item round) caller.user)) := by
  intro put
  unfold putCeiling ceilingAnswer
  simp only [Action.bind_apply, Action.activeProxy?_calm, Action.putProxy_calm,
    Action.activeProxies_calm, Action.compute_apply]
  cases answered : ceilingBids house.config.proxyOrdering item round caller ceiling.roundCents
    (store.standing item round) (put.2.activeProxies id round) with
  | error fault =>
    unfold put ceilingPut at answered
    rw [answered]
    exact ⟨_, rfl⟩
  | ok bids =>
    unfold put ceilingPut at answered
    rw [answered]
    exact bookCeiling_calm put.2 item _ _ put.1 bids _ notices

/-- A ceiling that is not accepted is refused.  Else it is put in place; then its bids are written
and those who do not lead are told, or its arithmetic has no answer. -/
theorem setProxy_calm (house : House) (store : Store) (caller : Caller) (id : ItemId)
    (round : Round) (ceiling : Decimal) (calls : List AccessPoint) (notices : List Notice) :
    let put := ceilingPut store caller id round ceiling
    ∃ calls', house.setProxy caller id round ceiling (Floor.calm store calls notices) =
      match house.ceilingItem store caller id round ceiling with
      | .error refusal => (.error (.refused refusal), Floor.calm store calls' notices)
      | .ok item =>
        match house.ceilingAnswer store caller id round ceiling item with
        | .error fault => (.error (.faulted fault), Floor.calm put.2 calls' notices)
        | .ok bids => (.ok put.1, Floor.calm (put.2.append bids).2 calls' (notices ++
            if bids = [] then []
            else ceilingNotices id round (store.standing item round)
              ((put.2.append bids).2.standing item round) caller.user)) := by
  intro put
  have begins : ∃ calls', house.setProxy caller id round ceiling (Floor.calm store calls notices) =
      _ :=
    house.accept_calm store caller.user id round
      (fun item before => Validation.ceilingViolations item (item.window.statusAt caller.now) before
        ceiling.roundCents house.config.autobidEnabled)
      (fun item before => house.putCeiling caller id round ceiling item before) calls notices
  obtain ⟨calls', begins⟩ := begins
  cases accepted : house.ceilingItem store caller id round ceiling with
  | error refusal =>
    unfold ceilingItem at accepted
    rw [accepted] at begins
    exact ⟨calls', begins⟩
  | ok item =>
    unfold ceilingItem at accepted
    rw [accepted] at begins
    obtain ⟨calls'', answers⟩ :=
      @putCeiling_calm house caller id round ceiling store item calls' notices
    exact ⟨calls'', begins.trans answers⟩

end SetProxy

/-- The bid that a purchase is. -/
def purchase (caller : Caller) (id : ItemId) (item : Item) : NewBid :=
  { item := id, user := caller.user, amount := item.buyNowPrice.roundCents, kind := .instant,
    offer := .purchased, round := item.round, createdAt := caller.now }

/-- The store after a purchase. -/
def sold (store : Store) (bid : NewBid) : Store :=
  { (store.append [bid]).2 with
    items := store.items.modify bid.item fun item => { item with workflow := .finished } }

section PlaceBuyNow

variable {house : House} {store : Store} {caller : Caller} {id : ItemId}

/-- A bid is written together with the end of its item. -/
theorem appendClosing_eq {bid : NewBid} {item : Item} (listed : store.item? bid.item = some item) :
    store.appendClosing bid .finished =
      .ok ({ bid with id := store.nextBidId }, sold store bid) := by
  have listed' : (store.write bid).2.item? bid.item = some item := listed
  unfold Store.appendClosing
  simp only [Store.setWorkflow, listed']
  rfl

theorem appendClosing_calm {bid : NewBid} {item : Item} (listed : store.item? bid.item = some item)
    (calls : List AccessPoint) (notices : List Notice) :
    Action.appendClosing bid .finished (Floor.calm store calls notices) =
      (.ok { bid with id := store.nextBidId },
        Floor.calm (sold store bid) (.appendClosing :: calls) notices) := by
  unfold Action.appendClosing
  rw [Action.bind_apply]
  exact Action.write_calm store (.appendClosing :: calls) notices
    (show (·.appendClosing bid .finished) store = _ from appendClosing_eq listed)

/-- A purchase that is not accepted is refused.  Else it is written, the item is finished, and all
are told. -/
theorem placeBuyNow_calm (house : House) (store : Store) (caller : Caller) (id : ItemId)
    (calls : List AccessPoint) (notices : List Notice) :
    ∃ calls', house.placeBuyNow caller id (Floor.calm store calls notices) =
      match house.purchaseItem store caller id with
      | .error refusal => (.error (.refused refusal), Floor.calm store calls' notices)
      | .ok item =>
        let bid := purchase caller id item
        (.ok { bid with id := store.nextBidId }, Floor.calm (sold store bid) calls' (notices ++
          outbidNotices id item.round (store.standing item item.round).leader? caller.user
            bid.amount ++ [.closed id item.round caller.user bid.amount])) := by
  unfold placeBuyNow purchaseItem accept
  by_cases authorized : house.mayBid caller.user = true
  · cases loaded : store.listed id with
    | error refusal =>
      simp only [Action.bind_apply, authorize_apply, if_pos authorized, Action.loadItem_calm,
        loaded]
      exact ⟨_, rfl⟩
    | ok item =>
      have listed := (store.listed_eq_ok_iff id).1 loaded
      have current := (store.inRound_eq_ok_iff id item.round).2 ⟨listed, rfl⟩
      by_cases valid : Validation.buyNowViolations item (item.window.statusAt caller.now) = []
      · have closing := @appendClosing_calm store (purchase caller id item) item listed
          (.bidsFor :: .item :: .item :: calls) notices
        refine ⟨.appendClosing :: .bidsFor :: .item :: .item :: calls, ?_⟩
        simp only [Action.bind_apply, authorize_apply, if_pos authorized, Action.loadItem_calm,
          loaded, Action.loadRound_calm, current, Action.standing_calm, demand_apply, if_pos valid]
        simp only [purchase] at closing ⊢
        simp only [closing, Action.notify_calm, notifyOutbid_calm]
        rfl
      · simp only [Action.bind_apply, authorize_apply, if_pos authorized, Action.loadItem_calm,
          loaded, Action.loadRound_calm, current, demand_apply, if_neg valid]
        exact ⟨_, rfl⟩
  · simp only [Action.bind_apply, authorize_apply, if_neg authorized]
    exact ⟨_, rfl⟩

end PlaceBuyNow

/-- A proxy that has been taken back. -/
def withdrawn (caller : Caller) (proxy : Proxy) : Proxy :=
  { proxy with active := false, updatedAt := caller.now }

/-- In the round of an item, a ceiling that there is is taken back. -/
theorem removeProxy_calm (store : Store) (caller : Caller) (id : ItemId) (round : Round)
    (calls : List AccessPoint) (notices : List Notice) :
    ∃ calls', removeProxy caller id round (Floor.calm store calls notices) =
      match store.inRound id round with
      | .error refusal => (.error (.refused refusal), Floor.calm store calls' notices)
      | .ok _ =>
        match store.activeProxy? id round caller.user with
        | none => (.ok false, Floor.calm store calls' notices)
        | some proxy =>
          (.ok true, Floor.calm (store.putProxy (withdrawn caller proxy)).2 calls' notices) := by
  unfold removeProxy
  cases loaded : store.inRound id round with
  | error refusal =>
    simp only [Action.bind_apply, Action.loadRound_calm, loaded]
    exact ⟨_, rfl⟩
  | ok item =>
    simp only [Action.bind_apply, Action.loadRound_calm, loaded, Action.activeProxy?_calm]
    cases store.activeProxy? id round caller.user with
    | none => exact ⟨_, rfl⟩
    | some proxy => exact ⟨_, rfl⟩

end AuctionHouse.House
