import AuctionHouse.Proofs.House.Calm

/-!
# Runs

What happens to a house one thing after the other: calls, each by some user at some time, and the
writes of its staff.  The times of calls are free, so the clock may go either way between two of
them.  A run starts with an empty store, so that its items are registered in it.  `served` and
`change` say once what a call and an event can do; all that is proved of runs goes by their cases.
-/

namespace AuctionHouse

/-- The beginning of an hour of day zero. -/
def Instant.hour (hour : Nat) (h : hour < 24 := by decide) : Instant :=
  ⟨0, hour * 3600, 0, by decide +kernel, by decide +kernel,
    Nat.mul_lt_mul_of_pos_right h (by decide), by decide, fun leap => absurd leap (by decide)⟩

/-- A vase that is up for a day. -/
def Item.vase : Item where
  id := 1
  name := "vase"
  owner := 9
  startingPrice := .whole 10
  buyNowPrice := .whole 100
  bidStep := .whole 1
  thresholdPercent := .whole 80
  instantOnly := false
  currency := "USD"
  workflow := .active
  window := ⟨.hour 0, .hour 23⟩
  round := 0

/-- Something that happens to a house. -/
inductive Event where
  /-- A call by a user at a time. -/
  | call (caller : Caller) (call : Call)
  /-- The next round of an item is opened. -/
  | relist (item : ItemId)
  /-- An item is put in a state. -/
  | setWorkflow (item : ItemId) (workflow : Workflow)
  /-- An item is put up.  One with problems or with a number that is taken is not. -/
  | register (item : Item)

/-- The time of a call. -/
def Event.time? : Event → Option Instant
  | call caller _ => some caller.now
  | _ => none

namespace House

/-- What a call answers and the store that it leaves, if the store can be reached all the time. -/
def perform (house : House) (store : Store) (caller : Caller) (call : Call) :
    Except Stop Outcome × Store :=
  let (answer, floor) := house.serve caller call { store }
  (answer, floor.store)

/-- The store after an event. -/
def step (house : House) (store : Store) : Event → Store
  | .call caller call => (house.perform store caller call).2
  | .relist id =>
    match store.relist id with
    | .ok (_, next) => next
    | .error _ => store
  | .setWorkflow id workflow =>
    match store.setWorkflow id workflow with
    | .ok next => next
    | .error _ => store
  | .register item =>
    if item.problems = [] ∧ store.item? item.id = none then store.insertItem item else store

/-- The store after some events, from one that is given. -/
def runFrom (house : House) (store : Store) (events : List Event) : Store :=
  events.foldl house.step store

/-- The store after some events, from an empty one. -/
def run (house : House) (events : List Event) : Store := house.runFrom {} events

variable {house : House}

theorem runFrom_append (store : Store) (events later : List Event) :
    house.runFrom store (events ++ later) = house.runFrom (house.runFrom store events) later :=
  List.foldl_append

theorem runFrom_concat (store : Store) (events : List Event) (event : Event) :
    house.runFrom store (events ++ [event]) = house.step (house.runFrom store events) event := by
  rw [runFrom_append]
  rfl

theorem run_append (events later : List Event) :
    house.run (events ++ later) = house.runFrom (house.run events) later :=
  runFrom_append _ events later

theorem run_concat (events : List Event) (event : Event) :
    house.run (events ++ [event]) = house.step (house.run events) event :=
  runFrom_concat _ events event

/-- What holds of a store and is kept by every event holds after every run from it. -/
theorem runFrom_induction {motive : Store → Prop} {store : Store} (start : motive store)
    (kept : ∀ store event, motive store → motive (house.step store event))
    (events : List Event) : motive (house.runFrom store events) := by
  induction events generalizing store with
  | nil => exact start
  | cons event rest ih => exact ih (kept store event start)

/-- What a call can do: what it answers, and the store that it leaves. -/
inductive Served (house : House) (store : Store) (caller : Caller) :
    Call → Except Stop Outcome → Store → Prop where
  | stopped {call : Call} {stop : Stop} : Served house store caller call (.error stop) store
  | bid {id : ItemId} {round : Round} {amount : Decimal} {kind : BidKind} {item : Item}
      {counter : Option NewBid}
      (taken : BidTaken house store caller id round amount kind item counter) :
      Served house store caller (.placeBid id round amount kind)
        (.ok (.bid (receipt store (byHand caller id round amount kind) counter)))
        (store.append (byHand caller id round amount kind :: counter.toList)).2
  | purchase {id : ItemId} {item : Item} (taken : PurchaseTaken house store caller id item) :
      Served house store caller (.placeBuyNow id)
        (.ok (.purchase { purchase caller id item with id := store.nextBidId }))
        (sold store (purchase caller id item))
  | ceiling {id : ItemId} {round : Round} {ceiling : Decimal} {item : Item} {bids : List NewBid}
      (taken : CeilingTaken house store caller id round ceiling item)
      (answered : house.ceilingAnswer store caller id round ceiling item = .ok bids) :
      Served house store caller (.setProxy id round ceiling)
        (.ok (.proxy (ceilingPut store caller id round ceiling).1))
        ((ceilingPut store caller id round ceiling).2.append bids).2
  | ceilingFault {id : ItemId} {round : Round} {ceiling : Decimal} {item : Item} {fault : Fault}
      (taken : CeilingTaken house store caller id round ceiling item)
      (answered : house.ceilingAnswer store caller id round ceiling item = .error fault) :
      Served house store caller (.setProxy id round ceiling) (.error (.faulted fault))
        (ceilingPut store caller id round ceiling).2
  | noRemoval {id : ItemId} {round : Round} {item : Item} (listed : store.item? id = some item)
      (current : item.round = round) (found : store.activeProxy? id round caller.user = none) :
      Served house store caller (.removeProxy id round) (.ok (.proxyRemoved false)) store
  | removal {id : ItemId} {round : Round} {item : Item} {proxy : Proxy}
      (listed : store.item? id = some item) (current : item.round = round)
      (found : store.activeProxy? id round caller.user = some proxy) :
      Served house store caller (.removeProxy id round) (.ok (.proxyRemoved true))
        (store.putProxy (withdrawn caller proxy)).2

section Perform

variable {store : Store} {caller : Caller}

theorem perform_eq {call : Call} {answer : Except Stop Outcome} {after : Store}
    {calls : List AccessPoint} {notices : List Notice}
    (h : house.serve caller call (Floor.calm store [] []) =
      (answer, Floor.calm after calls notices)) :
    house.perform store caller call = (answer, after) := by
  have start : ({ store } : Floor) = Floor.calm store [] [] := rfl
  unfold perform
  rw [start, h]
  rfl

/-- A call that is a part with its answer wrapped up. -/
theorem wrap_apply {α : Type} {action : Action α} {wrap : α → Outcome} {floor after : Floor}
    {answer : Except Stop α} (h : action floor = (answer, after)) :
    (do return wrap (← action) : Action Outcome) floor = (answer.map wrap, after) := by
  rw [Action.bind_apply, h]
  cases answer <;> rfl

/-- What a bid answers, and the store that it leaves. -/
theorem perform_placeBid (house : House) (store : Store) (caller : Caller) (id : ItemId)
    (round : Round) (amount : Decimal) (kind : BidKind) :
    house.perform store caller (.placeBid id round amount kind) =
      match house.bidItem store caller id round amount kind with
      | .error refusal => (.error (.refused refusal), store)
      | .ok item =>
        match house.answerTo store item (byHand caller id round amount kind) with
        | .error fault => (.error (.faulted fault), store)
        | .ok counter =>
          (.ok (.bid (receipt store (byHand caller id round amount kind) counter)),
            (store.append (byHand caller id round amount kind :: counter.toList)).2) := by
  obtain ⟨calls, eq⟩ := house.placeBid_calm store caller id round amount kind [] []
  cases accepted : house.bidItem store caller id round amount kind with
  | error refusal =>
    rw [accepted] at eq
    exact perform_eq (wrap_apply eq)
  | ok item =>
    cases answered : house.answerTo store item (byHand caller id round amount kind) with
    | error fault =>
      simp only [accepted, answered] at eq ⊢
      exact perform_eq (wrap_apply eq)
    | ok counter =>
      simp only [accepted, answered] at eq ⊢
      exact perform_eq (wrap_apply eq)

/-- What a purchase answers, and the store that it leaves. -/
theorem perform_placeBuyNow (house : House) (store : Store) (caller : Caller) (id : ItemId) :
    house.perform store caller (.placeBuyNow id) =
      match house.purchaseItem store caller id with
      | .error refusal => (.error (.refused refusal), store)
      | .ok item => (.ok (.purchase { purchase caller id item with id := store.nextBidId }),
          sold store (purchase caller id item)) := by
  obtain ⟨calls, eq⟩ := house.placeBuyNow_calm store caller id [] []
  cases accepted : house.purchaseItem store caller id with
  | error refusal =>
    rw [accepted] at eq
    exact perform_eq (wrap_apply eq)
  | ok item =>
    rw [accepted] at eq
    exact perform_eq (wrap_apply eq)

/-- What a ceiling answers, and the store that it leaves. -/
theorem perform_setProxy (house : House) (store : Store) (caller : Caller) (id : ItemId)
    (round : Round) (ceiling : Decimal) :
    let put := ceilingPut store caller id round ceiling
    house.perform store caller (.setProxy id round ceiling) =
      match house.ceilingItem store caller id round ceiling with
      | .error refusal => (.error (.refused refusal), store)
      | .ok item =>
        match house.ceilingAnswer store caller id round ceiling item with
        | .error fault => (.error (.faulted fault), put.2)
        | .ok bids => (.ok (.proxy put.1), (put.2.append bids).2) := by
  intro put
  obtain ⟨calls, eq⟩ := house.setProxy_calm store caller id round ceiling [] []
  cases accepted : house.ceilingItem store caller id round ceiling with
  | error refusal =>
    rw [accepted] at eq
    exact perform_eq (wrap_apply eq)
  | ok item =>
    cases answered : house.ceilingAnswer store caller id round ceiling item with
    | error fault =>
      simp only [accepted, answered] at eq ⊢
      exact perform_eq (wrap_apply eq)
    | ok bids =>
      simp only [accepted, answered] at eq ⊢
      exact perform_eq (wrap_apply eq)

/-- What taking a ceiling back answers, and the store that it leaves. -/
theorem perform_removeProxy (house : House) (store : Store) (caller : Caller) (id : ItemId)
    (round : Round) :
    house.perform store caller (.removeProxy id round) =
      match store.inRound id round with
      | .error refusal => (.error (.refused refusal), store)
      | .ok _ =>
        match store.activeProxy? id round caller.user with
        | none => (.ok (.proxyRemoved false), store)
        | some proxy =>
          (.ok (.proxyRemoved true), (store.putProxy (withdrawn caller proxy)).2) := by
  obtain ⟨calls, eq⟩ := removeProxy_calm store caller id round [] []
  cases loaded : store.inRound id round with
  | error refusal =>
    rw [loaded] at eq
    exact perform_eq (wrap_apply eq)
  | ok item =>
    cases found : store.activeProxy? id round caller.user with
    | none =>
      simp only [loaded, found] at eq ⊢
      exact perform_eq (wrap_apply eq)
    | some proxy =>
      simp only [loaded, found] at eq ⊢
      exact perform_eq (wrap_apply eq)

theorem perform_setProxy_of_taken {id : ItemId} {round : Round} {ceiling : Decimal} {item : Item}
    (taken : CeilingTaken house store caller id round ceiling item) :
    house.perform store caller (.setProxy id round ceiling) =
      match house.ceilingAnswer store caller id round ceiling item with
      | .error fault => (.error (.faulted fault), (ceilingPut store caller id round ceiling).2)
      | .ok bids => (.ok (.proxy (ceilingPut store caller id round ceiling).1),
          ((ceilingPut store caller id round ceiling).2.append bids).2) := by
  rw [perform_setProxy, ceilingItem_eq_ok_iff.2 taken]

/-- A call does what it can do. -/
theorem served (house : House) (store : Store) (caller : Caller) (call : Call) :
    Served house store caller call (house.perform store caller call).1
      (house.perform store caller call).2 := by
  cases call with
  | placeBid id round amount kind =>
    rw [perform_placeBid]
    cases accepted : house.bidItem store caller id round amount kind with
    | error refusal => exact .stopped
    | ok item =>
      cases answered : house.answerTo store item (byHand caller id round amount kind) with
      | error fault =>
        simp only [answered]
        exact .stopped
      | ok counter =>
        simp only [answered]
        exact .bid (bidTaken_iff.2 ⟨accepted, answered⟩)
  | placeBuyNow id =>
    rw [perform_placeBuyNow]
    cases accepted : house.purchaseItem store caller id with
    | error refusal => exact .stopped
    | ok item => exact .purchase (purchaseItem_eq_ok_iff.1 accepted)
  | setProxy id round ceiling =>
    rw [perform_setProxy]
    cases accepted : house.ceilingItem store caller id round ceiling with
    | error refusal => exact .stopped
    | ok item =>
      have taken := ceilingItem_eq_ok_iff.1 accepted
      cases answered : house.ceilingAnswer store caller id round ceiling item with
      | error fault =>
        simp only [answered]
        exact .ceilingFault taken answered
      | ok bids =>
        simp only [answered]
        exact .ceiling taken answered
  | removeProxy id round =>
    rw [perform_removeProxy]
    cases loaded : store.inRound id round with
    | error refusal => exact .stopped
    | ok item =>
      obtain ⟨listed, current⟩ := (store.inRound_eq_ok_iff id round).1 loaded
      cases found : store.activeProxy? id round caller.user with
      | none => exact .noRemoval listed current found
      | some proxy => exact .removal listed current found

end Perform

section Step

variable {store : Store} {id : ItemId} {item : Item}

theorem step_relist (house : House) {round : Round} {next : Store}
    (opened : store.relist id = .ok (round, next)) : house.step store (.relist id) = next := by
  simp only [step, opened]

theorem step_relist_of_error (house : House) {stop : Stop}
    (failed : store.relist id = .error stop) : house.step store (.relist id) = store := by
  simp only [step, failed]

theorem step_setWorkflow_of_none (house : House) (missing : store.item? id = none)
    (workflow : Workflow) : house.step store (.setWorkflow id workflow) = store := by
  simp only [step, Store.setWorkflow, missing]

theorem step_register (house : House) (valid : item.problems = [])
    (fresh : store.item? item.id = none) :
    house.step store (.register item) = store.insertItem item :=
  if_pos ⟨valid, fresh⟩

theorem step_register_of_problems (house : House) (invalid : item.problems ≠ []) :
    house.step store (.register item) = store :=
  if_neg fun valid => invalid valid.1

end Step

/-- What an event can do to the store. -/
inductive Change (house : House) (store : Store) : Event → Store → Prop where
  | call {caller : Caller} {call : Call} {answer : Except Stop Outcome} {after : Store}
      (served : Served house store caller call answer after) :
      Change house store (.call caller call) after
  | relist {id : ItemId} {item : Item} {round : Round} (listed : store.item? id = some item)
      (opened : item.round.next = .ok round) :
      Change house store (.relist id)
        { store with items := store.items.modify id fun _ => item.reopened round }
  | setWorkflow {id : ItemId} {item : Item} {workflow : Workflow}
      (listed : store.item? id = some item) :
      Change house store (.setWorkflow id workflow)
        { store with items := store.items.modify id fun item => { item with workflow } }
  | register {item : Item} (valid : item.problems = []) (fresh : store.item? item.id = none) :
      Change house store (.register item) (store.insertItem item)
  | nothing {event : Event} : Change house store event store

/-- An event does what it can do. -/
theorem change (house : House) (store : Store) (event : Event) :
    Change house store event (house.step store event) := by
  cases event with
  | call caller call => exact .call (served house store caller call)
  | relist id =>
    cases relisted : store.relist id with
    | error stop =>
      rw [step_relist_of_error house relisted]
      exact .nothing
    | ok opened =>
      rw [step_relist house relisted]
      obtain ⟨item, listed, next_eq, after_eq⟩ := Store.relist_eq_ok_iff.1 relisted
      rw [after_eq]
      exact .relist listed next_eq
  | setWorkflow id workflow =>
    simp only [step, Store.setWorkflow]
    cases listed : store.item? id with
    | none => exact .nothing
    | some item => exact .setWorkflow listed
  | register item =>
    simp only [step]
    split
    · next h => exact .register h.1 h.2
    · exact .nothing

end House

end AuctionHouse
