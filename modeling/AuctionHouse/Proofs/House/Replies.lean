import AuctionHouse.Proofs.House.Access

/-!
# What is answered in a run

An event has a reply, and so has a question.  A session answers a list of both, one after the other,
and questions change nothing in it (`respond_query`).
-/

namespace AuctionHouse.House

/-- What comes back from an event. -/
inductive Reply where
  /-- The answer to a call. -/
  | served (answer : Except Stop Outcome)
  /-- The round that is opened. -/
  | relisted (answer : Except Stop Round)
  /-- Whether an item is put in a state. -/
  | put (answer : Except StorageError Unit)
  /-- Whether an item is put up. -/
  | registered (taken : Bool)

/-- A turn of a session: something happens, or something is asked. -/
inductive Turn where
  | event (event : Event)
  | query (now : Instant) (query : Query)

/-- What comes back from a turn. -/
inductive Response where
  | event (reply : Reply)
  | query (answer : Except Stop Answer)

/-- The event that a turn is. -/
def Turn.event? : Turn → Option Event
  | .event happening => some happening
  | .query .. => none

/-- The reply to an event. -/
def reply (house : House) (store : Store) : Event → Reply
  | .call caller call => .served (house.perform store caller call).1
  | .relist id => .relisted ((store.relist id).map (·.1))
  | .setWorkflow id workflow => .put ((store.setWorkflow id workflow).map fun _ => ())
  | .register item => .registered (item.problems = [] ∧ store.item? item.id = none)

/-- What comes back from a turn, and the store after it. -/
def respond (house : House) (store : Store) : Turn → Response × Store
  | .event event => (.event (house.reply store event), house.step store event)
  | .query now query =>
    let (answer, floor) := house.answer now query { store }
    (.query answer, floor.store)

/-- What comes back from some turns one after the other, and the store after them. -/
def session (house : House) (store : Store) : List Turn → List Response × Store
  | [] => ([], store)
  | turn :: rest =>
    let (response, next) := house.respond store turn
    let (responses, last) := house.session next rest
    (response :: responses, last)

/-- The replies to some events, each with its event. -/
def exchange (house : House) (store : Store) : List Event → List (Event × Reply)
  | [] => []
  | event :: rest =>
    (event, house.reply store event) :: house.exchange (house.step store event) rest

theorem reads_answer (house : House) (now : Instant) (query : Query) :
    (house.answer now query).Reads := by
  have shown {α β : Type} {action : Action α} {wrap : α → β} (reads : action.Reads) :
      (do return wrap (← action) : Action β).Reads := reads.bind fun _ => Action.reads_pure _
  cases query with
  | auctionState id round =>
    refine shown ((Action.reads_loadItem id).bind fun item => ?_)
    refine (Action.reads_standing item round).bind fun standing => ?_
    refine Action.Reads.bind ?_ fun visible =>
      (Action.reads_read .bidsFor _).bind fun bids => Action.reads_pure _
    intro floor
    cases item.buyNowVisible now standing.minPrice <;> rfl
  | proxyStatus id round user =>
    refine shown ((Action.reads_loadItem id).bind fun item => ?_)
    refine (Action.reads_standing item round).bind fun standing => ?_
    exact (Action.reads_read .activeProxy _).bind fun proxy => Action.reads_pure _
  | feeFor price currency =>
    refine shown fun floor => ?_
    cases house.fees.quote price currency <;> rfl
  | highestBids id round limit => exact shown (Action.reads_read .bidsFor _)
  | item id => exact shown (Action.reads_read .item _)
  | winner id round => exact shown (Action.reads_read .bidsFor _)
  | uniqueBidders id round => exact shown (Action.reads_read .bidsFor _)
  | bidsByUser id round => exact shown (Action.reads_read .bidsFor _)

variable {house : House} {store : Store}

/-- A question leaves the store as it is. -/
theorem respond_query (now : Instant) (query : Query) :
    (house.respond store (.query now query)).2 = store :=
  reads_answer house now query _

end AuctionHouse.House
