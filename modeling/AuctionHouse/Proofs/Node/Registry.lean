import AuctionHouse.Proofs.Node.Messages
import AuctionHouse.Proofs.House.History

/-!
# The items of a node

A node gives its items the numbers from one on, in the order in which they are registered, and keeps
them all.  `Sound` is what every message keeps: the store is in order, and there are items under
exactly the numbers that have been given out.
-/

namespace AuctionHouse

namespace Node

/-- What is replied to a message if it registers an item. -/
def registration? : Message × Except NodeFailure Json → Option Json
  | (message, reply) => if message.method = "admin_registerItem" then reply.toOption else none

/-- The event that a request is in the house of a node, if it is one. -/
def event? (node : Node) : Request → Option Event
  | .register terms => some (.register (node.itemFor terms))
  | .relist id => some (.relist id)
  | .setWorkflow id workflow => some (.setWorkflow id workflow)
  | .call sender made => some (.call ⟨sender, node.clock⟩ made)
  | .setClock _ | .advanceClock _ | .ask _ => none

variable {node : Node}

/-- Whether the store of a node is in order, with items under exactly the numbers given out. -/
structure Sound (node : Node) : Prop where
  kept : node.house.Kept node.store
  pos : 1 ≤ node.nextItemId
  ids : ∀ id, (∃ item, node.store.item? id = some item) ↔ 1 ≤ id ∧ id < node.nextItemId

theorem sound_start (config : Config) (now : Instant) : (start config now).Sound where
  kept := House.kept_empty _
  pos := Nat.le_refl 1
  ids id := by
    constructor
    · rintro ⟨item, listed⟩
      cases listed
    · rintro ⟨pos, lt⟩
      exact absurd lt (Nat.not_lt.2 pos)

theorem Sound.fresh (sound : node.Sound) : node.store.item? node.nextItemId = none := by
  cases listed : node.store.item? node.nextItemId with
  | none => rfl
  | some item => exact absurd ((sound.ids _).1 ⟨item, listed⟩).2 (Nat.lt_irrefl _)

open House

variable {after : Node} {request : Request} {reply : Except NodeFailure Reply}

theorem eq_relist_of_event? {id : ItemId} (asked : node.event? request = some (.relist id)) :
    request = .relist id := by
  cases request <;> simp_all [event?]

theorem Handled.house_eq (handled : Handled node request reply after) :
    after.house = node.house := by
  cases handled <;> rfl

theorem Handled.nextItemId_le (handled : Handled node request reply after) :
    node.nextItemId ≤ after.nextItemId := by
  cases handled with
  | registered => exact Nat.le_succ _
  | _ => exact Nat.le_refl _

/-- A request does to the store what its event does in the house. -/
theorem Handled.store_eq (handled : Handled node request reply after)
    (fresh : node.store.item? node.nextItemId = none) :
    after.store = (node.event? request).elim node.store (node.house.step node.store) := by
  cases handled with
  | clockSet | clockAdvanced | clockStuck | answered => rfl
  | registered valid => exact (step_register node.house valid fresh).symm
  | notRegistered invalid => exact (step_register_of_problems node.house invalid).symm
  | relisted opened => exact (step_relist node.house opened).symm
  | notRelisted failed => exact (step_relist_of_error node.house failed).symm
  | workflowPut | called => rfl
  | workflowNotPut missing => exact (step_setWorkflow_of_none node.house missing _).symm

theorem Sound.handled (sound : node.Sound) (handled : Handled node request reply after) :
    after.Sound := by
  have kept : after.house.Kept after.store := by
    rw [handled.house_eq, handled.store_eq sound.fresh]
    cases node.event? request with
    | none => exact sound.kept
    | some event => exact sound.kept.step event
  refine ⟨kept, Nat.le_trans sound.pos handled.nextItemId_le, ?_⟩
  -- All but a registration leave the numbers that there are items under.
  have step (event : Event) (other : ∀ item, event ≠ .register item) (id : ItemId) :=
    (@listed_step_iff node.house node.store event other id).trans (sound.ids id)
  cases handled with
  | @relisted id round next opened =>
    rw [← step_relist node.house opened]
    exact step (.relist id) fun _ same => nomatch same
  | @workflowPut id item workflow listed =>
    exact step (.setWorkflow id workflow) fun _ same => nomatch same
  | @called sender made => exact step (.call ⟨sender, node.clock⟩ made) fun _ same => nomatch same
  | @registered terms valid =>
    intro id
    have own : (node.itemFor terms).id = node.nextItemId := rfl
    simp only [Store.item?_insertItem, own]
    by_cases new : id = node.nextItemId
    · simp [new, sound.pos]
    · simp only [if_neg new, sound.ids, Nat.lt_succ_iff_lt_or_eq, or_iff_left new]
  | _ => exact sound.ids

section Runs

variable {message : Message} {answer : Except NodeFailure Json}

theorem Sound.received (sound : node.Sound) (received : Received node message answer after) :
    after.Sound := by
  cases received with
  | unread => exact sound
  | handled _ handled => exact sound.handled handled

/-- Every run keeps a node sound. -/
theorem Sound.run (sound : node.Sound) (messages : List Message) : (node.run messages).Sound := by
  induction messages generalizing node with
  | nil => exact sound
  | cons message rest ih => exact ih (sound.received (Node.received node message))

theorem Received.house_eq (received : Received node message answer after) :
    after.house = node.house := by
  cases received with
  | unread => rfl
  | handled _ handled => exact handled.house_eq

theorem Received.store_eq (received : Received node message answer after) (sound : node.Sound) :
    after.store =
      node.house.runFrom node.store (message.request?.bind node.event?).toList := by
  cases received with
  | unread unread =>
    rw [unread]
    rfl
  | @handled request reply _ read handled =>
    rw [handled.store_eq sound.fresh, read, Option.bind_some]
    cases node.event? request <;> rfl

/-- The events in the house of a node that some messages are. -/
def events (node : Node) : List Message → List Event
  | [] => []
  | message :: rest =>
    (message.request?.bind node.event?).toList ++ (node.receive message).2.events rest

/-- A run of a node does to its store what a run of its house does. -/
theorem Sound.store_run (sound : node.Sound) (messages : List Message) :
    (node.run messages).store = node.house.runFrom node.store (node.events messages) := by
  induction messages generalizing node with
  | nil => rfl
  | cons message rest ih =>
    have received := Node.received node message
    rw [events, runFrom_append, ← received.store_eq sound, ← received.house_eq]
    exact ih (sound.received received)

/-- A message registers an item under the next number, or it leaves that. -/
theorem Received.registration? (received : Received node message answer after) :
    Node.registration? (message, answer) = none ∧ after.nextItemId = node.nextItemId ∨
      Node.registration? (message, answer) = some (.ofNat node.nextItemId) ∧
        after.nextItemId = node.nextItemId + 1 := by
  cases received with
  | unread =>
    refine .inl ⟨?_, rfl⟩
    simp [Node.registration?, Except.toOption]
  | @handled request reply _ read handled =>
    have goes := Message.method?_of_request? read
    by_cases named : message.method = "admin_registerItem"
    · obtain ⟨terms, rfl⟩ := Request.eq_register_of_method? (goes.trans (congrArg some named))
      cases handled with
      | registered => exact .inr ⟨if_pos named, rfl⟩
      | notRegistered => exact .inl ⟨if_pos named, rfl⟩
    · refine .inl ⟨if_neg named, ?_⟩
      cases handled with
      | registered => exact absurd (Option.some.inj goes).symm named
      | _ => rfl

/-- The items that are registered get the numbers from the next one on, in their order. -/
theorem registrations_exchange (node : Node) (messages : List Message) :
    ∃ count, (node.exchange messages).filterMap registration? =
        (List.range' node.nextItemId count).map .ofNat ∧
      (node.run messages).nextItemId = node.nextItemId + count := by
  induction messages generalizing node with
  | nil => exact ⟨0, rfl, rfl⟩
  | cons message rest ih =>
    have run_eq : node.run (message :: rest) = (node.receive message).2.run rest := rfl
    -- What follows is counted from the number that the first message leaves.
    obtain ⟨count, ids_eq, next_eq⟩ := ih (node.receive message).2
    rw [run_eq, next_eq, exchange]
    rcases (received node message).registration? with ⟨none_eq, same⟩ | ⟨some_eq, next⟩
    · rw [List.filterMap_cons_none none_eq, ids_eq, same]
      exact ⟨count, rfl, rfl⟩
    · rw [List.filterMap_cons_some some_eq, ids_eq, next]
      exact ⟨count + 1, rfl, Nat.succ_add_eq_add_succ _ _⟩

/-- A message that fails leaves the items, the next number and the clock.  A ceiling can be put
before its call stops, but that is not about items. -/
theorem Received.same_of_error {failure : NodeFailure}
    (received : Received node message (.error failure) after) :
    after.store.items = node.store.items ∧ after.nextItemId = node.nextItemId ∧
      after.clock = node.clock := by
  generalize same : Except.error failure = answer at received
  cases received with
  | unread => exact ⟨rfl, rfl, rfl⟩
  | @handled request reply _ read handled =>
    cases handled with
    | clockSet | clockAdvanced | registered | relisted | workflowPut => cases same
    | clockStuck | notRegistered | notRelisted | workflowNotPut | answered => exact ⟨rfl, rfl, rfl⟩
    | @called sender made =>
      cases stopped : (node.house.perform node.store ⟨sender, node.clock⟩ made).1 with
      | error stop => exact ⟨items_step_of_stopped stopped, rfl, rfl⟩
      | ok outcome =>
        rw [stopped] at same
        cases same

/-- A message that relists an item opens its next round, if there is one, and no other message
changes an item in more than its state. -/
theorem Received.item (received : Received node message answer after) (sound : node.Sound)
    {id : ItemId} {item : Item} (listed : node.store.item? id = some item) :
    ∃ later, after.store.item? id = some later ∧ item.SameTerms later ∧
      if message.relists? = some id then
        if item.round = .last then answer = .error (.faulted .roundTooLarge) ∧ later = item
        else answer = .ok (.ofNat later.round.toNat) ∧ later.round.toNat = item.round.toNat + 1
      else later.round = item.round := by
  cases received with
  | unread unread =>
    refine ⟨item, listed, .refl item, ?_⟩
    rw [if_neg]
    intro relists
    rw [Message.request?_eq_relist_iff.2 relists] at unread
    cases unread
  | @handled request reply _ read handled =>
    by_cases relists : message.relists? = some id
    · simp only [if_pos relists]
      obtain rfl : request = .relist id :=
        Option.some.inj (read.symm.trans (Message.request?_eq_relist_iff.2 relists))
      cases handled with
      | @relisted _ round next relisted =>
        obtain ⟨opened, rfl⟩ := Store.opened_of_listed listed relisted
        refine ⟨item.reopened round, ?_, rfl, ?_⟩
        · rw [Store.item?_modify, if_pos rfl, listed]
          rfl
        · rw [if_neg (Round.ne_last_of_next opened)]
          exact ⟨rfl, Round.next_eq_ok_iff.1 opened⟩
      | notRelisted failed =>
        obtain ⟨at_last, rfl⟩ := Store.last_of_listed listed failed
        refine ⟨item, listed, .refl item, ?_⟩
        rw [if_pos at_last]
        exact ⟨rfl, rfl⟩
    · simp only [if_neg relists]
      -- The event of the request, if it has one, is not the next round of this item.
      have store_eq := handled.store_eq sound.fresh
      have other : request ≠ .relist id := by
        rintro rfl
        exact relists (Message.request?_eq_relist_iff.1 read)
      cases asked : node.event? request with
      | none =>
        rw [asked] at store_eq
        exact ⟨item, store_eq ▸ listed, .refl item, rfl⟩
      | some event =>
        rw [asked] at store_eq
        obtain ⟨later, later_listed, changed⟩ := itemChange_step node.house listed event
        refine ⟨later, store_eq ▸ later_listed, changed.sameTerms, changed.round_eq ?_⟩
        rintro rfl
        exact other (eq_relist_of_event? asked)

/-- A message to register an item is taken exactly if there is nothing wrong with its terms. -/
theorem Received.ok_iff (received : Received node message answer after)
    (named : message.method = "admin_registerItem") (value : Json) : answer = .ok value ↔
      value = .ofNat node.nextItemId ∧
        ∃ terms, message.registers? = some terms ∧ (node.itemFor terms).problems = [] := by
  cases received with
  | unread unread =>
    refine ⟨nofun, ?_⟩
    rintro ⟨-, terms, registers, -⟩
    rw [Message.request?_eq_register_iff.2 registers] at unread
    cases unread
  | @handled request reply _ read handled =>
    have goes := Message.method?_of_request? read
    obtain ⟨terms, rfl⟩ := Request.eq_register_of_method? (goes.trans (congrArg some named))
    have registers := Message.request?_eq_register_iff.1 read
    cases handled with
    | registered valid =>
      refine ⟨fun done => ⟨(Except.ok.inj done).symm, terms, registers, valid⟩, ?_⟩
      rintro ⟨rfl, -⟩
      rfl
    | notRegistered invalid =>
      refine ⟨nofun, ?_⟩
      rintro ⟨-, terms', registers', valid⟩
      obtain rfl : terms = terms' := Option.some.inj (registers.symm.trans registers')
      exact absurd valid invalid

/-- An item that is registered has the terms of its message. -/
theorem Received.item_of_registers (received : Received node message answer after)
    {terms : Registration} (registers : message.registers? = some terms)
    (valid : (node.itemFor terms).problems = []) :
    after.store.item? node.nextItemId = some (node.itemFor terms) := by
  have asked := Message.request?_eq_register_iff.2 registers
  cases received with
  | unread unread =>
    rw [asked] at unread
    cases unread
  | @handled request reply _ read handled =>
    obtain rfl : request = .register terms := Option.some.inj (read.symm.trans asked)
    cases handled with
    | registered => exact (Store.item?_insertItem _ _ _).trans (if_pos rfl)
    | notRegistered invalid => exact absurd valid invalid

/-- After any messages to a node that is started, the items are under the numbers from one to that
of the registrations, in their order, and the next number is the one after.  Each is under its own
number and has nothing wrong with its terms.  A message that fails leaves the items, the next number
and the clock.  One that registers an item is taken exactly if there is nothing wrong with its
terms, and the item has them.  Any message leaves every item its terms, and its round unless it relists the
item, which opens the next round.  After the last round there is none, and the message fails. -/
theorem registry_kept (config : Config) (now : Instant) (messages : List Message) :
    let start := Node.start config now
    let node := start.run messages
    let ids := (start.exchange messages).filterMap registration?
    ids = (List.range' 1 ids.length).map .ofNat ∧
    node.nextItemId = ids.length + 1 ∧
    (∀ id, (∃ item, node.store.item? id = some item) ↔ 1 ≤ id ∧ id ≤ ids.length) ∧
    (∀ id item, node.store.item? id = some item → item.id = id ∧ item.problems = []) ∧
    ∀ message,
      let answer := (node.receive message).1
      let after := (node.receive message).2
      (∀ failure, answer = .error failure → after.store.items = node.store.items ∧
        after.nextItemId = node.nextItemId ∧ after.clock = node.clock) ∧
      (message.method = "admin_registerItem" → ∀ value, answer = .ok value ↔
        value = .ofNat node.nextItemId ∧
          ∃ terms, message.registers? = some terms ∧ (node.itemFor terms).problems = []) ∧
      (∀ terms, message.registers? = some terms → (node.itemFor terms).problems = [] →
        after.store.item? node.nextItemId = some (node.itemFor terms)) ∧
      ∀ id item, node.store.item? id = some item →
        ∃ later, after.store.item? id = some later ∧ item.SameTerms later ∧
          if message.relists? = some id then
            if item.round = .last then answer = .error (.faulted .roundTooLarge) ∧ later = item
            else answer = .ok (.ofNat later.round.toNat) ∧ later.round.toNat = item.round.toNat + 1
          else later.round = item.round := by
  intro start node ids
  have sound : node.Sound := (sound_start config now).run messages
  obtain ⟨count, ids_eq, next_eq⟩ := start.registrations_exchange messages
  have length_eq : ids.length = count := by
    rw [show ids = _ from ids_eq, List.length_map, List.length_range']
  have next_eq : node.nextItemId = ids.length + 1 := by
    rw [length_eq, show node.nextItemId = _ from next_eq]
    exact Nat.add_comm 1 count
  refine ⟨length_eq ▸ ids_eq, next_eq, ?_, sound.kept.items, ?_⟩
  · intro id
    rw [sound.ids, next_eq, Nat.lt_succ_iff]
  · intro message answer after
    have received : Received node message answer after := Node.received node message
    refine ⟨?_, received.ok_iff, fun terms => received.item_of_registers,
      fun id item => received.item sound⟩
    intro failure failed
    rw [failed] at received
    exact received.same_of_error

end Runs

end Node

end AuctionHouse
