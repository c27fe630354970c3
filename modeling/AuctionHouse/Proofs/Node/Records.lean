import Mathlib.Data.List.Find
import AuctionHouse.Proofs.House.Aftermath
import AuctionHouse.Proofs.Node.Registry

/-!
# The records of the house

What the store is meant to keep of bids and proxies (`Store.WellKept`) follows from what every run
keeps, and the ledger is only written at its end.  Both hold of every house, wherever access to its
store fails, and of every node.  What a call answers is in the store that it leaves
(`stored_of_served`).
-/

namespace AuctionHouse

namespace Store

/-- Bids under their items and rounds with one more, behind those of its round. -/
def push (book : ItemId → Round → List Bid) (bid : Bid) (item : ItemId) (round : Round) :
    List Bid :=
  book item round ++ if bid.item = item ∧ bid.round = round then [bid] else []

/-- The bids under their items and rounds, one pushed after the other. -/
def book (store : Store) : ItemId → Round → List Bid :=
  store.ledger.foldl push fun _ _ => []

theorem foldl_push (bids : List Bid) (book : ItemId → Round → List Bid) (item : ItemId)
    (round : Round) : bids.foldl push book item round =
      book item round ++ bids.filter fun bid => bid.item = item && bid.round = round := by
  induction bids generalizing book with
  | nil => simp
  | cons bid rest ih =>
    rw [List.foldl_cons, ih, push]
    by_cases here : bid.item = item ∧ bid.round = round
    · simp [here]
    · simp [here, ← Bool.decide_and]

/-- The bids of a round are those that are pushed under it. -/
theorem book_eq (store : Store) : store.book = store.bidsFor := by
  funext item round
  exact foldl_push _ _ _ _

/-- Whether a proxy is active for a user in a round. -/
def ActiveFor (item : ItemId) (round : Round) (user : UserId) (proxy : Proxy) : Bool :=
  proxy.active && proxy.item = item && proxy.round = round && proxy.user = user

/-- What is true of the records of a house at any time. -/
structure WellKept (store : Store) : Prop where
  own_round : ∀ item round, ∀ bid ∈ store.book item round, bid.item = item ∧ bid.round = round
  ids_nodup : (store.ledger.map (·.id)).Nodup
  ids_rise : ∀ item round, (store.book item round).Pairwise fun a b => a.id < b.id
  ids_given : ∀ bid ∈ store.ledger, bid.id < store.nextBidId
  offers : ∀ bid ∈ store.ledger, bid.offer ≠ .rejected
  proxies_own : ∀ id proxy, store.proxies.get? id = some proxy →
    proxy.id = id ∧ id < store.nextProxyId
  /-- A user has at most one active proxy in a round. -/
  active_unique : ∀ item round user, ∀ p ∈ store.proxies.values, ∀ q ∈ store.proxies.values,
    ActiveFor item round user p → ActiveFor item round user q → p = q
  /-- The active proxy of a user is found whatever the order in which one looks. -/
  active_orderless : ∀ item round user (order : List Proxy), order.Perm store.proxies.values →
    order.find? (ActiveFor item round user) = store.activeProxy? item round user

variable {store after : Store}

theorem activeFor_iff {item : ItemId} {round : Round} {user : UserId} {proxy : Proxy} :
    ActiveFor item round user proxy ↔
      (proxy.active = true ∧ proxy.item = item ∧ proxy.round = round) ∧ proxy.user = user := by
  simp [ActiveFor, and_assoc]

theorem activeProxy?_eq_find? (store : Store) (item : ItemId) (round : Round) (user : UserId) :
    store.activeProxy? item round user =
      store.proxies.values.find? (ActiveFor item round user) := by
  unfold activeProxy? activeProxies
  rw [List.find?_filter]
  congr 1
  funext proxy
  simp [ActiveFor]

theorem ProxiesKept.activeFor_unique (kept : store.ProxiesKept) (item : ItemId) (round : Round)
    (user : UserId) : ∀ p ∈ store.proxies.values, ∀ q ∈ store.proxies.values,
      ActiveFor item round user p → ActiveFor item round user q → p = q := by
  intro p p_mem q q_mem p_active q_active
  obtain ⟨p_here, p_user⟩ := activeFor_iff.1 p_active
  obtain ⟨q_here, q_user⟩ := activeFor_iff.1 q_active
  exact kept.single item round p (mem_activeProxies.2 ⟨p_mem, p_here⟩) q
    (mem_activeProxies.2 ⟨q_mem, q_here⟩) (p_user.trans q_user.symm)

theorem WellKept.of_kept {house : House} (kept : house.Kept store) : store.WellKept where
  own_round item round bid mem := by
    rw [book_eq, mem_bidsFor] at mem
    exact mem.2
  ids_nodup := List.pairwise_map.2 (kept.ledger.ids.imp Nat.ne_of_lt)
  ids_rise item round := by
    rw [book_eq]
    exact kept.ledger.ids.filter _
  ids_given := kept.ledger.ids_lt
  offers := kept.ledger.offers
  proxies_own id proxy found :=
    ⟨(kept.proxies.keyed id proxy found).1, (kept.proxies.keyed id proxy found).2.2⟩
  active_unique := kept.proxies.activeFor_unique
  active_orderless item round user order perm := by
    rw [activeProxy?_eq_find?]
    apply List.find?_eq_find?_of_perm perm
    rintro p ⟨p_in, p_active⟩ q ⟨q_in, q_active⟩
    exact kept.proxies.activeFor_unique item round user p (perm.mem_iff.1 p_in) q
      (perm.mem_iff.1 q_in) p_active q_active

/-- If bids are written at the end of the ledger, they are at the end of each round. -/
theorem book_prefix (written : store.ledger <+: after.ledger) (item : ItemId) (round : Round) :
    store.book item round <+: after.book item round := by
  rw [book_eq, book_eq]
  exact written.filter _

end Store

/-- Whether a call leaves what it answers in the store: its bids, and no others, at the end of the
ledger, and its proxy under its number. -/
def Outcome.Stored (before after : Store) : Outcome → Prop
  | .bid receipt => after.ledger = before.ledger ++ receipt.bid :: receipt.counter.toList
  | .purchase written => after.ledger = before.ledger ++ [written]
  | .proxy saved => after.proxies.get? saved.id = some saved
  | .proxyRemoved _ => after.ledger = before.ledger

namespace House

theorem stored_of_served {house : House} {store after : Store} {caller : Caller} {call : Call}
    {outcome : Outcome} (served : Served house store caller call (.ok outcome) after) :
    outcome.Stored store after := by
  unfold Outcome.Stored
  cases served with
  | bid taken =>
    exact (Store.ledger_append _ _).trans (congrArg (store.ledger ++ ·) (append_receipt _ _ _))
  | @purchase id item taken => exact store.ledger_append [House.purchase caller id item]
  | @ceiling id round ceiling item bids taken answered =>
    rw [Store.proxies_append]
    exact Store.get?_putProxy_self _ _
  | noRemoval => exact rfl
  | removal => exact Store.ledger_putProxy

end House

namespace Node

/-- Messages only write at the end of the ledger. -/
theorem Sound.ledger_run {node : Node} (sound : node.Sound) (messages : List Message) :
    node.store.ledger <+: (node.run messages).store.ledger := by
  obtain ⟨written, ledger_eq, -⟩ :=
    House.ledger_runFrom node.house node.store (node.events messages)
  rw [sound.store_run]
  exact ⟨written, ledger_eq.symm⟩

end Node

/-- The records are well kept after all that happens to a house, wherever access to its store fails,
and after all messages to a node.  What comes next leaves the bids that each round has and puts
others behind them; if it is a call that is answered, what it answers is in the store. -/
theorem records_kept :
    (∀ (house : House) (events : List (Outages × Event)),
      let store := house.runThrough {} events
      store.WellKept ∧
      (∀ event item round,
        store.book item round <+: (house.stepThrough store event).book item round) ∧
      ∀ caller call outcome, (house.perform store caller call).1 = .ok outcome →
        outcome.Stored store (house.perform store caller call).2) ∧
    ∀ (config : Config) (now : Instant) (messages : List Message),
      let node := (Node.start config now).run messages
      node.store.WellKept ∧ ∀ message item round,
        node.store.book item round <+: (node.receive message).2.store.book item round := by
  constructor
  · intro house events store
    have kept : house.Kept store := (House.kept_empty house).runThrough events
    refine ⟨.of_kept kept, ?_, ?_⟩
    · intro event
      exact Store.book_prefix (House.ledger_stepThrough house store event)
    · intro caller call outcome done
      have served := House.served house store caller call
      rw [done] at served
      exact House.stored_of_served served
  · intro config now messages node
    have sound : node.Sound := (Node.sound_start config now).run messages
    refine ⟨.of_kept sound.kept, fun message => ?_⟩
    exact Store.book_prefix (sound.ledger_run [message])

end AuctionHouse
