import AuctionHouse.Proofs.House.Amounts
import AuctionHouse.Proofs.House.Ordering
import Mathlib.Data.List.Induction

/-!
# Amounts that stay below the roof

If the amounts that come in with the events of a run are below the roof, so are all that the house
keeps (`Bounded`): a purchase and an answer are rounded, and a bid that is made for a proxy is within
its ceiling.  So a price never leaves the room for a step (`Bounded.minPrice_le`), and of the
ceilings of a round at most one is above it (`settled_run`).
-/

namespace AuctionHouse

/-- Whether all amounts that an event brings in are below the roof. -/
def Event.Modest : Event → Prop
  | .call _ (.placeBid _ _ amount _) => amount.value < House.roof
  | .call _ (.setProxy _ _ ceiling) => ceiling.value < House.roof
  | .register item => item.startingPrice.value < House.roof ∧
      item.buyNowPrice.value < House.roof ∧ item.bidStep.value < House.roof
  | _ => True

theorem Event.Modest.roofed {event : Event} (modest : event.Modest) : event.Roofed := by
  cases event with
  | call caller call =>
    cases call with
    | setProxy => exact le_of_lt modest
    | placeBid | placeBuyNow | removeProxy => trivial
  | register => exact modest.2.2.le
  | relist | setWorkflow => trivial

namespace House

/-- Whether the prices and the step of an item are up to the roof. -/
def Affordable (item : Item) : Prop :=
  item.startingPrice.value ≤ roof ∧ item.buyNowPrice.value ≤ roof ∧ item.bidStep.value ≤ roof

theorem Affordable.of_sameTerms {item later : Item} (affordable : Affordable item)
    (same : item.SameTerms later) : Affordable later := by
  unfold Affordable
  rw [same.startingPrice_eq, same.buyNowPrice_eq, same.bidStep_eq]
  exact affordable

/-- Whether all amounts that the house keeps are up to the roof. -/
structure Bounded (store : Store) : Prop where
  items : ∀ id item, store.item? id = some item → Affordable item
  bids : ∀ bid ∈ store.ledger, bid.amount.value ≤ roof
  ceilings : ∀ proxy ∈ store.proxies.values, proxy.ceiling.value ≤ roof

namespace Bounded

variable {house : House} {store after : Store} {caller : Caller} {call : Call}

theorem empty : Bounded {} where
  items id item listed := by cases listed
  bids bid mem := by cases mem
  ceilings proxy mem := by cases mem

theorem minPrice_le (bounded : Bounded store) {id : ItemId} {item : Item}
    (listed : store.item? id = some item) (round : Round) :
    (store.standing item round).minPrice.value ≤ roof := by
  have start_le := (bounded.items id item listed).1
  unfold Store.standing
  cases found : Ranking.winner? (store.bidsFor item.id round) with
  | none =>
    unfold Ranking.standing
    rw [found]
    exact start_le
  | some lead =>
    rw [Ranking.minPrice_of_some found, Decimal.value_max]
    have lead_mem := ((Store.mem_bidsFor _).1 (Ranking.winner?_spec found).1).1
    exact max_le start_le (bounded.bids lead lead_mem)

/-- What an active ceiling covers is up to the roof. -/
theorem le_of_covers (ceilings_le : ∀ proxy ∈ store.proxies.values, proxy.ceiling.value ≤ roof)
    {id : ItemId} {round : Round} {user : UserId} {amount : Decimal}
    (covered : Covers store id round user amount) : amount.value ≤ roof := by
  obtain ⟨proxy, mem, -, amount_le⟩ := covered
  exact (Decimal.le_iff_value_le.1 amount_le).trans
    (ceilings_le proxy (Store.mem_activeProxies.1 mem).1)

theorem ceilings_ceilingPut (kept : store.ProxiesKept) (bounded : Bounded store) {id : ItemId}
    {round : Round} {ceiling : Decimal} (ceiling_le : ceiling.value ≤ roof) :
    ∀ proxy ∈ (ceilingPut store caller id round ceiling).2.proxies.values,
      proxy.ceiling.value ≤ roof := by
  intro proxy mem
  rcases (mem_values_ceilingPut kept).1 mem with rfl | ⟨old, -⟩
  · obtain ⟨-, -, -, -, ceiling_eq⟩ := ceilingPut_saved store caller id round ceiling
    rw [ceiling_eq]
    exact value_roundCents_le_roof ceiling_le
  · exact bounded.ceilings proxy old

/-- A batch that is up to the roof keeps the ledger so. -/
theorem bids_append (bids_le : ∀ bid ∈ store.ledger, bid.amount.value ≤ roof) {batch : List NewBid}
    (batch_le : ∀ bid ∈ batch, bid.amount.value ≤ roof) :
    ∀ bid ∈ (store.append batch).2.ledger, bid.amount.value ≤ roof := by
  intro bid mem
  rw [Store.append_eq] at mem
  rcases List.mem_append.1 mem with old | new
  · exact bids_le bid old
  · exact batch_le _ (Store.mem_numbered new).1

theorem bids_served (kept : house.Kept store) (bounded : Bounded store)
    (modest : (Event.call caller call).Modest) {answer : Except Stop Outcome}
    (served : Served house store caller call answer after) :
    ∀ bid ∈ after.ledger, bid.amount.value ≤ roof := by
  cases served with
  | stopped => exact bounded.bids
  | @bid id round amount kind item counter taken =>
    apply bids_append bounded.bids
    intro bid mem
    rcases List.mem_cons.1 mem with rfl | answer
    · exact value_roundCents_le_roof (le_of_lt modest)
    · rw [Option.mem_toList.1 answer] at taken
      exact le_of_covers bounded.ceilings (counter_spending kept taken).1
  | @purchase id item taken =>
    apply bids_append bounded.bids
    intro bid mem
    rw [List.mem_singleton.1 mem]
    exact value_roundCents_le_roof (bounded.items id item taken.listed).2.1
  | @ceiling id round ceiling item bids taken answered =>
    apply bids_append
    · rw [ledger_ceilingPut]
      exact bounded.bids
    · intro bid mem
      exact le_of_covers (ceilings_ceilingPut kept.proxies bounded (le_of_lt modest))
        (ceiling_spending kept taken answered mem).1
  | ceilingFault =>
    rw [ledger_ceilingPut]
    exact bounded.bids
  | noRemoval => exact bounded.bids
  | removal =>
    rw [Store.ledger_putProxy]
    exact bounded.bids

theorem ceilings_served (kept : house.Kept store) (bounded : Bounded store)
    (modest : (Event.call caller call).Modest) {answer : Except Stop Outcome}
    (served : Served house store caller call answer after) :
    ∀ proxy ∈ after.proxies.values, proxy.ceiling.value ≤ roof := by
  cases served with
  | stopped => exact bounded.ceilings
  | bid =>
    rw [Store.append_eq]
    exact bounded.ceilings
  | @purchase id item =>
    have same : (sold store (purchase caller id item)).proxies = store.proxies := by
      unfold sold
      rw [Store.append_eq]
    rw [same]
    exact bounded.ceilings
  | ceiling =>
    rw [Store.append_eq]
    exact ceilings_ceilingPut kept.proxies bounded (le_of_lt modest)
  | ceilingFault => exact ceilings_ceilingPut kept.proxies bounded (le_of_lt modest)
  | noRemoval => exact bounded.ceilings
  | @removal id round item old_proxy listed current found =>
    have old_value := (Store.mem_activeProxies.1 (Store.activeProxy?_eq_some found).1).1
    intro proxy mem
    rcases (mem_values_removal kept.proxies old_value).1 mem with rfl | ⟨old, -⟩
    · exact bounded.ceilings old_proxy old_value
    · exact bounded.ceilings proxy old

/-- A modest event keeps all amounts up to the roof. -/
theorem step (kept : house.Kept store) (bounded : Bounded store) {event : Event}
    (modest : event.Modest) : Bounded (house.step store event) := by
  have items : ∀ id item, (house.step store event).item? id = some item → Affordable item := by
    intro id later listed
    cases found : store.item? id with
    | none =>
      obtain ⟨rfl, -⟩ := item?_step_of_none found listed
      exact ⟨modest.1.le, modest.2.1.le, modest.2.2.le⟩
    | some item =>
      obtain ⟨later', listed', same⟩ := @item?_step house store id item found event
      obtain rfl : later' = later := Option.some.inj (listed'.symm.trans listed)
      exact (bounded.items id item found).of_sameTerms same
  have changed := change house store event
  generalize house.step store event = after at changed items
  cases changed with
  | call served =>
    exact ⟨items, bounded.bids_served kept modest served, bounded.ceilings_served kept modest served⟩
  | relist | setWorkflow | register | nothing => exact ⟨items, bounded.bids, bounded.ceilings⟩

end Bounded

/-- After every modest run all amounts are up to the roof, and in every round at most one active
ceiling is above the price. -/
theorem settled_run (house : House) (events : List Event)
    (modest : ∀ event ∈ events, event.Modest) :
    Bounded (house.run events) ∧ AllSole (house.run events) := by
  induction events using List.reverseRecOn with
  | nil =>
    refine ⟨.empty, ?_⟩
    intro id item listed
    cases listed
  | append_singleton events event ih =>
    rw [run_concat]
    have kept := kept_run house events
    have event_modest := modest event (List.mem_append_right _ List.mem_cons_self)
    obtain ⟨bounded, sole⟩ := ih fun earlier mem => modest earlier (List.mem_append_left _ mem)
    exact ⟨bounded.step kept event_modest, sole.step kept event_modest.roofed⟩

end House

end AuctionHouse
