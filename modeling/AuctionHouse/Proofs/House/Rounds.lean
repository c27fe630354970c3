import AuctionHouse.Proofs.House.History

/-!
# Rounds do not compete

A call writes in the current round of the item that it names and nowhere else (`sameIn_step`).  As
rounds only go up, what a round holds when the next one is opened it holds for ever, and the next
one begins with nothing: the proxies that are still active in earlier rounds have no part in it.
-/

namespace AuctionHouse

namespace Store

/-- Whether two stores hold the same bids and proxies in all rounds of items of a kind. -/
structure SameIn (kind : ItemId → Round → Bool) (store next : Store) : Prop where
  bids : next.ledger.filter (fun bid => kind bid.item bid.round) =
    store.ledger.filter fun bid => kind bid.item bid.round
  proxies : next.proxies.values.filter (fun proxy => kind proxy.item proxy.round) =
    store.proxies.values.filter fun proxy => kind proxy.item proxy.round

namespace SameIn

variable {kind : ItemId → Round → Bool} {store mid next : Store}

theorem refl (kind : ItemId → Round → Bool) (store : Store) : SameIn kind store store := ⟨rfl, rfl⟩

theorem trans (h : SameIn kind store mid) (h' : SameIn kind mid next) : SameIn kind store next :=
  ⟨h'.bids.trans h.bids, h'.proxies.trans h.proxies⟩

theorem append {bids : List NewBid} (away : ∀ bid ∈ bids, kind bid.item bid.round = false) :
    SameIn kind store (store.append bids).2 := by
  rw [append_eq]
  refine ⟨?_, rfl⟩
  rw [List.filter_append, List.append_right_eq_self, List.filter_eq_nil_iff]
  intro bid mem
  rw [away _ (mem_numbered mem).1]
  exact Bool.false_ne_true

end SameIn

/-- Whether two stores hold the same bids and proxies in a round of an item. -/
def SameAt (id : ItemId) (round : Round) : Store → Store → Prop :=
  SameIn fun item round' => item = id && round' = round

namespace SameAt

variable {id : ItemId} {round : Round} {store next : Store} (same : SameAt id round store next)
include same

theorem bidsFor_eq : next.bidsFor id round = store.bidsFor id round := same.bids

theorem proxiesFor_eq : next.proxiesFor id round = store.proxiesFor id round := same.proxies

theorem activeProxies_eq : next.activeProxies id round = store.activeProxies id round := by
  rw [activeProxies_eq_proxiesFor, activeProxies_eq_proxiesFor, same.proxiesFor_eq]

end SameAt

end Store

namespace House

open Store (SameAt SameIn)

variable {house : House} {store : Store} {kind : ItemId → Round → Bool} {caller : Caller}
  {id : ItemId} {round : Round}

section Step

theorem sameIn_ceilingPut (kept : store.ProxiesKept) (ceiling : Decimal)
    (away : kind id round = false) :
    SameIn kind store (ceilingPut store caller id round ceiling).2 := by
  obtain ⟨-, saved_item, saved_round, -⟩ := ceilingPut_saved store caller id round ceiling
  refine ⟨by rw [ledger_ceilingPut], ?_⟩
  unfold ceilingPut at saved_item saved_round ⊢
  cases found : store.activeProxy? id round caller.user with
  | none =>
    rw [found] at saved_item saved_round
    rw [Store.values_putProxy_new kept.keyed rfl, List.filter_append, List.append_right_eq_self,
      List.filter_eq_nil_iff]
    intro proxy mem
    rw [List.mem_singleton.1 mem, saved_item, saved_round, away]
    exact Bool.false_ne_true
  | some old =>
    obtain ⟨old_mem, -⟩ := Store.activeProxy?_eq_some found
    obtain ⟨value, -, rfl, rfl⟩ := Store.mem_activeProxies.1 old_mem
    have same : (raised (some old) caller old.item old.round ceiling.roundCents).id = old.id := rfl
    exact Store.filter_putProxy_of_not kept.keyed value same rfl away

theorem sameIn_removal (kept : store.ProxiesKept) {old : Proxy}
    (found : store.activeProxy? id round caller.user = some old) (away : kind id round = false) :
    SameIn kind store (store.putProxy (withdrawn caller old)).2 := by
  obtain ⟨old_mem, -⟩ := Store.activeProxy?_eq_some found
  obtain ⟨value, -, rfl, rfl⟩ := Store.mem_activeProxies.1 old_mem
  have same : (withdrawn caller old).id = old.id := rfl
  exact ⟨by rw [Store.ledger_putProxy], Store.filter_putProxy_of_not kept.keyed value same rfl away⟩

/-- A call writes in the current round of the item that it names only. -/
theorem sameIn_served (kept : house.Kept store) {call : Call} {answer : Except Stop Outcome}
    {after : Store} (served : Served house store caller call answer after)
    (away : ∀ item, store.item? call.item = some item → kind call.item item.round = false) :
    SameIn kind store after := by
  cases served with
  | stopped => exact .refl kind store
  | bid taken =>
    apply SameIn.append
    intro bid mem
    obtain ⟨item_eq, round_eq⟩ := here_of_bidTaken taken bid mem
    rw [item_eq, round_eq, ← taken.current]
    exact away _ taken.listed
  | @purchase id item taken =>
    have written : SameIn kind store (store.append [purchase caller id item]).2 := by
      apply SameIn.append
      intro bid mem
      rw [List.mem_singleton.1 mem]
      exact away item taken.listed
    exact ⟨written.bids, written.proxies⟩
  | ceiling taken answered =>
    have away_here := taken.current ▸ away _ taken.listed
    refine (sameIn_ceilingPut kept.proxies _ away_here).trans (.append ?_)
    intro bid mem
    obtain ⟨item_eq, round_eq⟩ := here_of_ceilingAnswer answered bid mem
    rw [item_eq, round_eq, (kept.items _ _ taken.listed).1]
    exact away_here
  | ceilingFault taken answered =>
    exact sameIn_ceilingPut kept.proxies _ (taken.current ▸ away _ taken.listed)
  | noRemoval => exact .refl kind store
  | removal listed current found =>
    exact sameIn_removal kept.proxies found (current ▸ away _ listed)

/-- An event writes in the current round of the item that it names only, and only if it is a
call. -/
theorem sameIn_step (kept : house.Kept store) (event : Event)
    (away : ∀ caller call item, event = .call caller call → store.item? call.item = some item →
      kind call.item item.round = false) :
    SameIn kind store (house.step store event) := by
  have changed := change house store event
  generalize house.step store event = after at changed ⊢
  cases changed with
  | call served => exact sameIn_served kept served fun item listed => away _ _ item rfl listed
  | relist => exact ⟨rfl, rfl⟩
  | setWorkflow => exact ⟨rfl, rfl⟩
  | register => exact ⟨rfl, rfl⟩
  | nothing => exact .refl kind store

theorem not_here {item : ItemId} {round' : Round} (elsewhere : item = id → round' ≠ round) :
    (decide (item = id) && decide (round' = round)) = false := by
  rw [Bool.and_eq_false_iff, decide_eq_false_iff_not, decide_eq_false_iff_not, ← not_and_or]
  exact fun here => elsewhere here.1 here.2

/-- A call leaves all rounds but the current one of the item that it names. -/
theorem sameAt_served (kept : house.Kept store) {call : Call} {answer : Except Stop Outcome}
    {after : Store} (served : Served house store caller call answer after)
    (elsewhere : ∀ item, call.item = id → store.item? id = some item → item.round ≠ round) :
    SameAt id round store after := by
  apply sameIn_served kept served
  intro item listed
  apply not_here
  rintro rfl
  exact elsewhere item rfl listed

/-- An event leaves all rounds, if it is not a call that names the item in its current round. -/
theorem sameAt_step (kept : house.Kept store) (event : Event)
    (elsewhere : ∀ caller call item, event = .call caller call → call.item = id →
      store.item? id = some item → item.round ≠ round) :
    SameAt id round store (house.step store event) := by
  apply sameIn_step kept
  intro caller call item happens listed
  apply not_here
  rintro rfl
  exact elsewhere caller call item happens rfl listed

end Step

section Past

/-- Whether a later round of an item than a given one is open. -/
def Past (store : Store) (id : ItemId) (round : Round) : Prop :=
  ∃ item, store.item? id = some item ∧ round < item.round

theorem ItemChange.round_le {item later : Item} {event : Event}
    (changed : ItemChange id item event later) : item.round ≤ later.round := by
  cases changed with
  | relisted opened => exact UInt32.le_of_lt (Round.lt_of_next opened)
  | _ => exact UInt32.le_refl _

theorem Past.step (past : Past store id round) (event : Event) :
    Past (house.step store event) id round := by
  obtain ⟨item, listed, round_lt⟩ := past
  obtain ⟨later, later_listed, changed⟩ := itemChange_step house listed event
  exact ⟨later, later_listed, UInt32.lt_of_lt_of_le round_lt changed.round_le⟩

/-- What a past round holds stays. -/
theorem Past.sameAt_step (kept : house.Kept store) (past : Past store id round) (event : Event) :
    SameAt id round store (house.step store event) := by
  apply House.sameAt_step kept
  intro caller call item _ _ listed
  obtain ⟨item', listed', round_lt⟩ := past
  obtain rfl : item = item' := Option.some.inj (listed.symm.trans listed')
  exact (UInt32.ne_of_lt round_lt).symm

/-- What a past round holds stays for ever. -/
theorem Past.sameAt_runFrom (kept : house.Kept store) (past : Past store id round)
    (later : List Event) : SameAt id round store (house.runFrom store later) := by
  induction later generalizing store with
  | nil => exact SameIn.refl _ store
  | cons event rest ih =>
    exact (past.sameAt_step kept event).trans (ih (kept.step event) (past.step event))

end Past

section Relist

variable {item : Item} {next : Round} {after : Store}

/-- Opening a round writes no bid and no proxy. -/
theorem relist_leaves (relisted : store.relist id = .ok (next, after)) :
    after.ledger = store.ledger ∧ after.proxies = store.proxies := by
  obtain ⟨item, -, -, rfl⟩ := Store.relist_eq_ok_iff.1 relisted
  exact ⟨rfl, rfl⟩

/-- The next round begins with nothing. -/
theorem relist_empty (kept : house.Kept store) (listed : store.item? id = some item)
    (relisted : store.relist id = .ok (next, after)) :
    after.item? id = some (item.reopened next) ∧ after.bidsFor id next = [] ∧
      after.activeProxies id next = [] ∧
      after.standing (item.reopened next) next = ⟨item.startingPrice, none⟩ := by
  obtain ⟨opened, after_eq⟩ := Store.opened_of_listed listed relisted
  have unfiled : ¬ store.Filed id next := by
    rintro ⟨item', listed', round_le⟩
    obtain rfl : item = item' := Option.some.inj (listed.symm.trans listed')
    exact UInt32.not_le.2 (Round.lt_of_next opened) round_le
  have no_bids : after.bidsFor id next = [] := by
    rw [after_eq]
    exact kept.ledger.bidsFor_of_not_filed unfiled
  have no_proxies : after.activeProxies id next = [] := by
    rw [after_eq]
    exact kept.proxies.activeProxies_of_not_filed unfiled
  refine ⟨?_, no_bids, no_proxies, ?_⟩
  · rw [after_eq, Store.item?_modify, if_pos rfl, listed]
    rfl
  · have own : (item.reopened next).id = id := (kept.items id item listed).1
    unfold Store.standing
    rw [own, no_bids, Ranking.standing_nil]
    rfl

end Relist

/-- In every run, all bids and proxies of an item are in rounds that it has come to.  An event
changes the bids or the proxies of a round only if it is a call that names the item while it is in
this round, so those of past rounds stay for ever.  The next round of an item can be opened unless
it is in the last one, where the counter faults and nothing changes.  When it is opened, all bids
and proxies stay; those of the rounds so far stay for ever; and the new round has no bid, no proxy
and no leader, and its price is the starting price. -/
theorem rounds_apart (house : House) (events : List Event) :
    let store := house.run events
    ((∀ bid ∈ store.ledger, store.Filed bid.item bid.round) ∧
      ∀ proxy ∈ store.proxies.values, store.Filed proxy.item proxy.round) ∧
    (∀ event id round,
      let after := house.step store event
      after.bidsFor id round ≠ store.bidsFor id round ∨
          after.proxiesFor id round ≠ store.proxiesFor id round →
        ∃ caller call, event = .call caller call ∧ call.item = id ∧
          ∃ item, store.item? id = some item ∧ item.round = round) ∧
    ∀ id item, store.item? id = some item →
      (∀ round < item.round, ∀ later,
        (house.runFrom store later).bidsFor id round = store.bidsFor id round ∧
          (house.runFrom store later).proxiesFor id round = store.proxiesFor id round) ∧
      let after := house.step store (.relist id)
      if item.round = .last then
        store.relist id = .error (.faulted .roundTooLarge) ∧ after = store
      else
        ∃ next : Round, next.toNat = item.round.toNat + 1 ∧ store.relist id = .ok (next, after) ∧
          (after.ledger = store.ledger ∧ after.proxies = store.proxies) ∧
          (∀ round ≤ item.round, ∀ later,
            (house.runFrom after later).bidsFor id round = store.bidsFor id round ∧
              (house.runFrom after later).proxiesFor id round = store.proxiesFor id round) ∧
          after.item? id = some (item.reopened next) ∧ after.bidsFor id next = [] ∧
          after.activeProxies id next = [] ∧
          after.standing (item.reopened next) next = ⟨item.startingPrice, none⟩ := by
  intro store
  have kept : house.Kept store := kept_run house events
  refine ⟨⟨kept.ledger.filed, kept.proxies.filed⟩, ?_, ?_⟩
  · intro event id round after different
    by_contra nowhere
    have same : SameAt id round store after := by
      apply sameAt_step kept
      intro caller call item happens named listed current
      exact nowhere ⟨caller, call, happens, named, item, listed, current⟩
    rcases different with bids | proxies
    · exact bids same.bidsFor_eq
    · exact proxies same.proxiesFor_eq
  · intro id item listed
    have stays {store : Store} (kept : house.Kept store) {round : Round}
        (past : Past store id round) (later : List Event) :
        (house.runFrom store later).bidsFor id round = store.bidsFor id round ∧
          (house.runFrom store later).proxiesFor id round = store.proxiesFor id round := by
      have same := past.sameAt_runFrom kept later
      exact ⟨same.bidsFor_eq, same.proxiesFor_eq⟩
    refine ⟨fun round round_lt => stays kept ⟨item, listed, round_lt⟩, ?_⟩
    intro after
    split
    · next at_last =>
      have failed := Store.relist_eq_error_iff.2 (.inr ⟨item, listed, at_last, rfl⟩)
      exact ⟨failed, step_relist_of_error house failed⟩
    · next before_last =>
      obtain ⟨next, opened⟩ := Round.exists_next before_last
      have relisted := Store.relist_eq_ok_iff.2 ⟨item, listed, opened, rfl⟩
      rw [← step_relist house relisted] at relisted
      obtain ⟨next_listed, empty⟩ := relist_empty kept listed relisted
      obtain ⟨ledger_eq, proxies_eq⟩ := relist_leaves relisted
      refine ⟨next, Round.next_eq_ok_iff.1 opened, relisted, ⟨ledger_eq, proxies_eq⟩, ?_,
        next_listed, empty⟩
      intro round round_le later
      have past : Past after id round :=
        ⟨_, next_listed, UInt32.lt_of_le_of_lt round_le (Round.lt_of_next opened)⟩
      obtain ⟨later_bids, later_proxies⟩ := stays (kept.step (.relist id)) past later
      rw [later_bids, later_proxies]
      unfold Store.bidsFor Store.proxiesFor
      rw [ledger_eq, proxies_eq]
      exact ⟨rfl, rfl⟩

end House

end AuctionHouse
