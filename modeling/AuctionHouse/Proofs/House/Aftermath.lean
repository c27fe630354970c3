import AuctionHouse.Proofs.House.Ceilings
import AuctionHouse.Proofs.House.History

/-!
# What calls leave behind

All that a call can leave in the store when access to it can fail at any point (`Aftermath`): what it
was, what a call at which nothing fails leaves, or a ceiling that stands without its bids or is taken
back.  Each of these keeps the store in order (`Kept.aftermath`) and writes at the end of the ledger
(`ledger_aftermath`), so every run with failures does.
-/

namespace AuctionHouse.House

open AuctionHouse.Action

variable {house : House} {store : Store} {caller : Caller} {id : ItemId} {round : Round}
  {amount ceiling : Decimal} {kind : BidKind}

/-- What a call can leave in the store, wherever access to it fails. -/
inductive Aftermath (house : House) (store : Store) (caller : Caller) : Store → Prop where
  | unchanged : Aftermath house store caller store
  | bid {id : ItemId} {round : Round} {amount : Decimal} {kind : BidKind} {item : Item}
      {counter : Option NewBid}
      (taken : BidTaken house store caller id round amount kind item counter) :
      Aftermath house store caller
        (store.append (byHand caller id round amount kind :: counter.toList)).2
  | purchase {id : ItemId} {item : Item} (taken : PurchaseTaken house store caller id item) :
      Aftermath house store caller (sold store (purchase caller id item))
  | ceiling {id : ItemId} {round : Round} {ceiling : Decimal} {item : Item} {bids : List NewBid}
      (taken : CeilingTaken house store caller id round ceiling item)
      (answered : house.ceilingAnswer store caller id round ceiling item = .ok bids) :
      Aftermath house store caller
        ((ceilingPut store caller id round ceiling).2.append bids).2
  | ceilingAlone {id : ItemId} {round : Round} {ceiling : Decimal} {item : Item}
      (taken : CeilingTaken house store caller id round ceiling item) :
      Aftermath house store caller (ceilingPut store caller id round ceiling).2
  | takenBack (id : ItemId) (round : Round) (ceiling : Decimal) :
      Aftermath house store caller
        (putBack (ceilingPut store caller id round ceiling).2
          (store.activeProxy? id round caller.user) (ceilingPut store caller id round ceiling).1)
  | removal {id : ItemId} {round : Round} {proxy : Proxy}
      (found : store.activeProxy? id round caller.user = some proxy) :
      Aftermath house store caller (store.putProxy (withdrawn caller proxy)).2

section Calls

/-- A bid is written with its answer, or nothing is. -/
theorem store_bookBid (previous : Option UserId) (bid : NewBid) (counter : Option NewBid)
    (floor : Floor) :
    (bookBid caller id round previous bid counter floor).2.store = floor.store ∨
      (bookBid caller id round previous bid counter floor).2.store =
        (floor.store.append (bid :: counter.toList)).2 := by
  unfold bookBid
  rw [store_bind_of_reads]
  · have batch := appended (bid :: counter.toList) floor
    generalize append (bid :: counter.toList) floor = result at batch ⊢
    cases batch with
    | unreached stored _ => exact .inl stored
    | lost stored _ => exact .inl stored
    | written stored _ => exact .inr stored
  · intro written
    cases written with
    | nil => exact reads_refuse _
    | cons first rest =>
      refine (reads_notifyOutbid _ _).bind fun _ => ?_
      split
      · exact (reads_notifyOutbid _ _).bind fun _ => reads_pure _
      · exact reads_pure _

theorem aftermath_placeBid (floor : Floor) :
    Aftermath house floor.store caller
      (house.placeBid caller id round amount kind floor).2.store := by
  refine (reads_authorize house caller.user).bind_store .unchanged fun _ start done => ?_
  obtain ⟨authorized, rfl⟩ := authorize_eq_ok done
  refine (reads_loadRound id round).bind_store .unchanged fun _ _ done => ?_
  obtain ⟨-, -, rfl⟩ := loadRound_eq_ok done
  refine (reads_loadRound id round).bind_store .unchanged fun item _ done => ?_
  obtain ⟨listed, current, rfl⟩ := loadRound_eq_ok done
  refine (reads_standing item round).bind_store .unchanged fun before _ done => ?_
  obtain ⟨rfl, rfl⟩ := standing_eq_ok done
  refine (reads_demand _).bind_store .unchanged fun _ _ done => ?_
  obtain ⟨valid, rfl⟩ := demand_eq_ok done
  have booked (counter : Option NewBid) (floor : Floor) (stored : floor.store = start.store)
      (answered : house.answerTo start.store item (byHand caller id round amount kind) =
        .ok counter) (previous : Option UserId) :
      Aftermath house start.store caller (bookBid caller id round previous
        (byHand caller id round amount kind) counter floor).2.store := by
    rcases store_bookBid previous (byHand caller id round amount kind) counter floor with
      same | written
    · rw [same, stored]
      exact .unchanged
    · rw [written, stored]
      exact .bid ⟨authorized, listed, current, valid, answered⟩
  by_cases enabled : house.config.autobidEnabled = true
  · simp only [if_pos enabled]
    refine (reads_read .activeProxies _).bind_store .unchanged fun proxies _ done => ?_
    obtain ⟨rfl, rfl⟩ := read_eq_ok done
    refine (reads_compute _).bind_store .unchanged fun counter _ done => ?_
    obtain ⟨computed, rfl⟩ := compute_eq_ok done
    refine booked counter _ ?_ ?_ (start.store.standing item round).leader?
    · rfl
    · unfold answerTo
      rw [if_pos enabled]
      exact computed
  · simp only [if_neg enabled]
    refine (reads_pure none).bind_store .unchanged fun counter _ done => ?_
    cases done
    refine booked none _ ?_ ?_ (start.store.standing item round).leader?
    · rfl
    · unfold answerTo
      rw [if_neg enabled]

theorem aftermath_placeBuyNow (floor : Floor) :
    Aftermath house floor.store caller (house.placeBuyNow caller id floor).2.store := by
  refine (reads_authorize house caller.user).bind_store .unchanged fun _ start done => ?_
  obtain ⟨authorized, rfl⟩ := authorize_eq_ok done
  refine (reads_loadItem id).bind_store .unchanged fun item _ done => ?_
  obtain ⟨listed, rfl⟩ := loadItem_eq_ok done
  refine (reads_loadRound id item.round).bind_store .unchanged fun again _ done => ?_
  obtain ⟨listed_again, -, rfl⟩ := loadRound_eq_ok done
  obtain rfl : again = item := Option.some.inj (listed_again.symm.trans listed)
  refine (reads_demand _).bind_store .unchanged fun _ _ done => ?_
  obtain ⟨valid, rfl⟩ := demand_eq_ok done
  refine (reads_standing again again.round).bind_store .unchanged fun before _ done => ?_
  obtain ⟨rfl, rfl⟩ := standing_eq_ok done
  rw [store_bind_of_reads]
  · refine (reads_reach .appendClosing).bind_store .unchanged fun _ mid done => ?_
    have stored : mid.store = start.store := by
      have same := reads_reach .appendClosing (((start.called .item).called .item).called .bidsFor)
      rw [done] at same
      exact same
    rw [write_apply, stored, appendClosing_eq listed]
    exact .purchase ⟨authorized, listed, valid⟩
  · intro written
    refine (reads_notifyOutbid _ _).bind fun _ => ?_
    exact (reads_notify _).bind fun _ => reads_pure _

theorem aftermath_setProxy (floor : Floor) :
    Aftermath house floor.store caller (house.setProxy caller id round ceiling floor).2.store := by
  have served := ceilingServed house floor caller id round ceiling
  generalize house.setProxy caller id round ceiling floor = result at served ⊢
  cases served with
  | stopped stored => exact stored ▸ .unchanged
  | rivalsUnread taken _ stored => exact stored ▸ .ceilingAlone taken
  | fault taken _ stored => exact stored ▸ .ceilingAlone taken
  | booked taken answered stands booked =>
    have put_eq := stands.stored
    cases booked with
    | nothing _ => exact put_eq ▸ .ceilingAlone taken
    | written stored => exact (put_eq ▸ stored) ▸ .ceiling taken answered
    | priceUnread _ _ stored => exact (put_eq ▸ stored) ▸ .ceiling taken answered
    | takenBack stored => exact (put_eq ▸ stored) ▸ .takenBack id round ceiling
    | notTakenBack _ _ stored => exact (stored.trans put_eq) ▸ .ceilingAlone taken
    | lost _ stored => exact (stored.trans put_eq) ▸ .ceilingAlone taken

theorem aftermath_removeProxy (floor : Floor) :
    Aftermath house floor.store caller (removeProxy caller id round floor).2.store := by
  refine (reads_loadRound id round).bind_store .unchanged fun _ start done => ?_
  obtain ⟨-, -, rfl⟩ := loadRound_eq_ok done
  refine (reads_loadRound id round).bind_store .unchanged fun _ _ done => ?_
  obtain ⟨-, -, rfl⟩ := loadRound_eq_ok done
  refine (reads_read .activeProxy _).bind_store .unchanged fun found? _ done => ?_
  obtain ⟨found, rfl⟩ := read_eq_ok done
  cases found? with
  | none => exact .unchanged
  | some proxy =>
    rw [store_bind_of_reads fun _ => reads_pure _, putProxy_apply]
    split
    · exact .unchanged
    · exact .removal found.symm

/-- Whatever fails, a call leaves what it can. -/
theorem aftermath_serve (house : House) (caller : Caller) (call : Call) (floor : Floor) :
    Aftermath house floor.store caller (house.serve caller call floor).2.store := by
  have wrapped {α : Type} {action : Action α} {wrap : α → Outcome}
      (left : Aftermath house floor.store caller (action floor).2.store) :
      Aftermath house floor.store caller
        ((do return wrap (← action) : Action Outcome) floor).2.store := by
    rw [store_bind_of_reads fun _ => reads_pure _]
    exact left
  cases call with
  | placeBid id round amount kind => exact wrapped (aftermath_placeBid floor)
  | placeBuyNow id => exact wrapped (aftermath_placeBuyNow floor)
  | setProxy id round ceiling => exact wrapped (aftermath_setProxy floor)
  | removeProxy id round => exact wrapped (aftermath_removeProxy floor)

end Calls

section Keeps

/-- What a call leaves has its proxies numbered. -/
theorem numbered_aftermath (numbered : store.ProxiesNumbered) {after : Store}
    (left : Aftermath house store caller after) : after.ProxiesNumbered := by
  cases left with
  | unchanged => exact numbered
  | bid taken => exact numbered.append _
  | purchase taken => exact (numbered.append _).of_eq rfl rfl
  | ceiling taken answered => exact (numbered_ceilingPut numbered).append _
  | ceilingAlone taken => exact numbered_ceilingPut numbered
  | takenBack id round ceiling => exact numbered_putBack numbered caller id round ceiling
  | removal found => exact numbered_removal numbered found

/-- A store with the same contents is in order too, if its next numbers are. -/
theorem Kept.of_sameContents {other : Store} (kept : house.Kept store)
    (same : store.SameContents other) (numbered : other.ProxiesNumbered)
    (next_eq : other.nextBidId = store.nextBidId) : house.Kept other := by
  have item?_eq (id : ItemId) : other.item? id = store.item? id := by
    rw [Store.item?, ← same.items, Store.item?]
  have filed (id : ItemId) (round : Round) (filed : store.Filed id round) :
      other.Filed id round := filed.of_eq item?_eq
  refine ⟨?_, kept.ledger.of_eq same.ledger.symm next_eq filed, ?_, ?_⟩
  · intro id item found
    exact kept.items id item ((item?_eq id).symm.trans found)
  · refine ⟨numbered.keyed, numbered.next_pos, ?_, ?_, ?_⟩
    · intro proxy mem
      rw [← same.proxies] at mem
      exact filed _ _ (kept.proxies.filed proxy mem)
    · rw [← same.proxies]
      exact kept.proxies.ceilings
    · intro item round
      rw [Store.activeProxies, ← same.proxies]
      exact kept.proxies.single item round
  · rw [← same.proxies]
    exact kept.disabled

theorem nextBidId_putBack (store : Store) (previous : Option Proxy) (saved : Proxy) :
    (putBack store previous saved).nextBidId = store.nextBidId := by
  cases previous with
  | none => rfl
  | some proxy => exact Store.nextBidId_putProxy

theorem ledger_putBack (store : Store) (previous : Option Proxy) (saved : Proxy) :
    (putBack store previous saved).ledger = store.ledger := by
  cases previous with
  | none => rfl
  | some proxy => exact Store.ledger_putProxy

/-- What a call leaves is in order, wherever the store fails. -/
theorem Kept.aftermath (kept : house.Kept store) {after : Store}
    (left : Aftermath house store caller after) : house.Kept after := by
  cases left with
  | unchanged => exact kept
  | bid taken => exact kept.append (soundBatch_bid taken)
  | purchase taken => exact kept.sold taken
  | ceiling taken answered =>
    exact (kept.ceilingPut taken).append (soundBatch_ceiling kept taken answered)
  | ceilingAlone taken => exact kept.ceilingPut taken
  | takenBack id round ceiling =>
    have numbered := kept.proxies.numbered
    refine kept.of_sameContents (sameContents_putBack numbered caller id round ceiling)
      (numbered_putBack numbered caller id round ceiling) ?_
    exact (nextBidId_putBack _ _ _).trans Store.nextBidId_putProxy
  | removal found => exact kept.removal found

/-- What a call leaves has the ledger that there was, with some bids behind it. -/
theorem ledger_aftermath {after : Store} (left : Aftermath house store caller after) :
    store.ledger <+: after.ledger := by
  have batch (bids : List NewBid) : store.ledger <+: (store.append bids).2.ledger := by
    rw [Store.ledger_append]
    exact List.prefix_append _ _
  have same {after : Store} (ledger_eq : after.ledger = store.ledger) :
      store.ledger <+: after.ledger := ledger_eq ▸ List.prefix_rfl
  cases left with
  | unchanged => exact same rfl
  | bid taken => exact batch _
  | @purchase id item taken => exact batch [House.purchase caller id item]
  | ceiling taken answered =>
    rw [Store.ledger_append, ledger_ceilingPut]
    exact List.prefix_append _ _
  | ceilingAlone taken => exact same (ledger_ceilingPut ..)
  | takenBack id round ceiling => exact same ((ledger_putBack ..).trans (ledger_ceilingPut ..))
  | removal found => exact same Store.ledger_putProxy

end Keeps

section Runs

/-- The store after an event, if access to it can fail during a call. -/
def stepThrough (house : House) (store : Store) : Outages × Event → Store
  | (outages, .call caller call) => (house.serve caller call { store, outages }).2.store
  | (_, event) => house.step store event

/-- The store after some events, if access to it can fail during calls. -/
def runThrough (house : House) (store : Store) (events : List (Outages × Event)) : Store :=
  events.foldl house.stepThrough store

/-- What happens is a call, which leaves what it can, or the doing of the staff. -/
theorem stepThrough_cases (house : House) (store : Store) (event : Outages × Event) :
    (∃ caller, Aftermath house store caller (house.stepThrough store event)) ∨
      (∀ caller call, event.2 ≠ .call caller call) ∧
        house.stepThrough store event = house.step store event.2 := by
  obtain ⟨outages, event⟩ := event
  cases event with
  | call caller call => exact .inl ⟨caller, aftermath_serve house caller call { store, outages }⟩
  | relist id => exact .inr ⟨fun _ _ same => (nomatch same), rfl⟩
  | setWorkflow id workflow => exact .inr ⟨fun _ _ same => (nomatch same), rfl⟩
  | register item => exact .inr ⟨fun _ _ same => (nomatch same), rfl⟩

theorem runThrough_induction {motive : Store → Prop} (start : motive store)
    (kept : ∀ store event, motive store → motive (house.stepThrough store event))
    (events : List (Outages × Event)) : motive (house.runThrough store events) := by
  induction events generalizing store with
  | nil => exact start
  | cons event rest ih => exact ih (kept store event start)

/-- What the staff do is not about proxies. -/
theorem numbered_change {store after : Store} {event : Event}
    (changed : Change house store event after) (staff : ∀ caller call, event ≠ .call caller call)
    (numbered : store.ProxiesNumbered) : after.ProxiesNumbered := by
  cases changed with
  | call _ => exact absurd rfl (staff _ _)
  | relist _ => exact numbered.of_eq rfl rfl
  | setWorkflow _ => exact numbered.of_eq rfl rfl
  | register _ _ => exact numbered.of_eq rfl rfl
  | nothing => exact numbered

theorem numbered_runThrough (numbered : store.ProxiesNumbered) (events : List (Outages × Event)) :
    (house.runThrough store events).ProxiesNumbered := by
  refine runThrough_induction numbered (fun store event numbered => ?_) events
  rcases stepThrough_cases house store event with ⟨caller, left⟩ | ⟨staff, same⟩
  · exact numbered_aftermath numbered left
  · rw [same]
    exact numbered_change (change house store event.2) staff numbered

/-- Every run keeps all, wherever the store fails. -/
theorem Kept.runThrough (kept : house.Kept store) (events : List (Outages × Event)) :
    house.Kept (house.runThrough store events) := by
  refine runThrough_induction kept (fun store event kept => ?_) events
  rcases stepThrough_cases house store event with ⟨caller, left⟩ | ⟨-, same⟩
  · exact kept.aftermath left
  · rw [same]
    exact kept.step event.2

/-- Whatever happens, the ledger stays and some bids come behind it. -/
theorem ledger_stepThrough (house : House) (store : Store) (event : Outages × Event) :
    store.ledger <+: (house.stepThrough store event).ledger := by
  rcases stepThrough_cases house store event with ⟨caller, left⟩ | ⟨-, same⟩
  · exact ledger_aftermath left
  · obtain ⟨written, ledger_eq, -⟩ := ledger_step house store event.2
    rw [same]
    exact ⟨written, ledger_eq.symm⟩

end Runs

end AuctionHouse.House
