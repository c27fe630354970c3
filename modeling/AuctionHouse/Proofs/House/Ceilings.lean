import AuctionHouse.Proofs.House.Access
import AuctionHouse.Proofs.House.Kept

/-!
# Ceilings at which the store can fail

What a ceiling does when access to the store can fail at any point (`CeilingServed`).  If its bids
cannot be written it is taken back, and the store holds what it held before
(`sameContents_putBack`).  It is not taken back if the ceilings of the rivals cannot be read once it
is put, nor if the price cannot be read once its bids are written.
-/

namespace AuctionHouse

/-- Whether two stores hold the same items, bids and proxies. -/
structure Store.SameContents (store other : Store) : Prop where
  items : store.items = other.items
  ledger : store.ledger = other.ledger
  proxies : store.proxies = other.proxies

namespace House

open AuctionHouse.Action

/-- The store with the proxies of a user put back to what they were before one was saved. -/
def putBack (store : Store) (previous : Option Proxy) (saved : Proxy) : Store :=
  match previous with
  | some proxy => (store.putProxy proxy).2
  | none => store.deleteProxy saved.id

/-- Whether putting the proxies of a user back fails. -/
def PutBackFails (outages : Outages) (previous : Option Proxy) : Prop :=
  match previous with
  | some _ => outages.failsNow .putProxy = true
  | none => outages.failsNow .deleteProxy = true

/-- What can be done about the bids of a ceiling that has been put. -/
inductive Booked (bids : List NewBid) (previous : Option Proxy) (saved : Proxy) (floor : Floor) :
    Except Stop Proxy × Floor → Prop where
  | nothing (empty : bids = []) : Booked bids previous saved floor (.ok saved, floor)
  | written {after : Floor} (stored : after.store = (floor.store.append bids).2) :
      Booked bids previous saved floor (.ok saved, after)
  | priceUnread {after : Floor} (nonempty : bids ≠ [])
      (fails : floor.outages.failsNow .bidsFor = true)
      (stored : after.store = (floor.store.append bids).2) :
      Booked bids previous saved floor
        (.error (.refused (.storage (.unavailable .bidsFor))), after)
  | takenBack {refusal : Refusal} {after : Floor}
      (stored : after.store = putBack floor.store previous saved) :
      Booked bids previous saved floor (.error (.refused refusal), after)
  | notTakenBack {refusal : Refusal} {after : Floor} (nonempty : bids ≠ [])
      (fails : PutBackFails floor.outages previous) (stored : after.store = floor.store) :
      Booked bids previous saved floor (.error (.refused refusal), after)
  | lost {answer : Except Stop Proxy} {after : Floor} (lossy : ¬ floor.outages.Lossless)
      (stored : after.store = floor.store) : Booked bids previous saved floor (answer, after)

theorem restore_cases (previous : Option Proxy) (saved : Proxy) (floor : Floor) :
    (∃ after, restore previous saved floor = (.ok (), after) ∧
      after.store = putBack floor.store previous saved) ∨
    ∃ refusal after, restore previous saved floor = (.error (.refused refusal), after) ∧
      after.store = floor.store ∧ PutBackFails floor.outages previous := by
  unfold restore putBack PutBackFails
  cases previous with
  | some proxy =>
    simp only [bind_apply, putProxy_apply]
    cases floor.outages.failsNow .putProxy with
    | true => exact .inr ⟨_, _, rfl, rfl, rfl⟩
    | false => exact .inl ⟨_, rfl, rfl⟩
  | none =>
    simp only [deleteProxy_apply]
    cases floor.outages.failsNow .deleteProxy with
    | true => exact .inr ⟨_, _, rfl, rfl, rfl⟩
    | false => exact .inl ⟨_, rfl, rfl⟩

variable {house : House} {caller : Caller} {id : ItemId} {round : Round} {ceiling : Decimal}

theorem PutBackFails.of_sameOutside {outages later : Outages} {previous : Option Proxy}
    (fails : PutBackFails later previous) (outside : outages.SameOutside batchPoints later) :
    PutBackFails outages previous := by
  unfold PutBackFails at *
  cases previous with
  | some _ => exact (outside .putProxy (by decide)).symm.trans fails
  | none => exact (outside .deleteProxy (by decide)).symm.trans fails

/-- The part of a ceiling that comes after its bids: those who do not lead are told. -/
def tellCeiling (caller : Caller) (id : ItemId) (round : Round) (item : Item) (before : Standing)
    (saved : Proxy) : Action Proxy := do
  let after ← standing item round
  if let some leader := after.leader? then
    notifyOutbid id round before.leader? leader after.minPrice
    if before.leader? ≠ some caller.user then
      notifyOutbid id round (some caller.user) leader after.minPrice
  return saved

/-- Those who do not lead can be told as soon as the price has been read. -/
theorem tellCeiling_apply (item : Item) (before : Standing) (saved : Proxy) (floor : Floor) :
    ∃ after, tellCeiling caller id round item before saved floor =
        (if floor.outages.failsNow .bidsFor then
            .error (.refused (.storage (.unavailable .bidsFor)))
          else .ok saved, after) ∧
      after.store = floor.store := by
  unfold tellCeiling standing bidsFor
  simp only [bind_apply, read_apply]
  cases floor.outages.failsNow .bidsFor with
  | true => exact ⟨floor.called .bidsFor, rfl, rfl⟩
  | false =>
    simp only [Bool.false_eq_true, if_false, pure_apply]
    generalize Ranking.standing item.startingPrice (floor.store.bidsFor item.id round) = after
    cases after.leader? with
    | none => exact ⟨floor.called .bidsFor, rfl, rfl⟩
    | some leader =>
      simp only [bind_apply, notifyOutbid_apply]
      by_cases own : before.leader? = some caller.user
      · rw [if_neg (not_not.2 own)]
        exact ⟨_, rfl, rfl⟩
      · rw [if_pos own]
        simp only [bind_apply, notifyOutbid_apply]
        exact ⟨_, rfl, rfl⟩

theorem booked (item : Item) (before : Standing) (previous : Option Proxy) (saved : Proxy)
    (bids : List NewBid) (floor : Floor) :
    Booked bids previous saved floor
      (bookCeiling caller id round item before previous saved bids floor) := by
  unfold bookCeiling
  by_cases empty : bids = []
  · rw [if_pos (List.isEmpty_iff.2 empty)]
    exact .nothing empty
  rw [if_neg (mt List.isEmpty_iff.1 empty)]
  simp only [bind_apply, attempt_apply]
  have batch := appended bids floor
  generalize append bids floor = result at batch
  cases batch with
  | @unreached point after stored outside =>
    rcases restore_cases previous saved after with
      ⟨mid, eq, back⟩ | ⟨refusal, mid, eq, same, fails⟩
    · simp only [bind_apply, attempt_apply, eq]
      exact .takenBack (stored ▸ back)
    · simp only [bind_apply, attempt_apply, eq]
      exact .notTakenBack empty (fails.of_sameOutside outside) (same.trans stored)
  | @lost after stored lossy =>
    obtain ⟨mid, told, same⟩ := @tellCeiling_apply caller id round item before saved after
    exact .lost lossy ((congrArg (fun result => result.2.store) told).trans (same.trans stored))
  | @written after stored outside =>
    obtain ⟨mid, told, same⟩ := @tellCeiling_apply caller id round item before saved after
    change Booked bids previous saved floor (tellCeiling caller id round item before saved after)
    rw [told]
    cases fails : after.outages.failsNow .bidsFor with
    | true =>
      exact .priceUnread empty ((outside .bidsFor (by decide)).symm.trans fails) (same.trans stored)
    | false => exact .written (same.trans stored)

/-- What is so of the floor once a ceiling has been put. -/
structure CeilingStands (floor : Floor) (caller : Caller) (id : ItemId) (round : Round)
    (ceiling : Decimal) (put : Floor) : Prop where
  stored : put.store = (ceilingPut floor.store caller id round ceiling).2
  price_next : put.outages.failsNow .bidsFor = floor.outages.failsNext .bidsFor
  put_next : put.outages.failsNow .putProxy = floor.outages.failsNext .putProxy
  delete_now : put.outages.failsNow .deleteProxy = floor.outages.failsNow .deleteProxy
  lossless : floor.outages.Lossless → put.outages.Lossless

/-- A ceiling stands as before when the rivals have been read. -/
theorem CeilingStands.called_activeProxies {floor put : Floor}
    (stands : CeilingStands floor caller id round ceiling put) :
    CeilingStands floor caller id round ceiling (put.called .activeProxies) where
  stored := stands.stored
  price_next := (Outages.failsNow_after_of_ne (by decide)).trans stands.price_next
  put_next := (Outages.failsNow_after_of_ne (by decide)).trans stands.put_next
  delete_now := (Outages.failsNow_after_of_ne (by decide)).trans stands.delete_now
  lossless := stands.lossless

theorem CeilingStands.putBackFails {floor put : Floor} {previous : Option Proxy}
    (stands : CeilingStands floor caller id round ceiling put)
    (fails : PutBackFails put.outages previous) :
    PutBackFails (floor.outages.after .putProxy) previous := by
  cases previous with
  | some _ => exact Outages.failsNow_after_self.trans (stands.put_next.symm.trans fails)
  | none =>
    exact (Outages.failsNow_after_of_ne (by decide)).trans (stands.delete_now.symm.trans fails)

/-- What a ceiling can do: how it is answered, and the floor that it leaves. -/
inductive CeilingServed (house : House) (floor : Floor) (caller : Caller) (id : ItemId)
    (round : Round) (ceiling : Decimal) : Except Stop Proxy × Floor → Prop where
  | stopped {stop : Stop} {after : Floor} (stored : after.store = floor.store) :
      CeilingServed house floor caller id round ceiling (.error stop, after)
  | rivalsUnread {item : Item} {after : Floor}
      (taken : CeilingTaken house floor.store caller id round ceiling item)
      (fails : floor.outages.failsNow .activeProxies = true)
      (stored : after.store = (ceilingPut floor.store caller id round ceiling).2) :
      CeilingServed house floor caller id round ceiling
        (.error (.refused (.storage (.unavailable .activeProxies))), after)
  | fault {item : Item} {fault : Fault} {after : Floor}
      (taken : CeilingTaken house floor.store caller id round ceiling item)
      (answered : house.ceilingAnswer floor.store caller id round ceiling item = .error fault)
      (stored : after.store = (ceilingPut floor.store caller id round ceiling).2) :
      CeilingServed house floor caller id round ceiling (.error (.faulted fault), after)
  | booked {item : Item} {bids : List NewBid} {put : Floor} {result : Except Stop Proxy × Floor}
      (taken : CeilingTaken house floor.store caller id round ceiling item)
      (answered : house.ceilingAnswer floor.store caller id round ceiling item = .ok bids)
      (stands : CeilingStands floor caller id round ceiling put)
      (booked : Booked bids (floor.store.activeProxy? id round caller.user)
        (ceilingPut floor.store caller id round ceiling).1 put result) :
      CeilingServed house floor caller id round ceiling result

/-- A ceiling that stops when it reads leaves the store as it is. -/
theorem CeilingServed.of_reads {α : Type} {action : Action α} {next : α → Action Proxy}
    {floor mid : Floor} (reads : action.Reads) (same : mid.store = floor.store)
    (rest : ∀ answer later, action mid = (.ok answer, later) →
      CeilingServed house floor caller id round ceiling (next answer later)) :
    CeilingServed house floor caller id round ceiling ((action >>= next) mid) := by
  have unchanged := (reads mid).trans same
  rcases bind_cases action next mid with ⟨stop, after, first, all⟩ | ⟨answer, later, first, all⟩
  · rw [first] at unchanged
    rw [all]
    exact .stopped unchanged
  · rw [all]
    exact rest answer later first

/-- Once a ceiling has been put, the rivals are read and its bids are dealt with. -/
theorem CeilingServed.of_stands {floor put : Floor} {item : Item}
    (taken : CeilingTaken house floor.store caller id round ceiling item)
    (stands : CeilingStands floor caller id round ceiling put)
    (rivals_now : put.outages.failsNow .activeProxies = floor.outages.failsNow .activeProxies) :
    CeilingServed house floor caller id round ceiling ((do
      let proxies ← activeProxies id round
      let bids ← compute (ceilingBids house.config.proxyOrdering item round caller
        ceiling.roundCents (floor.store.standing item round) proxies)
      bookCeiling caller id round item (floor.store.standing item round)
        (floor.store.activeProxy? id round caller.user)
        (ceilingPut floor.store caller id round ceiling).1 bids : Action Proxy) put) := by
  unfold activeProxies
  rw [bind_apply, read_apply]
  cases fails : put.outages.failsNow .activeProxies with
  | true => exact .rivalsUnread taken (rivals_now.symm.trans fails) stands.stored
  | false =>
    have answer_eq : ceilingBids house.config.proxyOrdering item round caller ceiling.roundCents
        (floor.store.standing item round) (put.store.activeProxies id round) =
      house.ceilingAnswer floor.store caller id round ceiling item := by
      rw [stands.stored]
      rfl
    simp only [Bool.false_eq_true, if_false, bind_apply, compute_apply, answer_eq]
    cases answered : house.ceilingAnswer floor.store caller id round ceiling item with
    | error fault => exact .fault taken answered stands.stored
    | ok bids =>
      exact .booked taken answered stands.called_activeProxies (House.booked _ _ _ _ _ _)

theorem ceilingServed (house : House) (floor : Floor) (caller : Caller) (id : ItemId)
    (round : Round) (ceiling : Decimal) :
    CeilingServed house floor caller id round ceiling
      (house.setProxy caller id round ceiling floor) := by
  refine .of_reads (reads_authorize house caller.user) rfl fun _ start done => ?_
  obtain ⟨authorized, rfl⟩ := authorize_eq_ok done
  refine .of_reads (reads_loadRound id round) rfl fun _ _ done => ?_
  obtain ⟨-, -, rfl⟩ := loadRound_eq_ok done
  refine .of_reads (reads_loadRound id round) rfl fun item _ done => ?_
  obtain ⟨listed, current, rfl⟩ := loadRound_eq_ok done
  refine .of_reads (reads_standing item round) rfl fun before _ done => ?_
  obtain ⟨rfl, rfl⟩ := standing_eq_ok done
  refine .of_reads (reads_demand _) rfl fun _ _ done => ?_
  obtain ⟨valid, rfl⟩ := demand_eq_ok done
  refine .of_reads (reads_read .activeProxy _) rfl fun previous _ done => ?_
  obtain ⟨rfl, rfl⟩ := read_eq_ok done
  have taken : CeilingTaken house start.store caller id round ceiling item :=
    ⟨authorized, listed, current, valid⟩
  rw [bind_apply, putProxy_apply]
  by_cases fails : ((((start.called .item).called .item).called .bidsFor).called
      .activeProxy).outages.failsNow .putProxy = true
  · rw [if_pos fails]
    exact .stopped rfl
  · rw [if_neg fails]
    refine .of_stands taken ⟨rfl, ?_, ?_, ?_, fun lossless => lossless⟩ ?_
    all_goals simp [Floor.called, Outages.failsNow_after_of_ne, Outages.failsNext_after_of_ne]

section PutBack

variable {store : Store}

/-- A ceiling that is taken back leaves the items, the bids and the proxies as they were. -/
theorem sameContents_putBack (numbered : store.ProxiesNumbered) (caller : Caller) (id : ItemId)
    (round : Round) (ceiling : Decimal) :
    let put := ceilingPut store caller id round ceiling
    store.SameContents (putBack put.2 (store.activeProxy? id round caller.user) put.1) := by
  intro put
  have put_eq : put = store.putProxy
    (raised (store.activeProxy? id round caller.user) caller id round ceiling.roundCents) := rfl
  rw [put_eq]
  cases found : store.activeProxy? id round caller.user with
  | none =>
    refine ⟨Store.items_putProxy.symm, Store.ledger_putProxy.symm, ?_⟩
    exact (Store.proxies_deleteProxy_putProxy numbered.keyed rfl).symm
  | some old =>
    have old_value := (Store.mem_activeProxies.1 (Store.activeProxy?_eq_some found).1).1
    have same : (raised (some old) caller id round ceiling.roundCents).id = old.id := rfl
    refine ⟨?_, ?_, (Store.proxies_putProxy_putProxy numbered.keyed old_value same).symm⟩
    · exact (Store.items_putProxy.trans Store.items_putProxy).symm
    · exact (Store.ledger_putProxy.trans Store.ledger_putProxy).symm

theorem numbered_putBack (numbered : store.ProxiesNumbered) (caller : Caller) (id : ItemId)
    (round : Round) (ceiling : Decimal) :
    let put := ceilingPut store caller id round ceiling
    (putBack put.2 (store.activeProxy? id round caller.user) put.1).ProxiesNumbered := by
  intro put
  have put_numbered : put.2.ProxiesNumbered := numbered_ceilingPut numbered
  cases found : store.activeProxy? id round caller.user with
  | none => exact put_numbered.deleteProxy put.1.id
  | some old =>
    have old_value := (Store.mem_activeProxies.1 (Store.activeProxy?_eq_some found).1).1
    have given : old.id < put.2.nextProxyId :=
      Nat.lt_of_lt_of_le (numbered.keyed.id_lt old_value) Store.nextProxyId_le_putProxy
    exact put_numbered.putProxy given

end PutBack

end House

end AuctionHouse
