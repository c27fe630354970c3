import AuctionHouse.Proofs.House.Renumbering
import AuctionHouse.Proofs.House.Rounds

/-!
# Items do not influence each other

Items share one ledger, one table of proxies and the two counters that number them.  A run with
events of all items is compared with the run of the events of one of them (`Mirrors`): the item has
the same record in both, and the same bids and proxies under other numbers of the same order.  An
event of the item does the same in both (`Mirrors.own`).  An event of another item moves the
counters of the one store only; the renumbering stays what it is for the numbers given out so far
and goes on from the new counters (`Mirrors.other`).
-/

namespace AuctionHouse

/-- The item that an event is about. -/
def Event.item : Event → ItemId
  | .call _ asked => asked.item
  | .relist id => id
  | .setWorkflow id _ => id
  | .register listing => listing.id

namespace Store

variable (store : Store) (id : ItemId)

/-- The bids of an item. -/
def bidsOf : List Bid := store.ledger.filter fun bid => bid.item = id

/-- The proxies of an item. -/
def proxiesOf : List Proxy := store.proxies.values.filter fun proxy => proxy.item = id

theorem bidsFor_eq_filter (round : Round) :
    store.bidsFor id round = (store.bidsOf id).filter fun bid => bid.round = round := by
  unfold bidsFor bidsOf
  rw [List.filter_filter]
  congr 1
  funext bid
  rw [Bool.and_comm]

theorem activeProxies_eq_filter (round : Round) :
    store.activeProxies id round =
      (store.proxiesOf id).filter fun proxy => proxy.active && proxy.round = round := by
  unfold activeProxies proxiesOf
  rw [List.filter_filter]
  congr 1
  funext proxy
  rw [Bool.and_right_comm]

end Store

namespace House

/-- Whether an item has the same record, bids and proxies in two stores, up to the numbers of bids
and proxies, and the numbers that both give out next correspond, too. -/
structure Mirrors (id : ItemId) (f : BidId → BidId) (g : ProxyId → ProxyId)
    (whole alone : Store) : Prop where
  item : whole.item? id = alone.item? id
  bids : whole.bidsOf id = (alone.bidsOf id).map (·.renumber f)
  proxies : whole.proxiesOf id = (alone.proxiesOf id).map (·.renumber g)
  bidIds : StrictMono f
  proxyIds : StrictMono g
  zero : g 0 = 0
  nextBid : ∀ n, f (alone.nextBidId + n) = whole.nextBidId + n
  nextProxy : ∀ n, g (alone.nextProxyId + n) = whole.nextProxyId + n

theorem Mirrors.refl (id : ItemId) (store : Store) :
    Mirrors id (fun n => n) (fun n => n) store store where
  item := rfl
  bids := (List.map_id _).symm
  proxies := (List.map_id _).symm
  bidIds := strictMono_id
  proxyIds := strictMono_id
  zero := rfl
  nextBid _ := rfl
  nextProxy _ := rfl

variable {house : House} {id : ItemId} {f : BidId → BidId} {g : ProxyId → ProxyId}
  {whole alone : Store} {item : Item} {round : Round} {caller : Caller}

section Reads

theorem Mirrors.bidsFor (mirrors : Mirrors id f g whole alone) (round : Round) :
    whole.bidsFor id round = (alone.bidsFor id round).map (·.renumber f) := by
  rw [Store.bidsFor_eq_filter, Store.bidsFor_eq_filter, mirrors.bids, List.filter_map]
  rfl

theorem Mirrors.activeProxies (mirrors : Mirrors id f g whole alone) (round : Round) :
    whole.activeProxies id round = (alone.activeProxies id round).map (·.renumber g) := by
  rw [Store.activeProxies_eq_filter, Store.activeProxies_eq_filter, mirrors.proxies,
    List.filter_map]
  rfl

theorem Mirrors.activeProxy? (mirrors : Mirrors id f g whole alone) (round : Round)
    (user : UserId) :
    whole.activeProxy? id round user = (alone.activeProxy? id round user).map (·.renumber g) := by
  unfold Store.activeProxy?
  rw [mirrors.activeProxies, List.find?_map]
  rfl

theorem Mirrors.standing (mirrors : Mirrors item.id f g whole alone) (round : Round) :
    whole.standing item round = (alone.standing item round).renumber f := by
  unfold Store.standing
  rw [mirrors.bidsFor, Ranking.standing_renumber mirrors.bidIds]

theorem Mirrors.listed (mirrors : Mirrors id f g whole alone) :
    whole.listed id = alone.listed id := by
  unfold Store.listed
  rw [mirrors.item]

theorem Mirrors.inRound (mirrors : Mirrors id f g whole alone) (round : Round) :
    whole.inRound id round = alone.inRound id round := by
  unfold Store.inRound
  rw [mirrors.item]

end Reads

section Terms

variable (mirrors : Mirrors id f g whole alone)
include mirrors

theorem Mirrors.bidItem (kept : house.Kept alone) (amount : Decimal) (kind : BidKind) :
    house.bidItem whole caller id round amount kind =
      house.bidItem alone caller id round amount kind := by
  unfold House.bidItem
  rw [mirrors.inRound]
  apply accept_congr
  intro item loaded
  obtain ⟨listed, -⟩ := (alone.inRound_eq_ok_iff id round).1 loaded
  obtain rfl : item.id = id := (kept.items _ _ listed).1
  rw [mirrors.standing, Validation.bidViolations_renumber]

theorem Mirrors.ceilingItem (kept : house.Kept alone) (ceiling : Decimal) :
    house.ceilingItem whole caller id round ceiling =
      house.ceilingItem alone caller id round ceiling := by
  unfold House.ceilingItem
  rw [mirrors.inRound]
  apply accept_congr
  intro item loaded
  obtain ⟨listed, -⟩ := (alone.inRound_eq_ok_iff id round).1 loaded
  obtain rfl : item.id = id := (kept.items _ _ listed).1
  rw [mirrors.standing]
  rfl

theorem Mirrors.purchaseItem : house.purchaseItem whole caller id =
    house.purchaseItem alone caller id := by
  unfold House.purchaseItem
  rw [mirrors.listed]

theorem Mirrors.answerTo (item : Item) {bid : NewBid} (own : bid.item = id) :
    house.answerTo whole item bid = house.answerTo alone item bid := by
  subst own
  unfold House.answerTo
  rw [mirrors.activeProxies, counterBid_renumber mirrors.proxyIds]

end Terms

section Writes

/-- Changes of the items that do the same to the item keep two stores alike. -/
theorem Mirrors.withItems (mirrors : Mirrors id f g whole alone) {items items' : Table Item}
    (same : items.get? id = items'.get? id) :
    Mirrors id f g { whole with items } { alone with items := items' } where
  item := same
  bids := mirrors.bids
  proxies := mirrors.proxies
  bidIds := mirrors.bidIds
  proxyIds := mirrors.proxyIds
  zero := mirrors.zero
  nextBid := mirrors.nextBid
  nextProxy := mirrors.nextProxy

/-- A change of the item keeps two stores alike. -/
theorem Mirrors.modify (mirrors : Mirrors id f g whole alone) (change : Item → Item) :
    Mirrors id f g { whole with items := whole.items.modify id change }
      { alone with items := alone.items.modify id change } := by
  apply mirrors.withItems
  have item_eq : whole.items.get? id = alone.items.get? id := mirrors.item
  rw [Table.get?_modify, Table.get?_modify, item_eq]

/-- A batch of bids for the item keeps two stores alike. -/
theorem Mirrors.append (mirrors : Mirrors id f g whole alone) {bids : List NewBid}
    (own : ∀ bid ∈ bids, bid.item = id) :
    Mirrors id f g (whole.append bids).2 (alone.append bids).2 := by
  have written_eq := Store.numbered_renumber mirrors.nextBid bids
  have all_own (first : BidId) : (Store.numbered first bids).filter (fun bid => bid.item = id) =
      Store.numbered first bids := by
    rw [List.filter_eq_self]
    intro bid mem
    exact decide_eq_true (own _ (Store.mem_numbered mem).1)
  rw [Store.append_eq, Store.append_eq]
  refine ⟨mirrors.item, ?_, mirrors.proxies, mirrors.bidIds, mirrors.proxyIds, mirrors.zero, ?_,
    mirrors.nextProxy⟩
  · have bids_eq := mirrors.bids
    unfold Store.bidsOf at bids_eq ⊢
    rw [List.filter_append, List.filter_append, all_own, all_own, List.map_append, bids_eq,
      written_eq]
  · intro n
    rw [Nat.add_assoc, Nat.add_assoc]
    exact mirrors.nextBid _

/-- A purchase of the item keeps two stores alike. -/
theorem Mirrors.sold (mirrors : Mirrors id f g whole alone) {bid : NewBid} (own : bid.item = id) :
    Mirrors id f g (House.sold whole bid) (House.sold alone bid) := by
  subst own
  have written : Mirrors bid.item f g (whole.append [bid]).2 (alone.append [bid]).2 := by
    apply mirrors.append
    intro other mem
    rw [List.mem_singleton.1 mem]
  have closed := written.modify fun item => { item with workflow := .finished }
  unfold House.sold
  rw [Store.append_eq, Store.append_eq] at closed ⊢
  exact closed

/-- Proxies of the item that are written under corresponding numbers keep two stores alike, if the
numbers that come next still correspond. -/
theorem Mirrors.putProxy_of (mirrors : Mirrors id f g whole alone) {proxy proxy' : Proxy}
    (proxies : (whole.putProxy proxy').2.proxiesOf id =
      ((alone.putProxy proxy).2.proxiesOf id).map (·.renumber g))
    (next : ∀ n, g ((alone.putProxy proxy).2.nextProxyId + n) =
      (whole.putProxy proxy').2.nextProxyId + n) :
    Mirrors id f g (whole.putProxy proxy').2 (alone.putProxy proxy).2 where
  item := by
    rw [Store.item?_putProxy, Store.item?_putProxy]
    exact mirrors.item
  bids := by
    unfold Store.bidsOf
    rw [Store.ledger_putProxy, Store.ledger_putProxy]
    exact mirrors.bids
  proxies := proxies
  bidIds := mirrors.bidIds
  proxyIds := mirrors.proxyIds
  zero := mirrors.zero
  nextBid := by
    rw [Store.nextBidId_putProxy, Store.nextBidId_putProxy]
    exact mirrors.nextBid
  nextProxy := next

/-- A new proxy of the item gets corresponding numbers and keeps two stores alike. -/
theorem Mirrors.putProxy_new (mirrors : Mirrors id f g whole alone)
    (whole_keyed : whole.ProxiesKeyed) (alone_keyed : alone.ProxiesKeyed) {proxy : Proxy}
    (own : proxy.item = id) (zero : proxy.id = 0) :
    (whole.putProxy (proxy.renumber g)).1 = (alone.putProxy proxy).1.renumber g ∧
      Mirrors id f g (whole.putProxy (proxy.renumber g)).2 (alone.putProxy proxy).2 := by
  have zero' : (proxy.renumber g).id = 0 := by
    rw [Proxy.renumber, zero]
    exact mirrors.zero
  have saved_eq : (whole.putProxy (proxy.renumber g)).1 = (alone.putProxy proxy).1.renumber g := by
    have next_eq : g alone.nextProxyId = whole.nextProxyId := mirrors.nextProxy 0
    rw [Store.putProxy_new zero', Store.putProxy_new zero]
    simp only [Proxy.renumber, next_eq]
  have saved_own : (alone.putProxy proxy).1.item = id := by
    rw [Store.putProxy_new zero]
    exact own
  refine ⟨saved_eq, mirrors.putProxy_of ?_ ?_⟩
  · have proxies_eq := mirrors.proxies
    have single {saved : Proxy} (own : saved.item = id) :
        [saved].filter (fun proxy => proxy.item = id) = [saved] :=
      List.filter_cons_of_pos (decide_eq_true own)
    have renumbered_own : ((alone.putProxy proxy).1.renumber g).item = id := saved_own
    unfold Store.proxiesOf at proxies_eq ⊢
    rw [Store.values_putProxy_new whole_keyed zero', Store.values_putProxy_new alone_keyed zero,
      List.filter_append, List.filter_append, List.map_append, proxies_eq, saved_eq,
      single saved_own, single renumbered_own, List.map_singleton]
  · intro n
    rw [Store.putProxy_new zero', Store.putProxy_new zero, Nat.add_assoc, Nat.add_assoc]
    exact mirrors.nextProxy _

/-- A proxy of the item that takes the place of another one keeps two stores alike. -/
theorem Mirrors.putProxy_old (mirrors : Mirrors id f g whole alone)
    (whole_keyed : whole.ProxiesKeyed) (alone_keyed : alone.ProxiesKeyed) {old proxy : Proxy}
    (old_mem : old ∈ alone.proxiesOf id) (own : proxy.item = id) (same : proxy.id = old.id) :
    (whole.putProxy (proxy.renumber g)).1 = (alone.putProxy proxy).1.renumber g ∧
      Mirrors id f g (whole.putProxy (proxy.renumber g)).2 (alone.putProxy proxy).2 := by
  have old_mem' : old.renumber g ∈ whole.proxiesOf id := by
    rw [mirrors.proxies]
    exact List.mem_map_of_mem old_mem
  have value := (List.mem_filter.1 old_mem).1
  have value' := (List.mem_filter.1 old_mem').1
  have same' : (proxy.renumber g).id = (old.renumber g).id := congrArg g same
  have pos : 0 < proxy.id := same ▸ alone_keyed.id_pos value
  have pos' : 0 < (proxy.renumber g).id := same' ▸ whole_keyed.id_pos value'
  have alike : decide (proxy.item = id) = decide (old.item = id) := by
    rw [(List.mem_filter.1 old_mem).2, own, decide_eq_true rfl]
  refine ⟨by rw [Store.putProxy_old pos', Store.putProxy_old pos], mirrors.putProxy_of ?_ ?_⟩
  · have proxies_eq := mirrors.proxies
    unfold Store.proxiesOf at proxies_eq ⊢
    rw [Store.filter_putProxy_old whole_keyed value' same' alike,
      Store.filter_putProxy_old alone_keyed value same alike, proxies_eq, List.map_map,
      List.map_map]
    apply List.map_congr_left
    intro other _
    have ids_eq : (other.renumber g).id = (proxy.renumber g).id ↔ other.id = proxy.id :=
      mirrors.proxyIds.injective.eq_iff
    simp only [Function.comp_apply, ids_eq]
    split <;> rfl
  · rw [Store.putProxy_old pos', Store.putProxy_old pos]
    exact mirrors.nextProxy

theorem mem_proxiesOf_of_activeProxy? {store : Store} {old : Proxy}
    (found : store.activeProxy? id round caller.user = some old) : old ∈ store.proxiesOf id := by
  obtain ⟨old_mem, -⟩ := Store.activeProxy?_eq_some found
  obtain ⟨value, -, own, -⟩ := Store.mem_activeProxies.1 old_mem
  exact List.mem_filter.2 ⟨value, decide_eq_true own⟩

/-- A ceiling is put under corresponding numbers and keeps two stores alike. -/
theorem Mirrors.ceilingPut (mirrors : Mirrors id f g whole alone)
    (whole_keyed : whole.ProxiesKeyed) (alone_keyed : alone.ProxiesKeyed) (caller : Caller)
    (round : Round) (ceiling : Decimal) :
    let put := House.ceilingPut alone caller id round ceiling
    let put' := House.ceilingPut whole caller id round ceiling
    put'.1 = put.1.renumber g ∧ Mirrors id f g put'.2 put.2 := by
  intro put put'
  unfold put put' House.ceilingPut
  rw [mirrors.activeProxy?, raised_renumber mirrors.zero]
  cases found : alone.activeProxy? id round caller.user with
  | none => exact mirrors.putProxy_new whole_keyed alone_keyed rfl rfl
  | some old =>
    have old_mem := mem_proxiesOf_of_activeProxy? found
    have own : old.item = id := of_decide_eq_true (List.mem_filter.1 old_mem).2
    exact mirrors.putProxy_old whole_keyed alone_keyed old_mem own rfl

/-- A proxy is withdrawn in both of two stores that are alike. -/
theorem Mirrors.removal (mirrors : Mirrors id f g whole alone)
    (whole_keyed : whole.ProxiesKeyed) (alone_keyed : alone.ProxiesKeyed) {old : Proxy}
    (found : alone.activeProxy? id round caller.user = some old) :
    Mirrors id f g (whole.putProxy (withdrawn caller (old.renumber g))).2
      (alone.putProxy (withdrawn caller old)).2 := by
  have old_mem := mem_proxiesOf_of_activeProxy? found
  have own : (withdrawn caller old).item = id := of_decide_eq_true (List.mem_filter.1 old_mem).2
  have same : (withdrawn caller old).id = old.id := rfl
  exact (mirrors.putProxy_old whole_keyed alone_keyed old_mem own same).2

end Writes

section Own

/-- Whether two calls answer the same up to the numbers of bids and proxies, and leave stores that
are alike for an item. -/
def Agree (id : ItemId) (f : BidId → BidId) (g : ProxyId → ProxyId)
    (whole alone : Except Stop Outcome × Store) : Prop :=
  whole.1 = alone.1.map (·.renumber f g) ∧ Mirrors id f g whole.2 alone.2

theorem Mirrors.ceilingAnswer (mirrors : Mirrors item.id f g whole alone)
    (whole_kept : house.Kept whole) (alone_kept : house.Kept alone) (ceiling : Decimal) :
    house.ceilingAnswer whole caller item.id round ceiling item =
      house.ceilingAnswer alone caller item.id round ceiling item := by
  obtain ⟨-, put⟩ := mirrors.ceilingPut whole_kept.proxies.keyed alone_kept.proxies.keyed caller
    round ceiling
  unfold House.ceilingAnswer
  rw [mirrors.standing, put.activeProxies, ceilingBids_renumber mirrors.proxyIds]

variable (mirrors : Mirrors id f g whole alone)
include mirrors

theorem Mirrors.placeBid (alone_kept : house.Kept alone) (amount : Decimal) (kind : BidKind) :
    Agree id f g (house.perform whole caller (.placeBid id round amount kind))
      (house.perform alone caller (.placeBid id round amount kind)) := by
  rw [perform_placeBid, perform_placeBid, mirrors.bidItem alone_kept]
  cases accepted : house.bidItem alone caller id round amount kind with
  | error refusal => exact ⟨rfl, mirrors⟩
  | ok item =>
    simp only
    rw [mirrors.answerTo item rfl]
    cases answered : house.answerTo alone item (byHand caller id round amount kind) with
    | error fault => exact ⟨rfl, mirrors⟩
    | ok counter =>
      have taken := bidTaken_iff.2 ⟨accepted, answered⟩
      refine ⟨?_, mirrors.append fun bid mem => (here_of_bidTaken taken bid mem).1⟩
      have next_eq : f alone.nextBidId = whole.nextBidId := mirrors.nextBid 0
      have next_eq' := mirrors.nextBid 1
      cases counter <;>
        simp [Except.map, Outcome.renumber, Receipt.renumber, receipt, Bid.renumber, next_eq,
          next_eq']

theorem Mirrors.placeBuyNow :
    Agree id f g (house.perform whole caller (.placeBuyNow id))
      (house.perform alone caller (.placeBuyNow id)) := by
  rw [perform_placeBuyNow, perform_placeBuyNow, mirrors.purchaseItem]
  cases house.purchaseItem alone caller id with
  | error refusal => exact ⟨rfl, mirrors⟩
  | ok item =>
    have next_eq : f alone.nextBidId = whole.nextBidId := mirrors.nextBid 0
    refine ⟨?_, mirrors.sold rfl⟩
    simp only [Except.map, Outcome.renumber, Bid.renumber, next_eq]

theorem Mirrors.setProxy (whole_kept : house.Kept whole) (alone_kept : house.Kept alone)
    (ceiling : Decimal) :
    Agree id f g (house.perform whole caller (.setProxy id round ceiling))
      (house.perform alone caller (.setProxy id round ceiling)) := by
  obtain ⟨saved_eq, put⟩ := mirrors.ceilingPut whole_kept.proxies.keyed alone_kept.proxies.keyed
    caller round ceiling
  rw [perform_setProxy, perform_setProxy, mirrors.ceilingItem alone_kept]
  cases accepted : house.ceilingItem alone caller id round ceiling with
  | error refusal => exact ⟨rfl, mirrors⟩
  | ok item =>
    have taken := ceilingItem_eq_ok_iff.1 accepted
    obtain rfl : item.id = id := (alone_kept.items _ _ taken.listed).1
    simp only
    rw [mirrors.ceilingAnswer whole_kept alone_kept]
    cases answered : house.ceilingAnswer alone caller item.id round ceiling item with
    | error fault => exact ⟨rfl, put⟩
    | ok bids =>
      refine ⟨?_, put.append fun bid mem => (here_of_ceilingAnswer answered bid mem).1⟩
      simp only [Except.map, Outcome.renumber, saved_eq]

theorem Mirrors.removeProxy (whole_kept : house.Kept whole) (alone_kept : house.Kept alone) :
    Agree id f g (house.perform whole caller (.removeProxy id round))
      (house.perform alone caller (.removeProxy id round)) := by
  rw [perform_removeProxy, perform_removeProxy, mirrors.inRound, mirrors.activeProxy?]
  cases alone.inRound id round with
  | error refusal => exact ⟨rfl, mirrors⟩
  | ok item =>
    cases found : alone.activeProxy? id round caller.user with
    | none => exact ⟨rfl, mirrors⟩
    | some old =>
      exact ⟨rfl, mirrors.removal whole_kept.proxies.keyed alone_kept.proxies.keyed found⟩

/-- A call for the item does the same in two stores that are alike for it. -/
theorem Mirrors.perform (whole_kept : house.Kept whole) (alone_kept : house.Kept alone)
    {call : Call} (own : call.item = id) :
    Agree id f g (house.perform whole caller call) (house.perform alone caller call) := by
  subst own
  cases call with
  | placeBid => exact mirrors.placeBid alone_kept _ _
  | placeBuyNow => exact mirrors.placeBuyNow
  | setProxy => exact mirrors.setProxy whole_kept alone_kept _
  | removeProxy => exact mirrors.removeProxy whole_kept alone_kept

/-- An event of the item does the same in two stores that are alike for it. -/
theorem Mirrors.own (whole_kept : house.Kept whole) (alone_kept : house.Kept alone)
    {event : Event} (own : event.item = id) :
    house.reply whole event = (house.reply alone event).renumber f g ∧
      Mirrors id f g (house.step whole event) (house.step alone event) := by
  subst own
  cases event with
  | call caller call =>
    have agree : Agree call.item f g (house.perform whole caller call)
        (house.perform alone caller call) := mirrors.perform whole_kept alone_kept rfl
    exact ⟨congrArg Reply.served agree.1, agree.2⟩
  | relist id =>
    have item_eq : whole.item? id = alone.item? id := mirrors.item
    simp only [reply, step, Store.relist, item_eq]
    cases alone.item? id with
    | none => exact ⟨rfl, mirrors⟩
    | some item =>
      cases opened : item.round.next with
      | error fault =>
        simp only [opened]
        exact ⟨rfl, mirrors⟩
      | ok round =>
        simp only [opened]
        exact ⟨rfl, mirrors.modify _⟩
  | setWorkflow id workflow =>
    have item_eq : whole.item? id = alone.item? id := mirrors.item
    simp only [reply, step, Store.setWorkflow, item_eq]
    cases alone.item? id with
    | none => exact ⟨rfl, mirrors⟩
    | some item => exact ⟨rfl, mirrors.modify _⟩
  | register item =>
    have item_eq : whole.item? item.id = alone.item? item.id := mirrors.item
    simp only [reply, step, item_eq]
    refine ⟨rfl, ?_⟩
    split
    · apply mirrors.withItems
      have inserted (items : Table Item) : (items.insert item.id item).get? item.id = some item :=
        (Table.get?_insert ..).trans (if_pos rfl)
      exact (inserted _).trans (inserted _).symm
    · exact mirrors

end Own

section Other

/-- An event of another item leaves the record of an item. -/
theorem item?_step_of_ne (house : House) (store : Store) {event : Event} (other : event.item ≠ id) :
    (house.step store event).item? id = store.item? id := by
  cases listed : store.item? id with
  | some item =>
    obtain ⟨later, later_listed, changed⟩ := itemChange_step house listed event
    rw [later_listed]
    cases changed with
    | same => rfl
    | relisted | put | sold => exact absurd rfl other
  | none =>
    cases found : (house.step store event).item? id with
    | none => rfl
    | some item =>
      obtain ⟨rfl, -, own⟩ := item?_step_of_none listed found
      exact absurd own other

/-- An event of another item leaves the bids and the proxies of an item. -/
theorem sameIn_step_of_ne {store : Store} (kept : house.Kept store) {event : Event}
    (other : event.item ≠ id) :
    Store.SameIn (fun item _ => item = id) store (house.step store event) := by
  apply sameIn_step kept
  rintro caller call item rfl -
  exact decide_eq_false other

/-- The numbers that come next only go up. -/
theorem next_le_step (house : House) (store : Store) (event : Event) :
    store.nextBidId ≤ (house.step store event).nextBidId ∧
      store.nextProxyId ≤ (house.step store event).nextProxyId := by
  have changed := change house store event
  generalize house.step store event = after at changed ⊢
  cases changed with
  | call served =>
    cases served with
    | stopped => exact ⟨Nat.le_refl _, Nat.le_refl _⟩
    | bid => simp
    | purchase => simp [sold]
    | ceiling =>
      rw [Store.nextBidId_append, Store.nextProxyId_append, ceilingPut, Store.nextBidId_putProxy]
      exact ⟨Nat.le_add_right _ _, Store.nextProxyId_le_putProxy⟩
    | ceilingFault =>
      exact ⟨Store.nextBidId_putProxy.ge, Store.nextProxyId_le_putProxy⟩
    | noRemoval => exact ⟨Nat.le_refl _, Nat.le_refl _⟩
    | removal => exact ⟨Store.nextBidId_putProxy.ge, Store.nextProxyId_le_putProxy⟩
  | relist => exact ⟨Nat.le_refl _, Nat.le_refl _⟩
  | setWorkflow => exact ⟨Nat.le_refl _, Nat.le_refl _⟩
  | register => exact ⟨Nat.le_refl _, Nat.le_refl _⟩
  | nothing => exact ⟨Nat.le_refl _, Nat.le_refl _⟩

/-- After an event of another item, the numbers given out so far are renumbered as before, and the
ones to come go on from the new counters. -/
theorem Mirrors.other (mirrors : Mirrors id f g whole alone) (whole_kept : house.Kept whole)
    (alone_kept : house.Kept alone) {event : Event} (other : event.item ≠ id) :
    Mirrors id (resumed f alone.nextBidId (house.step whole event).nextBidId)
      (resumed g alone.nextProxyId (house.step whole event).nextProxyId)
      (house.step whole event) alone where
  item := (item?_step_of_ne house whole other).trans mirrors.item
  bids := by
    have same : (house.step whole event).bidsOf id = whole.bidsOf id :=
      (sameIn_step_of_ne whole_kept other).bids
    rw [same, mirrors.bids]
    apply List.map_congr_left
    intro bid mem
    have given := alone_kept.ledger.ids_lt bid (List.mem_filter.1 mem).1
    rw [Bid.renumber, Bid.renumber, resumed_of_lt given]
  proxies := by
    have same : (house.step whole event).proxiesOf id = whole.proxiesOf id :=
      (sameIn_step_of_ne whole_kept other).proxies
    rw [same, mirrors.proxies]
    apply List.map_congr_left
    intro proxy mem
    have given := alone_kept.proxies.keyed.id_lt (List.mem_filter.1 mem).1
    rw [Proxy.renumber, Proxy.renumber, resumed_of_lt given]
  bidIds := by
    apply strictMono_resumed mirrors.bidIds
    rw [show f alone.nextBidId = whole.nextBidId from mirrors.nextBid 0]
    exact (next_le_step house whole event).1
  proxyIds := by
    apply strictMono_resumed mirrors.proxyIds
    rw [show g alone.nextProxyId = whole.nextProxyId from mirrors.nextProxy 0]
    exact (next_le_step house whole event).2
  zero := (resumed_of_lt alone_kept.proxies.next_pos).trans mirrors.zero
  nextBid := resumed_add
  nextProxy := resumed_add

end Other

section Run

variable {store : Store} {f' : BidId → BidId} {g' : ProxyId → ProxyId}

/-- Renumberings that agree on the numbers given out so far do the same to what a call answers. -/
theorem Served.renumber_congr (kept : house.Kept store) {call : Call}
    {answer : Except Stop Outcome} {after : Store}
    (served : Served house store caller call answer after)
    (bids : ∀ k < after.nextBidId, f' k = f k) (proxies : ∀ k < after.nextProxyId, g' k = g k) :
    answer.map (·.renumber f' g') = answer.map (·.renumber f g) := by
  cases served with
  | stopped => rfl
  | @bid id round amount kind item counter taken =>
    rw [Store.nextBidId_append, List.length_cons] at bids
    have hand_eq := bids store.nextBidId (Nat.lt_add_of_pos_right (Nat.succ_pos _))
    cases counter with
    | none =>
      simp only [Except.map, Outcome.renumber, Receipt.renumber, receipt, Bid.renumber,
        Option.map_none, hand_eq]
    | some counter =>
      have answer_eq := bids (store.nextBidId + 1) (Nat.lt_succ_self _)
      simp only [Except.map, Outcome.renumber, Receipt.renumber, receipt, Bid.renumber,
        Option.map_some, hand_eq, answer_eq]
  | purchase taken =>
    have bid_eq : f' store.nextBidId = f store.nextBidId := by
      apply bids
      rw [sold, Store.nextBidId_append]
      exact Nat.lt_succ_self _
    simp only [Except.map, Outcome.renumber, Bid.renumber, bid_eq]
  | @ceiling id round ceiling item written taken answered =>
    have saved_mem := @saved_mem_ceilingPut store caller id round ceiling kept.proxies
    have value := (Store.mem_activeProxies.1 saved_mem).1
    have given := (kept.ceilingPut taken).proxies.keyed.id_lt value
    rw [Store.nextProxyId_append] at proxies
    simp only [Except.map, Outcome.renumber, Proxy.renumber, proxies _ given]
  | ceilingFault => rfl
  | noRemoval => rfl
  | removal => rfl

/-- Renumberings that agree on the numbers given out so far do the same to a reply. -/
theorem reply_renumber_congr (kept : house.Kept store) (event : Event)
    (bids : ∀ k < (house.step store event).nextBidId, f' k = f k)
    (proxies : ∀ k < (house.step store event).nextProxyId, g' k = g k) :
    (house.reply store event).renumber f' g' = (house.reply store event).renumber f g := by
  cases event with
  | call caller call =>
    exact congrArg Reply.served ((served house store caller call).renumber_congr kept bids proxies)
  | relist => rfl
  | setWorkflow => rfl
  | register => rfl

/-- A run from one of two stores that are alike for an item, and the run of the events of the item
from the other: the item gets the same replies, and the stores are alike in the end. -/
theorem Mirrors.runFrom (mirrors : Mirrors id f g whole alone) (whole_kept : house.Kept whole)
    (alone_kept : house.Kept alone) (events : List Event) :
    let own := events.filter fun event => event.item = id
    ∃ f' g', (∀ k < alone.nextBidId, f' k = f k) ∧ (∀ k < alone.nextProxyId, g' k = g k) ∧
      Mirrors id f' g' (house.runFrom whole events) (house.runFrom alone own) ∧
      (house.exchange whole events).filter (fun entry => entry.1.item = id) =
        (house.exchange alone own).map fun entry => (entry.1, entry.2.renumber f' g') := by
  intro own
  -- The renumberings grow on the way, so the last ones do it all: they agree with all before them
  -- on the numbers given out by then, and no reply has any other.
  induction events generalizing whole alone f g with
  | nil => exact ⟨f, g, fun _ _ => rfl, fun _ _ => rfl, mirrors, rfl⟩
  | cons event rest ih =>
    have whole_next := whole_kept.step event
    by_cases here : event.item = id
    · have own_eq : own = event :: rest.filter fun event => event.item = id :=
        List.filter_cons_of_pos (decide_eq_true here)
      have alone_next := alone_kept.step event
      obtain ⟨reply_eq, after⟩ := mirrors.own whole_kept alone_kept here
      obtain ⟨f', g', bids, proxies, last, replies⟩ := ih after whole_next alone_next
      obtain ⟨bid_le, proxy_le⟩ := next_le_step house alone event
      refine ⟨f', g', fun k lt => ?_, fun k lt => ?_, ?_, ?_⟩
      · exact bids k (Nat.lt_of_lt_of_le lt bid_le)
      · exact proxies k (Nat.lt_of_lt_of_le lt proxy_le)
      · rw [own_eq]
        exact last
      · rw [own_eq, exchange, exchange, List.filter_cons, if_pos (decide_eq_true here),
          List.map_cons, replies, reply_eq, reply_renumber_congr alone_kept event bids proxies]
    · have own_eq : own = rest.filter fun event => event.item = id :=
        List.filter_cons_of_neg (by rwa [decide_eq_true_eq])
      obtain ⟨f', g', bids, proxies, last, replies⟩ :=
        ih (mirrors.other whole_kept alone_kept here) whole_next alone_kept
      refine ⟨f', g', fun k lt => ?_, fun k lt => ?_, ?_, ?_⟩
      · exact (bids k lt).trans (resumed_of_lt lt)
      · exact (proxies k lt).trans (resumed_of_lt lt)
      · rw [own_eq]
        exact last
      · rw [own_eq, exchange, List.filter_cons, if_neg (by rwa [decide_eq_true_eq])]
        exact replies

end Run

/-- After every run, some more events are compared with those of them that are about one item: the
item gets the same replies, and has the same record, bids and proxies in the end, up to other
numbers of the same order for the bids and the proxies.  Those that there were keep their
numbers. -/
theorem items_apart (house : House) (prior events : List Event) (id : ItemId) :
    let start := house.run prior
    let own := events.filter fun event => event.item = id
    let whole := house.runFrom start events
    let alone := house.runFrom start own
    ∃ f g, (StrictMono f ∧ ∀ k < start.nextBidId, f k = k) ∧
      (StrictMono g ∧ ∀ k < start.nextProxyId, g k = k) ∧
      (house.exchange start events).filter (fun entry => entry.1.item = id) =
        (house.exchange start own).map (fun entry => (entry.1, entry.2.renumber f g)) ∧
      whole.item? id = alone.item? id ∧
      whole.bidsOf id = (alone.bidsOf id).map (·.renumber f) ∧
      whole.proxiesOf id = (alone.proxiesOf id).map (·.renumber g) := by
  intro start own whole alone
  have kept := kept_run house prior
  obtain ⟨f, g, bids, proxies, last, replies⟩ :=
    (Mirrors.refl id start).runFrom kept kept events
  exact ⟨f, g, ⟨last.bidIds, bids⟩, ⟨last.proxyIds, proxies⟩, replies, last.item, last.bids,
    last.proxies⟩

/-- Behind a bid on a lamp, the first bid on the vase has another number than alone. -/
example :
    let lamp : Item := { Item.vase with id := 2, name := "lamp" }
    let start := run {} [.register .vase, .register lamp]
    let other : Event := .call ⟨3, .hour 1⟩ (.placeBid 2 0 (.whole 12) .standard)
    let own : Event := .call ⟨2, .hour 2⟩ (.placeBid 1 0 (.whole 12) .standard)
    ((runFrom {} start [other, own]).bidsOf 1).map (·.id) = [2] ∧
      ((runFrom {} start [own]).bidsOf 1).map (·.id) = [1] := by
  decide +kernel

end House

end AuctionHouse
