import AuctionHouse.Proofs.House.Answers
import AuctionHouse.Proofs.Validation

/-!
# What every run keeps

The invariant of the store: items are sound and under their own numbers, bids are in the order of
their numbers, and of the proxies of a round at most one for each user is active, with a ceiling in
whole cents.  A bid that is not in whole cents, which a starting price of fractions of a cent can
bring about, is never the highest of its round.  Each write keeps its part (`LedgerKept.append`,
`ProxiesKept.ceilingPut`, `ProxiesKept.removal`), so every event keeps all of it (`Kept.step`).
-/

namespace AuctionHouse

namespace Store

/-- Whether there is an item of a number, and it has come to a round. -/
def Filed (store : Store) (id : ItemId) (round : Round) : Prop :=
  ∃ item, store.item? id = some item ∧ round ≤ item.round

/-- What is kept of the items. -/
def ItemsKept (store : Store) : Prop :=
  ∀ id item, store.item? id = some item → item.id = id ∧ item.problems = []

/-- What is kept of the ledger. -/
structure LedgerKept (store : Store) : Prop where
  filed : ∀ bid ∈ store.ledger, store.Filed bid.item bid.round
  ids : store.ledger.Pairwise fun a b => a.id < b.id
  ids_lt : ∀ bid ∈ store.ledger, bid.id < store.nextBidId
  offers : ∀ bid ∈ store.ledger, bid.offer ≠ .rejected
  amounts : ∀ bid ∈ store.ledger, bid.amount.IsCents ∨
    ∃ other ∈ store.ledger, other.item = bid.item ∧ other.round = bid.round ∧
      bid.amount < other.amount

/-- Whether a batch may be written: its bids are in rounds that there are, count, and are in whole
cents or below another one of them. -/
def SoundBatch (store : Store) (bids : List NewBid) : Prop :=
  ∀ bid ∈ bids, store.Filed bid.item bid.round ∧ bid.offer ≠ .rejected ∧
    (bid.amount.IsCents ∨ ∃ other ∈ bids, other.item = bid.item ∧ other.round = bid.round ∧
      bid.amount < other.amount)

/-- What is kept of the proxies. -/
structure ProxiesKept (store : Store) : Prop where
  keyed : store.ProxiesKeyed
  next_pos : 0 < store.nextProxyId
  filed : ∀ proxy ∈ store.proxies.values, store.Filed proxy.item proxy.round
  ceilings : ∀ proxy ∈ store.proxies.values, proxy.ceiling.IsCents ∧ 0 < proxy.ceiling.value
  single : ∀ item round, ∀ p ∈ store.activeProxies item round,
    ∀ q ∈ store.activeProxies item round, p.user = q.user → p = q

variable {store next : Store}

theorem Filed.of_eq {id : ItemId} {round : Round} (filed : store.Filed id round)
    (same : ∀ id, next.item? id = store.item? id) : next.Filed id round := by
  obtain ⟨item, listed, round_le⟩ := filed
  exact ⟨item, (same id).trans listed, round_le⟩

theorem not_filed_of_none {id : ItemId} (missing : store.item? id = none) (round : Round) :
    ¬ store.Filed id round := by
  rintro ⟨item, listed, -⟩
  rw [missing] at listed
  cases listed

/-- A round that no item has come to has no bids. -/
theorem LedgerKept.bidsFor_of_not_filed (kept : store.LedgerKept) {id : ItemId} {round : Round}
    (unfiled : ¬ store.Filed id round) : store.bidsFor id round = [] := by
  rw [List.eq_nil_iff_forall_not_mem]
  intro bid mem
  obtain ⟨ledger_mem, rfl, rfl⟩ := (mem_bidsFor _).1 mem
  exact unfiled (kept.filed bid ledger_mem)

/-- A round that no item has come to has no proxies. -/
theorem ProxiesKept.proxiesFor_of_not_filed (kept : store.ProxiesKept) {id : ItemId}
    {round : Round} (unfiled : ¬ store.Filed id round) : store.proxiesFor id round = [] := by
  rw [proxiesFor, List.filter_eq_nil_iff]
  intro proxy mem here
  rw [Bool.and_eq_true, decide_eq_true_eq, decide_eq_true_eq] at here
  obtain ⟨rfl, rfl⟩ := here
  exact unfiled (kept.filed proxy mem)

theorem ProxiesKept.activeProxies_of_not_filed (kept : store.ProxiesKept) {id : ItemId}
    {round : Round} (unfiled : ¬ store.Filed id round) : store.activeProxies id round = [] := by
  rw [activeProxies_eq_proxiesFor, kept.proxiesFor_of_not_filed unfiled]
  rfl

theorem LedgerKept.of_eq (kept : store.LedgerKept) (ledger_eq : next.ledger = store.ledger)
    (next_eq : next.nextBidId = store.nextBidId)
    (filed : ∀ id round, store.Filed id round → next.Filed id round) : next.LedgerKept where
  filed bid mem := by
    rw [ledger_eq] at mem
    exact filed _ _ (kept.filed bid mem)
  ids := by
    rw [ledger_eq]
    exact kept.ids
  ids_lt bid mem := by
    rw [ledger_eq] at mem
    rw [next_eq]
    exact kept.ids_lt bid mem
  offers bid mem := by
    rw [ledger_eq] at mem
    exact kept.offers bid mem
  amounts bid mem := by
    rw [ledger_eq] at mem ⊢
    exact kept.amounts bid mem

theorem ProxiesKept.numbered (kept : store.ProxiesKept) : store.ProxiesNumbered :=
  ⟨kept.keyed, kept.next_pos⟩

theorem ProxiesKept.of_eq (kept : store.ProxiesKept) (proxies_eq : next.proxies = store.proxies)
    (next_eq : next.nextProxyId = store.nextProxyId)
    (filed : ∀ id round, store.Filed id round → next.Filed id round) : next.ProxiesKept where
  keyed id proxy found := by
    rw [proxies_eq] at found
    rw [next_eq]
    exact kept.keyed id proxy found
  next_pos := by
    rw [next_eq]
    exact kept.next_pos
  filed proxy mem := by
    rw [proxies_eq] at mem
    exact filed _ _ (kept.filed proxy mem)
  ceilings proxy mem := by
    rw [proxies_eq] at mem
    exact kept.ceilings proxy mem
  single item round p p_mem q q_mem same := by
    rw [activeProxies, proxies_eq] at p_mem q_mem
    exact kept.single item round p p_mem q q_mem same

theorem LedgerKept.append (kept : store.LedgerKept) {bids : List NewBid}
    (sound : store.SoundBatch bids) : (store.append bids).2.LedgerKept := by
  rw [append_eq]
  have cases_of_mem {bid : Bid} (mem : bid ∈ store.ledger ++ numbered store.nextBidId bids) :
      bid ∈ store.ledger ∨ bid.toNewBid ∈ bids := by
    rcases List.mem_append.1 mem with old | new
    · exact .inl old
    · exact .inr (mem_numbered new).1
  constructor
  · intro bid mem
    rcases cases_of_mem mem with old | new
    · exact kept.filed bid old
    · exact (sound _ new).1
  · rw [List.pairwise_append]
    refine ⟨kept.ids, pairwise_numbered _ _, ?_⟩
    intro old old_mem new new_mem
    exact Nat.lt_of_lt_of_le (kept.ids_lt old old_mem) (mem_numbered new_mem).2
  · intro bid mem
    rcases List.mem_append.1 mem with old | new
    · exact Nat.lt_of_lt_of_le (kept.ids_lt bid old) (Nat.le_add_right _ _)
    · exact numbered_id_lt new
  · intro bid mem
    rcases cases_of_mem mem with old | new
    · exact kept.offers bid old
    · exact (sound _ new).2.1
  · intro bid mem
    rcases cases_of_mem mem with old | new
    · rcases kept.amounts bid old with whole | ⟨other, other_mem, more⟩
      · exact .inl whole
      · exact .inr ⟨other, List.mem_append_left _ other_mem, more⟩
    · rcases (sound _ new).2.2 with whole | ⟨other, other_mem, more⟩
      · exact .inl whole
      · obtain ⟨written, written_mem, rfl⟩ := exists_numbered_of_mem other_mem
        exact .inr ⟨written, List.mem_append_right _ written_mem, more⟩

/-- The active proxy of a user is the only one of the user that is active. -/
theorem ProxiesKept.activeProxy?_eq_some_iff (kept : store.ProxiesKept) {id : ItemId}
    {round : Round} {user : UserId} {proxy : Proxy} :
    store.activeProxy? id round user = some proxy ↔
      proxy ∈ store.activeProxies id round ∧ proxy.user = user := by
  constructor
  · exact activeProxy?_eq_some
  · rintro ⟨mem, own⟩
    cases found : store.activeProxy? id round user with
    | none => exact absurd own (activeProxy?_eq_none_iff.1 found proxy mem)
    | some other =>
      obtain ⟨other_mem, other_own⟩ := activeProxy?_eq_some found
      rw [kept.single id round other other_mem proxy mem (other_own.trans own.symm)]

/-- Every bid of the ledger counts. -/
theorem LedgerKept.counts (kept : store.LedgerKept) {id : ItemId} {round : Round} {bid : Bid}
    (mem : bid ∈ store.bidsFor id round) : bid.counts = true := by
  rw [mem_bidsFor] at mem
  exact decide_eq_true (kept.offers bid mem.1)

end Store

namespace House

section CeilingPut

variable {store : Store} {caller : Caller} {id : ItemId} {round : Round} {ceiling : Decimal}

/-- The proxy that is put has the terms of the call. -/
theorem ceilingPut_saved (store : Store) (caller : Caller) (id : ItemId) (round : Round)
    (ceiling : Decimal) :
    let saved := (ceilingPut store caller id round ceiling).1
    saved.user = caller.user ∧ saved.item = id ∧ saved.round = round ∧ saved.active = true ∧
      saved.ceiling = ceiling.roundCents := by
  intro saved
  obtain ⟨number, saved_eq⟩ := Store.putProxy_fst store
    (raised (store.activeProxy? id round caller.user) caller id round ceiling.roundCents)
  have saved_eq : saved = _ := saved_eq
  rw [saved_eq]
  cases found : store.activeProxy? id round caller.user with
  | none => exact ⟨rfl, rfl, rfl, rfl, rfl⟩
  | some proxy =>
    obtain ⟨mem, user_eq⟩ := Store.activeProxy?_eq_some found
    obtain ⟨-, active, item_eq, round_eq⟩ := Store.mem_activeProxies.1 mem
    exact ⟨user_eq, item_eq, round_eq, active, rfl⟩

theorem mem_values_ceilingPut (kept : store.ProxiesKept) {proxy : Proxy} :
    proxy ∈ (ceilingPut store caller id round ceiling).2.proxies.values ↔
      proxy = (ceilingPut store caller id round ceiling).1 ∨
        proxy ∈ store.proxies.values ∧ store.activeProxy? id round caller.user ≠ some proxy := by
  unfold ceilingPut
  cases found : store.activeProxy? id round caller.user with
  | none =>
    rw [Store.mem_values_putProxy_new kept.keyed rfl]
    refine or_congr_right ⟨fun mem => ⟨mem, ?_⟩, fun h => h.1⟩
    intro impossible
    cases impossible
  | some old =>
    obtain ⟨old_mem, -⟩ := Store.activeProxy?_eq_some found
    have old_value := (Store.mem_activeProxies.1 old_mem).1
    have same : (raised (some old) caller id round ceiling.roundCents).id = old.id := rfl
    have pos := kept.keyed.id_pos old_value
    rw [← same] at pos
    rw [Store.mem_values_putProxy_old kept.keyed old_value same, Store.putProxy_old pos, ne_eq,
      ne_eq, Option.some.injEq, @eq_comm _ old]

/-- With a ceiling, its proxy stands in the place of the caller's in the round, and nothing else is
different. -/
theorem mem_activeProxies_ceilingPut (kept : store.ProxiesKept) {proxy : Proxy} {id' : ItemId}
    {round' : Round} :
    proxy ∈ (ceilingPut store caller id round ceiling).2.activeProxies id' round' ↔
      proxy = (ceilingPut store caller id round ceiling).1 ∧ id' = id ∧ round' = round ∨
        proxy ∈ store.activeProxies id' round' ∧
          ¬ (id' = id ∧ round' = round ∧ proxy.user = caller.user) := by
  obtain ⟨user_eq, item_eq, round_eq, active, -⟩ :=
    ceilingPut_saved store caller id round ceiling
  rw [Store.mem_activeProxies, mem_values_ceilingPut kept, Store.mem_activeProxies]
  constructor
  · rintro ⟨rfl | ⟨mem, different⟩, proxy_active, proxy_item, proxy_round⟩
    · exact .inl ⟨rfl, proxy_item.symm.trans item_eq, proxy_round.symm.trans round_eq⟩
    · refine .inr ⟨⟨mem, proxy_active, proxy_item, proxy_round⟩, ?_⟩
      rintro ⟨rfl, rfl, own⟩
      have proxy_mem := Store.mem_activeProxies.2 ⟨mem, proxy_active, proxy_item, proxy_round⟩
      cases found : store.activeProxy? id' round' caller.user with
      | none => exact Store.activeProxy?_eq_none_iff.1 found proxy proxy_mem own
      | some old =>
        obtain ⟨old_mem, old_user⟩ := Store.activeProxy?_eq_some found
        have same := kept.single id' round' proxy proxy_mem old old_mem (own.trans old_user.symm)
        exact different (same ▸ found)
  · rintro (⟨rfl, rfl, rfl⟩ | ⟨⟨mem, proxy_active, proxy_item, proxy_round⟩, elsewhere⟩)
    · exact ⟨.inl rfl, active, item_eq, round_eq⟩
    · refine ⟨.inr ⟨mem, ?_⟩, proxy_active, proxy_item, proxy_round⟩
      intro found
      obtain ⟨own_mem, own⟩ := Store.activeProxy?_eq_some found
      obtain ⟨-, -, own_item, own_round⟩ := Store.mem_activeProxies.1 own_mem
      exact elsewhere ⟨proxy_item.symm.trans own_item, proxy_round.symm.trans own_round, own⟩

/-- The caller's own ceiling is among the active ones once it is put. -/
theorem saved_mem_ceilingPut (kept : store.ProxiesKept) :
    (ceilingPut store caller id round ceiling).1 ∈
      (ceilingPut store caller id round ceiling).2.activeProxies id round := by
  rw [mem_activeProxies_ceilingPut kept]
  exact .inl ⟨rfl, rfl, rfl⟩

/-- Among the active ceilings of the round once one is put, there are the caller's and those of
others. -/
theorem cases_of_mem_ceilingPut (kept : store.ProxiesKept) {proxy : Proxy}
    (mem : proxy ∈ (ceilingPut store caller id round ceiling).2.activeProxies id round) :
    proxy.user = caller.user ∧ proxy.ceiling = ceiling.roundCents ∧
        proxy = (ceilingPut store caller id round ceiling).1 ∨
      proxy ∈ store.activeProxies id round ∧ proxy.user ≠ caller.user := by
  obtain ⟨saved_user, -, -, -, saved_ceiling⟩ := ceilingPut_saved store caller id round ceiling
  rcases (mem_activeProxies_ceilingPut kept).1 mem with ⟨rfl, -⟩ | ⟨old, elsewhere⟩
  · exact .inl ⟨saved_user, saved_ceiling, rfl⟩
  · exact .inr ⟨old, fun own => elsewhere ⟨rfl, rfl, own⟩⟩

/-- The active ceilings of others are the same before and after one is put. -/
theorem mem_ceilingPut_iff_of_ne (kept : store.ProxiesKept) {proxy : Proxy}
    (other : proxy.user ≠ caller.user) :
    proxy ∈ (ceilingPut store caller id round ceiling).2.activeProxies id round ↔
      proxy ∈ store.activeProxies id round := by
  constructor
  · intro mem
    rcases cases_of_mem_ceilingPut kept mem with ⟨own, -⟩ | ⟨old, -⟩
    · exact absurd own other
    · exact old
  · intro mem
    exact (mem_activeProxies_ceilingPut kept).2 (.inr ⟨mem, fun same => other same.2.2⟩)

theorem item?_ceilingPut (store : Store) (caller : Caller) (id : ItemId) (round : Round)
    (ceiling : Decimal) (id' : ItemId) :
    (ceilingPut store caller id round ceiling).2.item? id' = store.item? id' :=
  Store.item?_putProxy id'

theorem ledger_ceilingPut (store : Store) (caller : Caller) (id : ItemId) (round : Round)
    (ceiling : Decimal) : (ceilingPut store caller id round ceiling).2.ledger = store.ledger :=
  Store.ledger_putProxy

theorem numbered_ceilingPut (numbered : store.ProxiesNumbered) :
    (ceilingPut store caller id round ceiling).2.ProxiesNumbered := by
  unfold ceilingPut
  apply numbered.putProxy
  cases found : store.activeProxy? id round caller.user with
  | none => exact numbered.next_pos
  | some old =>
    have old_value := (Store.mem_activeProxies.1 (Store.activeProxy?_eq_some found).1).1
    have given := numbered.keyed.id_lt old_value
    exact given

/-- A positive ceiling in a round that there is keeps the proxies. -/
theorem proxiesKept_ceilingPut (kept : store.ProxiesKept) (filed : store.Filed id round)
    (pos : 0 < ceiling.roundCents.value) :
    (ceilingPut store caller id round ceiling).2.ProxiesKept := by
  obtain ⟨user_eq, item_eq, round_eq, active, ceiling_eq⟩ :=
    ceilingPut_saved store caller id round ceiling
  have filed_put {id' : ItemId} {round' : Round} (filed : store.Filed id' round') :
      (ceilingPut store caller id round ceiling).2.Filed id' round' :=
    filed.of_eq (item?_ceilingPut store caller id round ceiling)
  constructor
  · exact (numbered_ceilingPut kept.numbered).keyed
  · exact (numbered_ceilingPut kept.numbered).next_pos
  · intro proxy mem
    rcases (mem_values_ceilingPut kept).1 mem with rfl | ⟨old, -⟩
    · rw [item_eq, round_eq]
      exact filed_put filed
    · exact filed_put (kept.filed proxy old)
  · intro proxy mem
    rcases (mem_values_ceilingPut kept).1 mem with rfl | ⟨old, -⟩
    · rw [ceiling_eq]
      exact ⟨Decimal.isCents_roundCents _, pos⟩
    · exact kept.ceilings proxy old
  · intro id' round' p p_mem q q_mem same
    rcases (mem_activeProxies_ceilingPut kept).1 p_mem with ⟨rfl, rfl, rfl⟩ | ⟨p_old, p_else⟩ <;>
      rcases (mem_activeProxies_ceilingPut kept).1 q_mem with ⟨rfl, hid, hround⟩ | ⟨q_old, q_else⟩
    · rfl
    · exact absurd ⟨rfl, rfl, same.symm.trans user_eq⟩ q_else
    · exact absurd ⟨hid, hround, same.trans user_eq⟩ p_else
    · exact kept.single id' round' p p_old q q_old same

end CeilingPut

section Removal

variable {store : Store} {caller : Caller} {id : ItemId} {round : Round} {old proxy : Proxy}

theorem mem_values_removal (kept : store.ProxiesKept) (old_value : old ∈ store.proxies.values) :
    proxy ∈ (store.putProxy (withdrawn caller old)).2.proxies.values ↔
      proxy = withdrawn caller old ∨ proxy ∈ store.proxies.values ∧ proxy ≠ old := by
  have same : (withdrawn caller old).id = old.id := rfl
  exact Store.mem_values_putProxy_old kept.keyed old_value same

/-- Without a ceiling, the caller has no active proxy in the round, and nothing else is
different. -/
theorem mem_activeProxies_removal (kept : store.ProxiesKept)
    (found : store.activeProxy? id round caller.user = some old) {id' : ItemId} {round' : Round} :
    proxy ∈ (store.putProxy (withdrawn caller old)).2.activeProxies id' round' ↔
      proxy ∈ store.activeProxies id' round' ∧
        ¬ (id' = id ∧ round' = round ∧ proxy.user = caller.user) := by
  obtain ⟨old_mem, old_user⟩ := Store.activeProxy?_eq_some found
  obtain ⟨old_value, -, old_item, old_round⟩ := Store.mem_activeProxies.1 old_mem
  rw [Store.mem_activeProxies, mem_values_removal kept old_value, Store.mem_activeProxies]
  constructor
  · rintro ⟨rfl | ⟨mem, different⟩, active, item_eq, round_eq⟩
    · cases active
    · refine ⟨⟨mem, active, item_eq, round_eq⟩, ?_⟩
      rintro ⟨rfl, rfl, own⟩
      have proxy_mem := Store.mem_activeProxies.2 ⟨mem, active, item_eq, round_eq⟩
      exact different (kept.single _ _ proxy proxy_mem old old_mem (own.trans old_user.symm))
  · rintro ⟨⟨mem, active, item_eq, round_eq⟩, elsewhere⟩
    refine ⟨.inr ⟨mem, ?_⟩, active, item_eq, round_eq⟩
    rintro rfl
    exact elsewhere ⟨item_eq.symm.trans old_item, round_eq.symm.trans old_round, old_user⟩

theorem numbered_removal (numbered : store.ProxiesNumbered)
    (found : store.activeProxy? id round caller.user = some old) :
    (store.putProxy (withdrawn caller old)).2.ProxiesNumbered := by
  obtain ⟨old_mem, -⟩ := Store.activeProxy?_eq_some found
  have given := numbered.keyed.id_lt (Store.mem_activeProxies.1 old_mem).1
  exact numbered.putProxy given

theorem proxiesKept_removal (kept : store.ProxiesKept)
    (found : store.activeProxy? id round caller.user = some old) :
    (store.putProxy (withdrawn caller old)).2.ProxiesKept := by
  obtain ⟨old_mem, -⟩ := Store.activeProxy?_eq_some found
  have old_value := (Store.mem_activeProxies.1 old_mem).1
  constructor
  · exact (numbered_removal kept.numbered found).keyed
  · exact (numbered_removal kept.numbered found).next_pos
  · intro proxy mem
    rcases (mem_values_removal kept old_value).1 mem with rfl | ⟨mem, -⟩
    · exact (kept.filed old old_value).of_eq Store.item?_putProxy
    · exact (kept.filed proxy mem).of_eq Store.item?_putProxy
  · intro proxy mem
    rcases (mem_values_removal kept old_value).1 mem with rfl | ⟨mem, -⟩
    · exact kept.ceilings old old_value
    · exact kept.ceilings proxy mem
  · intro id' round' p p_mem q q_mem same
    have p_old := ((mem_activeProxies_removal kept found).1 p_mem).1
    have q_old := ((mem_activeProxies_removal kept found).1 q_mem).1
    exact kept.single id' round' p p_old q q_old same

end Removal

/-- What every run keeps of the store.  A house without automatic bidding has no proxies. -/
structure Kept (house : House) (store : Store) : Prop where
  items : store.ItemsKept
  ledger : store.LedgerKept
  proxies : store.ProxiesKept
  disabled : house.config.autobidEnabled = false → store.proxies.values = []

section Step

variable {house : House} {store : Store}

theorem kept_empty (house : House) : house.Kept {} where
  items id item found := by cases found
  ledger :=
    { filed := fun bid mem => by cases mem
      ids := List.Pairwise.nil
      ids_lt := fun bid mem => by cases mem
      offers := fun bid mem => by cases mem
      amounts := fun bid mem => by cases mem }
  proxies :=
    { keyed := fun id proxy found => by cases found
      next_pos := Nat.one_pos
      filed := fun proxy mem => by cases mem
      ceilings := fun proxy mem => by cases mem
      single := fun item round p mem => by cases mem }
  disabled _ := rfl

/-- A change of some item that leaves its number and its terms and does not take its round back
keeps all. -/
theorem Kept.modify (kept : house.Kept store) (id : ItemId) (change : Item → Item)
    (sound : ∀ item, store.item? id = some item → (change item).id = item.id ∧
      (change item).problems = item.problems ∧ item.round ≤ (change item).round) :
    house.Kept { store with items := store.items.modify id change } := by
  have item?_eq (id' : ItemId) := store.item?_modify id id' change
  have filed (id' : ItemId) (round : Round) (filed : store.Filed id' round) :
      ({ store with items := store.items.modify id change } : Store).Filed id' round := by
    obtain ⟨item, listed, round_le⟩ := filed
    by_cases equal : id' = id
    · subst equal
      refine ⟨change item, ?_, UInt32.le_trans round_le (sound item listed).2.2⟩
      rw [item?_eq, if_pos rfl, listed]
      rfl
    · refine ⟨item, ?_, round_le⟩
      rw [item?_eq, if_neg equal]
      exact listed
  refine ⟨?_, kept.ledger.of_eq rfl rfl filed, kept.proxies.of_eq rfl rfl filed, kept.disabled⟩
  intro id' item' found
  rw [item?_eq] at found
  by_cases equal : id' = id
  · rw [if_pos equal] at found
    obtain ⟨item, listed, rfl⟩ := Option.map_eq_some_iff.1 found
    obtain ⟨id_eq, problems_eq, -⟩ := sound item listed
    obtain ⟨own, none_found⟩ := kept.items id item listed
    exact ⟨id_eq.trans (own.trans equal.symm), problems_eq.trans none_found⟩
  · rw [if_neg equal] at found
    exact kept.items id' item' found

theorem Kept.append (kept : house.Kept store) {bids : List NewBid}
    (sound : store.SoundBatch bids) : house.Kept (store.append bids).2 := by
  refine ⟨?_, kept.ledger.append sound, ?_, ?_⟩
  · intro id item found
    rw [Store.item?_append] at found
    exact kept.items id item found
  · apply kept.proxies.of_eq
    · rw [Store.append_eq]
    · rw [Store.append_eq]
    · intro id round filed
      exact filed.of_eq (Store.item?_append store bids)
  · rw [Store.append_eq]
    exact kept.disabled

/-- A ceiling that is taken keeps all. -/
theorem Kept.ceilingPut (kept : house.Kept store) {caller : Caller} {id : ItemId} {round : Round}
    {ceiling : Decimal} {item : Item}
    (taken : CeilingTaken house store caller id round ceiling item) :
    house.Kept (ceilingPut store caller id round ceiling).2 := by
  obtain ⟨-, listed, current, valid⟩ := taken
  obtain ⟨enabled, -, -, pos, -⟩ := Validation.ceilingViolations_eq_nil_iff.1 valid
  rw [Decimal.lt_iff_value_lt, Decimal.value_zero] at pos
  have filed : store.Filed id round := ⟨item, listed, UInt32.le_of_eq current.symm⟩
  have item?_eq := item?_ceilingPut store caller id round ceiling
  refine ⟨?_, ?_, proxiesKept_ceilingPut kept.proxies filed pos, ?_⟩
  · intro id' item' found
    rw [item?_eq] at found
    exact kept.items id' item' found
  · exact kept.ledger.of_eq Store.ledger_putProxy Store.nextBidId_putProxy
      (fun id round filed => filed.of_eq item?_eq)
  · rw [enabled]
    intro impossible
    cases impossible

/-- A bid by hand and its answer may be written. -/
theorem soundBatch_bid {caller : Caller} {id : ItemId} {round : Round} {amount : Decimal}
    {kind : BidKind} {item : Item} {counter : Option NewBid}
    (taken : BidTaken house store caller id round amount kind item counter) :
    store.SoundBatch (byHand caller id round amount kind :: counter.toList) := by
  have filed : store.Filed id round := ⟨item, taken.listed, UInt32.le_of_eq taken.current.symm⟩
  intro bid mem
  rcases List.mem_cons.1 mem with rfl | answer
  · exact ⟨filed, nofun, .inl (Decimal.isCents_roundCents _)⟩
  · rw [Option.mem_toList] at answer
    have answered := taken.answered
    rw [answer] at answered
    obtain ⟨rival, -, amount, computed, rfl⟩ := answerTo_eq_some answered
    obtain ⟨-, sum, -, rfl⟩ := Settlement.counterAmount_eq_some_iff.1 computed
    exact ⟨filed, nofun, .inl (Decimal.isCents_roundCents _)⟩

/-- A purchase may be written. -/
theorem soundBatch_purchase {caller : Caller} {id : ItemId} {item : Item}
    (taken : PurchaseTaken house store caller id item) :
    store.SoundBatch [purchase caller id item] := by
  intro bid mem
  rw [List.mem_singleton.1 mem]
  exact ⟨⟨item, taken.listed, UInt32.le_refl _⟩, nofun, .inl (Decimal.isCents_roundCents _)⟩

/-- The bids that follow from a ceiling may be written. -/
theorem soundBatch_ceiling (kept : house.Kept store) {caller : Caller} {id : ItemId}
    {round : Round} {ceiling : Decimal} {item : Item} {bids : List NewBid}
    (taken : CeilingTaken house store caller id round ceiling item)
    (answered : house.ceilingAnswer store caller id round ceiling item = .ok bids) :
    (House.ceilingPut store caller id round ceiling).2.SoundBatch bids := by
  have kept_put := kept.ceilingPut taken
  obtain ⟨-, listed, current, valid⟩ := taken
  obtain ⟨own, sound⟩ := kept.items id item listed
  obtain ⟨-, -, -, -, above⟩ := Validation.ceilingViolations_eq_nil_iff.1 valid
  have filed : (House.ceilingPut store caller id round ceiling).2.Filed item.id round :=
    ⟨item, by rw [own, item?_ceilingPut, listed], UInt32.le_of_eq current.symm⟩
  unfold ceilingAnswer at answered
  rcases ceilingBids_cases house.config.proxyOrdering item round caller ceiling.roundCents
    (store.standing item round)
    ((House.ceilingPut store caller id round ceiling).2.activeProxies id round) with
    ⟨rival, strongest, able, eq⟩ | ⟨-, -, eq⟩ | ⟨-, -, eq⟩
  · obtain ⟨settlement, settled, floored⟩ := bind_eq_ok_iff.1 (eq.symm.trans answered)
    cases floored
    have wholeRival :=
      (kept_put.proxies.ceilings rival (Store.mem_activeProxies.1 strongest.mem).1).1
    have price_lt := Settlement.lt_leading_reconcile (Decimal.isCents_roundCents _) wholeRival
      (Item.bidStep_pos sound).le settled above able
    intro bid mem
    obtain ⟨side, rfl⟩ := Settlement.mem_bids.1 mem
    refine ⟨filed, nofun, ?_⟩
    rcases Settlement.isCents_or_lt_flooredAt settled price_lt side with whole | less
    · exact .inl whole
    · exact .inr ⟨_, Settlement.mem_bids.2 ⟨settlement.leader, rfl⟩, rfl, rfl, less⟩
  · rw [eq] at answered
    cases answered
    intro bid mem
    cases mem
  · obtain ⟨opening, computed, opened⟩ := bind_eq_ok_iff.1 (eq.symm.trans answered)
    cases opened
    obtain ⟨sum, -, rfl⟩ := Settlement.openingAmount_eq_ok_iff.1 computed
    intro bid mem
    rw [List.mem_singleton.1 mem]
    exact ⟨filed, nofun, .inl (Decimal.isCents_roundCents _)⟩

/-- A purchase keeps all. -/
theorem Kept.sold (kept : house.Kept store) {caller : Caller} {id : ItemId} {item : Item}
    (taken : PurchaseTaken house store caller id item) :
    house.Kept (sold store (purchase caller id item)) := by
  have written := (kept.append (soundBatch_purchase taken)).modify id
    (fun item => { item with workflow := .finished }) (fun item _ => ⟨rfl, rfl, UInt32.le_refl _⟩)
  unfold House.sold
  rw [Store.append_eq] at written ⊢
  exact written

/-- A ceiling that is taken back by its user keeps all. -/
theorem Kept.removal (kept : house.Kept store) {caller : Caller} {id : ItemId} {round : Round}
    {proxy : Proxy} (found : store.activeProxy? id round caller.user = some proxy) :
    house.Kept (store.putProxy (withdrawn caller proxy)).2 := by
  refine ⟨?_, ?_, proxiesKept_removal kept.proxies found, ?_⟩
  · intro id' item' found'
    rw [Store.item?_putProxy] at found'
    exact kept.items id' item' found'
  · exact kept.ledger.of_eq Store.ledger_putProxy Store.nextBidId_putProxy
      (fun id round filed => filed.of_eq Store.item?_putProxy)
  · intro off
    have mem := (Store.mem_activeProxies.1 (Store.activeProxy?_eq_some found).1).1
    rw [kept.disabled off] at mem
    cases mem

/-- Every call keeps all. -/
theorem Kept.served (kept : house.Kept store) {caller : Caller} {call : Call}
    {answer : Except Stop Outcome} {after : Store}
    (served : Served house store caller call answer after) : house.Kept after := by
  cases served with
  | stopped => exact kept
  | bid taken => exact kept.append (soundBatch_bid taken)
  | purchase taken => exact kept.sold taken
  | ceiling taken answered =>
    exact (kept.ceilingPut taken).append (soundBatch_ceiling kept taken answered)
  | ceilingFault taken answered => exact kept.ceilingPut taken
  | noRemoval listed current found => exact kept
  | removal listed current found => exact kept.removal found

/-- Every event keeps all. -/
theorem Kept.step (kept : house.Kept store) (event : Event) :
    house.Kept (house.step store event) := by
  have changed := change house store event
  generalize house.step store event = after at changed ⊢
  cases changed with
  | call served => exact kept.served served
  | @relist id item round listed opened =>
    apply kept.modify
    intro item' listed'
    rw [listed, Option.some.injEq] at listed'
    subst listed'
    exact ⟨rfl, rfl, UInt32.le_of_lt (Round.lt_of_next opened)⟩
  | setWorkflow listed =>
    apply kept.modify
    intro item listed
    exact ⟨rfl, rfl, UInt32.le_refl _⟩
  | @register item valid fresh =>
    have item?_eq (id : ItemId) := store.item?_insertItem item id
    have filed (id : ItemId) (round : Round) (filed : store.Filed id round) :
        (store.insertItem item).Filed id round := by
      obtain ⟨old, listed, round_le⟩ := filed
      refine ⟨old, ?_, round_le⟩
      rw [item?_eq, if_neg, listed]
      rintro rfl
      rw [fresh] at listed
      cases listed
    refine ⟨?_, kept.ledger.of_eq rfl rfl filed, kept.proxies.of_eq rfl rfl filed, kept.disabled⟩
    intro id found_item found
    rw [item?_eq] at found
    by_cases equal : id = item.id
    · rw [if_pos equal, Option.some.injEq] at found
      subst found
      exact ⟨equal.symm, valid⟩
    · rw [if_neg equal] at found
      exact kept.items id found_item found
  | nothing => exact kept

/-- Every run keeps all. -/
theorem kept_run (house : House) (events : List Event) : house.Kept (house.run events) :=
  runFrom_induction (kept_empty house) (fun _ event kept => kept.step event) events

end Step

end House

end AuctionHouse
