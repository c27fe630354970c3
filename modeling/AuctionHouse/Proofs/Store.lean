import AuctionHouse.Store

/-!
# What each write does to the store

For every write there is one lemma for each thing that is read off the store: the items, the bids of
a round and the active proxies of a round.  A batch of bids is written under consecutive numbers
(`append_eq`), and a proxy is put beside the others or in the place of the one of its number
(`mem_values_putProxy_new`, `mem_values_putProxy_old`).
-/

namespace AuctionHouse

namespace Table

variable {α : Type} {table : Table α} {key : Nat} {value : α}

theorem lookup_of_mem {entries : List (Nat × α)} (sorted : entries.Pairwise fun a b => a.1 < b.1)
    (mem : (key, value) ∈ entries) : entries.lookup key = some value := by
  induction entries with
  | nil => cases mem
  | cons head rest ih =>
    rw [List.pairwise_cons] at sorted
    rw [lookup_cons_ite]
    rcases List.mem_cons.1 mem with rfl | later
    · rw [if_pos rfl]
    · have before := sorted.1 _ later
      rw [if_neg (Nat.ne_of_gt before)]
      exact ih sorted.2 later

theorem mem_of_lookup {entries : List (Nat × α)} (found : entries.lookup key = some value) :
    (key, value) ∈ entries := by
  induction entries with
  | nil => cases found
  | cons head rest ih =>
    rw [lookup_cons_ite] at found
    by_cases equal : key = head.1
    · rw [if_pos equal, Option.some.injEq] at found
      rw [equal, ← found]
      exact List.mem_cons_self
    · rw [if_neg equal] at found
      exact List.mem_cons_of_mem _ (ih found)

/-- The values are what the keys have. -/
theorem mem_values : value ∈ table.values ↔ ∃ key, table.get? key = some value := by
  rw [values, List.mem_map]
  constructor
  · rintro ⟨entry, mem, rfl⟩
    exact ⟨entry.1, lookup_of_mem table.sorted mem⟩
  · rintro ⟨key, found⟩
    exact ⟨(key, value), mem_of_lookup found, rfl⟩

theorem mem_entries : (key, value) ∈ table.entries ↔ table.get? key = some value :=
  ⟨lookup_of_mem table.sorted, mem_of_lookup⟩

theorem nodup_entries (table : Table α) : table.entries.Nodup := by
  refine table.sorted.imp ?_
  rintro a b before rfl
  exact Nat.lt_irrefl _ before

/-- Tables with the same values under all keys are equal. -/
theorem eq_of_get? {other : Table α} (same : ∀ key, table.get? key = other.get? key) :
    table = other := by
  have perm : table.entries.Perm other.entries := by
    rw [List.perm_ext_iff_of_nodup table.nodup_entries other.nodup_entries]
    rintro ⟨key, value⟩
    rw [mem_entries, mem_entries, same]
  have entries_eq : table.entries = other.entries :=
    perm.eq_of_pairwise (fun a b _ _ before after => absurd (Nat.lt_trans before after)
      (Nat.lt_irrefl _)) table.sorted other.sorted
  cases table
  cases other
  congr

/-- What is inserted under a new key can be erased again. -/
theorem erase_insert_of_get?_eq_none (fresh : table.get? key = none) :
    (table.insert key value).erase key = table := by
  apply eq_of_get?
  intro key'
  rw [get?_erase, get?_insert]
  by_cases equal : key' = key
  · rw [if_pos equal, equal, fresh]
  · rw [if_neg equal, if_neg equal]

/-- What is inserted in the place of a value can be replaced by it again. -/
theorem insert_insert_of_get?_eq_some {old : α} (found : table.get? key = some old) :
    (table.insert key value).insert key old = table := by
  apply eq_of_get?
  intro key'
  rw [get?_insert, get?_insert]
  by_cases equal : key' = key
  · rw [if_pos equal, equal, found]
  · rw [if_neg equal, if_neg equal]

/-- A key above all others comes last. -/
theorem place_of_forall_lt {entries : List (Nat × α)} (above : ∀ entry ∈ entries, entry.1 < key) :
    place key value entries = entries ++ [(key, value)] := by
  induction entries with
  | nil => rfl
  | cons head rest ih =>
    have before := above head List.mem_cons_self
    have rest_above (entry : Nat × α) (mem : entry ∈ rest) :=
      above entry (List.mem_cons_of_mem head mem)
    rw [place, if_neg (Nat.not_lt.2 (Nat.le_of_lt before)), if_neg (Nat.ne_of_gt before),
      ih rest_above, List.cons_append]

theorem values_insert_of_forall_lt
    (above : ∀ key' other, table.get? key' = some other → key' < key) :
    (table.insert key value).values = table.values ++ [value] := by
  have entries_eq : (table.insert key value).entries = table.entries ++ [(key, value)] :=
    place_of_forall_lt fun entry mem => above entry.1 entry.2 (mem_entries.1 mem)
  simp [values, entries_eq]

/-- To insert what becomes of a value in its place is to change it. -/
theorem insert_eq_modify {old : α} (found : table.get? key = some old) (change : α → α) :
    table.insert key (change old) = table.modify key change := by
  apply eq_of_get?
  intro key'
  rw [get?_insert, get?_modify, found]
  rfl

theorem values_modify (table : Table α) (key : Nat) (change : α → α) :
    (table.modify key change).values =
      table.entries.map fun entry => if entry.1 = key then change entry.2 else entry.2 := by
  unfold values modify
  rw [List.map_map]
  apply List.map_congr_left
  intro entry mem
  simp only [Function.comp_apply]
  split <;> rfl

end Table

namespace Store

/-- Bids under consecutive numbers. -/
def numbered (first : BidId) : List NewBid → List Bid
  | [] => []
  | bid :: rest => { bid with id := first } :: numbered (first + 1) rest

theorem mem_numbered {first : BidId} {bids : List NewBid} {bid : Bid}
    (mem : bid ∈ numbered first bids) : bid.toNewBid ∈ bids ∧ first ≤ bid.id := by
  induction bids generalizing first with
  | nil => cases mem
  | cons head rest ih =>
    rcases List.mem_cons.1 mem with rfl | later
    · exact ⟨List.mem_cons_self, Nat.le_refl _⟩
    · obtain ⟨mem_rest, first_le⟩ := ih later
      exact ⟨List.mem_cons_of_mem _ mem_rest, Nat.le_of_succ_le first_le⟩

theorem numbered_append (first : BidId) (bids later : List NewBid) :
    numbered first (bids ++ later) =
      numbered first bids ++ numbered (first + bids.length) later := by
  induction bids generalizing first with
  | nil => rfl
  | cons bid rest ih =>
    simp only [List.cons_append, numbered, ih, List.length_cons, Nat.add_assoc, Nat.add_comm 1]

theorem exists_numbered_of_mem {first : BidId} {bids : List NewBid} {bid : NewBid}
    (mem : bid ∈ bids) : ∃ written ∈ numbered first bids, written.toNewBid = bid := by
  induction bids generalizing first with
  | nil => cases mem
  | cons head rest ih =>
    rcases List.mem_cons.1 mem with rfl | later
    · exact ⟨_, List.mem_cons_self, rfl⟩
    · obtain ⟨written, mem_rest, same⟩ := ih later
      exact ⟨written, List.mem_cons_of_mem _ mem_rest, same⟩

theorem numbered_id_lt {first : BidId} {bids : List NewBid} {bid : Bid}
    (mem : bid ∈ numbered first bids) : bid.id < first + bids.length := by
  induction bids generalizing first with
  | nil => cases mem
  | cons head rest ih =>
    rw [List.length_cons]
    rcases List.mem_cons.1 mem with rfl | later
    · exact Nat.lt_add_of_pos_right (Nat.succ_pos _)
    · have := ih later
      grind

theorem pairwise_numbered (first : BidId) (bids : List NewBid) :
    (numbered first bids).Pairwise fun a b => a.id < b.id := by
  induction bids generalizing first with
  | nil => exact List.Pairwise.nil
  | cons head rest ih =>
    refine List.pairwise_cons.2 ⟨?_, ih (first + 1)⟩
    intro later mem
    exact Nat.lt_of_succ_le (mem_numbered mem).2

/-- The next round of an item is opened if there is the item and it has a next round. -/
theorem relist_eq_ok_iff {store next : Store} {id : ItemId} {round : Round} :
    store.relist id = .ok (round, next) ↔
      ∃ item, store.item? id = some item ∧ item.round.next = .ok round ∧
        next = { store with items := store.items.modify id fun _ => item.reopened round } := by
  unfold relist
  cases listed : store.item? id with
  | none => simp
  | some item =>
    cases opened : item.round.next with
    | ok later =>
      simp only [opened, Except.ok.injEq, Prod.mk.injEq, Option.some.injEq]
      grind
    | error fault => simp [opened]

/-- No round is opened for an item that there is not, or that is in the last one. -/
theorem relist_eq_error_iff {store : Store} {id : ItemId} {stop : Stop} :
    store.relist id = .error stop ↔
      store.item? id = none ∧ stop = .ofStorage (.unknownItem id) ∨
        ∃ item, store.item? id = some item ∧ item.round = .last ∧
          stop = .faulted .roundTooLarge := by
  unfold relist
  cases listed : store.item? id with
  | none => simp [eq_comm]
  | some item =>
    cases opened : item.round.next with
    | ok later =>
      have before_last := Round.ne_last_of_next opened
      simp [opened, before_last]
    | error fault =>
      obtain ⟨at_last, rfl⟩ := Round.next_eq_error_iff.1 opened
      simp only [opened]
      simp [at_last, eq_comm]

section Listed

variable {store : Store} {id : ItemId} {item : Item} (listed : store.item? id = some item)

include listed

/-- A round that is opened for an item is its next one. -/
theorem opened_of_listed {next : Store} {round : Round}
    (relisted : store.relist id = .ok (round, next)) :
    item.round.next = .ok round ∧
      next = { store with items := store.items.modify id fun _ => item.reopened round } := by
  obtain ⟨found, found_listed, opened, next_eq⟩ := relist_eq_ok_iff.1 relisted
  obtain rfl : found = item := Option.some.inj (found_listed.symm.trans listed)
  exact ⟨opened, next_eq⟩

/-- An item for which no round is opened is in the last one. -/
theorem last_of_listed {stop : Stop} (failed : store.relist id = .error stop) :
    item.round = .last ∧ stop = .faulted .roundTooLarge := by
  rcases relist_eq_error_iff.1 failed with ⟨missing, -⟩ | ⟨found, found_listed, last⟩
  · rw [missing] at listed
    cases listed
  · obtain rfl : found = item := Option.some.inj (found_listed.symm.trans listed)
    exact last

end Listed

variable (store : Store)

/-- The items after a change of one. -/
theorem item?_modify (id id' : ItemId) (change : Item → Item) :
    ({ store with items := store.items.modify id change } : Store).item? id' =
      if id' = id then (store.item? id).map change else store.item? id' :=
  Table.get?_modify store.items id id' change

theorem item?_insertItem (item : Item) (id : ItemId) : (store.insertItem item).item? id =
    if id = item.id then some item else store.item? id :=
  Table.get?_insert store.items item.id id item

/-- A batch is written at the end of the ledger, under the next numbers. -/
theorem append_eq (bids : List NewBid) : store.append bids =
    (numbered store.nextBidId bids,
      { store with
        ledger := store.ledger ++ numbered store.nextBidId bids
        nextBidId := store.nextBidId + bids.length }) := by
  induction bids generalizing store with
  | nil => simp only [append, numbered, List.append_nil, List.length_nil, Nat.add_zero]
  | cons bid rest ih =>
    simp only [append, ih, write, numbered, List.append_assoc, List.singleton_append,
      List.length_cons, Nat.add_assoc, Nat.add_comm 1]

@[simp] theorem append_nil : store.append [] = ([], store) := rfl

/-- What a batch writes. -/
@[simp] theorem ledger_append (bids : List NewBid) :
    (store.append bids).2.ledger = store.ledger ++ (store.append bids).1 := by
  rw [append_eq]

@[simp] theorem nextBidId_append (bids : List NewBid) :
    (store.append bids).2.nextBidId = store.nextBidId + bids.length := by
  rw [append_eq]

@[simp] theorem nextProxyId_append (bids : List NewBid) :
    (store.append bids).2.nextProxyId = store.nextProxyId := by
  rw [append_eq]

@[simp] theorem proxies_append (bids : List NewBid) :
    (store.append bids).2.proxies = store.proxies := by
  rw [append_eq]

@[simp] theorem item?_append (bids : List NewBid) (id : ItemId) :
    (store.append bids).2.item? id = store.item? id := by
  rw [append_eq]
  rfl

@[simp] theorem activeProxies_append (bids : List NewBid) (item : ItemId) (round : Round) :
    (store.append bids).2.activeProxies item round = store.activeProxies item round := by
  rw [append_eq]
  rfl

theorem mem_bidsFor {item : ItemId} {round : Round} {bid : Bid} :
    bid ∈ store.bidsFor item round ↔ bid ∈ store.ledger ∧ bid.item = item ∧ bid.round = round := by
  rw [bidsFor, List.mem_filter, Bool.and_eq_true, decide_eq_true_eq, decide_eq_true_eq]

theorem bidsFor_append (bids : List NewBid) (item : ItemId) (round : Round) :
    (store.append bids).2.bidsFor item round = store.bidsFor item round ++
      (store.append bids).1.filter fun bid => bid.item = item && bid.round = round := by
  rw [bidsFor, ledger_append, List.filter_append]
  rfl

/-- The bids of a round after a batch that is all in the round. -/
theorem bidsFor_append_of_forall {bids : List NewBid} {item : ItemId} {round : Round}
    (here : ∀ bid ∈ bids, bid.item = item ∧ bid.round = round) :
    (store.append bids).2.bidsFor item round =
      store.bidsFor item round ++ (store.append bids).1 := by
  rw [bidsFor_append, List.filter_eq_self.2]
  intro bid mem
  rw [append_eq] at mem
  obtain ⟨in_item, in_round⟩ := here _ (mem_numbered mem).1
  rw [Bool.and_eq_true, decide_eq_true_eq, decide_eq_true_eq]
  exact ⟨in_item, in_round⟩

variable {store} {item : ItemId} {round : Round} {proxy : Proxy}

/-- The proxies of a round, active or not. -/
def proxiesFor (store : Store) (item : ItemId) (round : Round) : List Proxy :=
  store.proxies.values.filter fun proxy => proxy.item = item && proxy.round = round

/-- The active proxies of a round are among its proxies. -/
theorem activeProxies_eq_proxiesFor (store : Store) (item : ItemId) (round : Round) :
    store.activeProxies item round = (store.proxiesFor item round).filter (·.active) := by
  unfold activeProxies proxiesFor
  rw [List.filter_filter]
  congr 1
  funext proxy
  rw [Bool.and_assoc]

theorem mem_activeProxies : proxy ∈ store.activeProxies item round ↔
    proxy ∈ store.proxies.values ∧ proxy.active = true ∧ proxy.item = item ∧
      proxy.round = round := by
  rw [activeProxies, List.mem_filter, Bool.and_eq_true, Bool.and_eq_true, decide_eq_true_eq,
    decide_eq_true_eq, and_assoc]

theorem activeProxy?_eq_some {user : UserId}
    (found : store.activeProxy? item round user = some proxy) :
    proxy ∈ store.activeProxies item round ∧ proxy.user = user := by
  refine ⟨List.mem_of_find?_eq_some found, ?_⟩
  have holds := List.find?_some found
  exact of_decide_eq_true holds

theorem activeProxy?_eq_none_iff {user : UserId} : store.activeProxy? item round user = none ↔
    ∀ proxy ∈ store.activeProxies item round, proxy.user ≠ user := by
  rw [activeProxy?, List.find?_eq_none]
  simp only [decide_eq_true_eq, ne_eq]

/-- Whether every proxy is kept under its own number, which has been given out. -/
def ProxiesKeyed (store : Store) : Prop :=
  ∀ id proxy, store.proxies.get? id = some proxy →
    proxy.id = id ∧ 0 < id ∧ id < store.nextProxyId

theorem ProxiesKeyed.eq_of_id_eq (keyed : store.ProxiesKeyed) {p q : Proxy}
    (p_mem : p ∈ store.proxies.values) (q_mem : q ∈ store.proxies.values) (same : p.id = q.id) :
    p = q := by
  obtain ⟨pid, p_found⟩ := Table.mem_values.1 p_mem
  obtain ⟨qid, q_found⟩ := Table.mem_values.1 q_mem
  rw [← (keyed pid p p_found).1, same, (keyed qid q q_found).1, q_found] at p_found
  exact (Option.some.inj p_found).symm

theorem ProxiesKeyed.id_pos (keyed : store.ProxiesKeyed) (mem : proxy ∈ store.proxies.values) :
    0 < proxy.id := by
  obtain ⟨id, found⟩ := Table.mem_values.1 mem
  rw [(keyed id proxy found).1]
  exact (keyed id proxy found).2.1

theorem ProxiesKeyed.id_lt (keyed : store.ProxiesKeyed) (mem : proxy ∈ store.proxies.values) :
    proxy.id < store.nextProxyId := by
  obtain ⟨id, found⟩ := Table.mem_values.1 mem
  rw [(keyed id proxy found).1]
  exact (keyed id proxy found).2.2

theorem ProxiesKeyed.get?_eq_some (keyed : store.ProxiesKeyed)
    (mem : proxy ∈ store.proxies.values) : store.proxies.get? proxy.id = some proxy := by
  obtain ⟨id, found⟩ := Table.mem_values.1 mem
  rw [(keyed id proxy found).1]
  exact found

theorem putProxy_new (zero : proxy.id = 0) : store.putProxy proxy =
    ({ proxy with id := store.nextProxyId },
      { store with
        proxies := store.proxies.insert store.nextProxyId { proxy with id := store.nextProxyId }
        nextProxyId := store.nextProxyId + 1 }) := by
  rw [putProxy, if_pos zero]

theorem putProxy_old (pos : 0 < proxy.id) : store.putProxy proxy =
    (proxy, { store with proxies := store.proxies.insert proxy.id proxy }) := by
  rw [putProxy, if_neg (Nat.ne_of_gt pos)]

theorem ledger_putProxy : (store.putProxy proxy).2.ledger = store.ledger := by
  unfold putProxy
  split <;> rfl

theorem items_putProxy : (store.putProxy proxy).2.items = store.items := by
  unfold putProxy
  split <;> rfl

theorem proxies_putProxy (store : Store) (proxy : Proxy) :
    (store.putProxy proxy).2.proxies =
      store.proxies.insert (store.putProxy proxy).1.id (store.putProxy proxy).1 := by
  unfold putProxy
  split <;> rfl

theorem item?_putProxy (id : ItemId) : (store.putProxy proxy).2.item? id = store.item? id := by
  rw [item?, items_putProxy, item?]

theorem nextBidId_putProxy : (store.putProxy proxy).2.nextBidId = store.nextBidId := by
  unfold putProxy
  split <;> rfl

theorem nextProxyId_le_putProxy : store.nextProxyId ≤ (store.putProxy proxy).2.nextProxyId := by
  unfold putProxy
  split
  · exact Nat.le_succ _
  · exact Nat.le_refl _

theorem bidsFor_putProxy (item : ItemId) (round : Round) :
    (store.putProxy proxy).2.bidsFor item round = store.bidsFor item round := by
  rw [bidsFor, ledger_putProxy, bidsFor]

/-- The proxy that is put differs in its number only. -/
theorem putProxy_fst (store : Store) (proxy : Proxy) :
    ∃ number, (store.putProxy proxy).1 = { proxy with id := number } := by
  unfold putProxy
  split
  · exact ⟨_, rfl⟩
  · exact ⟨proxy.id, rfl⟩

/-- The proxy that is put stands under its number. -/
theorem get?_putProxy_self (store : Store) (proxy : Proxy) :
    (store.putProxy proxy).2.proxies.get? (store.putProxy proxy).1.id =
      some (store.putProxy proxy).1 := by
  unfold putProxy
  split <;> exact (Table.get?_insert _ _ _ _).trans (if_pos rfl)

/-- A proxy without a number comes after those that are there. -/
theorem values_putProxy_new (keyed : store.ProxiesKeyed) (zero : proxy.id = 0) :
    (store.putProxy proxy).2.proxies.values =
      store.proxies.values ++ [(store.putProxy proxy).1] := by
  rw [putProxy_new zero]
  exact Table.values_insert_of_forall_lt fun key other found => (keyed key other found).2.2

/-- A proxy stands where the one of its number stood. -/
theorem values_putProxy_old (keyed : store.ProxiesKeyed) {old : Proxy}
    (old_mem : old ∈ store.proxies.values) (same : proxy.id = old.id) :
    (store.putProxy proxy).2.proxies.values =
      store.proxies.values.map fun other => if other.id = proxy.id then proxy else other := by
  have pos : 0 < proxy.id := same ▸ keyed.id_pos old_mem
  have found : store.proxies.get? proxy.id = some old := same ▸ keyed.get?_eq_some old_mem
  rw [putProxy_old pos, Table.insert_eq_modify found fun _ => proxy, Table.values_modify, Table.values,
    List.map_map]
  apply List.map_congr_left
  intro entry mem
  rw [Function.comp_apply, (keyed entry.1 entry.2 (Table.mem_entries.1 mem)).1]

theorem mem_values_putProxy_new (keyed : store.ProxiesKeyed) (zero : proxy.id = 0) {other : Proxy} :
    other ∈ (store.putProxy proxy).2.proxies.values ↔
      other = (store.putProxy proxy).1 ∨ other ∈ store.proxies.values := by
  rw [values_putProxy_new keyed zero, List.mem_append, List.mem_singleton, or_comm]

theorem mem_values_putProxy_old (keyed : store.ProxiesKeyed) {old other : Proxy}
    (old_mem : old ∈ store.proxies.values) (same : proxy.id = old.id) :
    other ∈ (store.putProxy proxy).2.proxies.values ↔
      other = proxy ∨ other ∈ store.proxies.values ∧ other ≠ old := by
  rw [values_putProxy_old keyed old_mem same, List.mem_map]
  constructor
  · rintro ⟨before, mem, rfl⟩
    split
    · exact .inl rfl
    · next different =>
      refine .inr ⟨mem, ?_⟩
      rintro rfl
      exact different same.symm
  · rintro (rfl | ⟨mem, different⟩)
    · exact ⟨old, old_mem, if_pos same.symm⟩
    · exact ⟨other, mem,
        if_neg fun equal => different (keyed.eq_of_id_eq mem old_mem (equal.trans same))⟩

/-- Of the proxies of a kind, one changes if a proxy of this kind takes its place. -/
theorem filter_putProxy_old (keyed : store.ProxiesKeyed) {old : Proxy}
    (old_mem : old ∈ store.proxies.values) (same : proxy.id = old.id) {kind : Proxy → Bool}
    (alike : kind proxy = kind old) :
    (store.putProxy proxy).2.proxies.values.filter kind =
      (store.proxies.values.filter kind).map fun other =>
        if other.id = proxy.id then proxy else other := by
  rw [values_putProxy_old keyed old_mem same, List.filter_map]
  congr 1
  apply List.filter_congr
  intro other mem
  rw [Function.comp_apply]
  split
  · next equal => rw [alike, keyed.eq_of_id_eq mem old_mem (equal.trans same)]
  · rfl

/-- The proxies of a kind are the same if a proxy of another kind takes the place of one. -/
theorem filter_putProxy_of_not (keyed : store.ProxiesKeyed) {old : Proxy}
    (old_mem : old ∈ store.proxies.values) (same : proxy.id = old.id) {kind : Proxy → Bool}
    (alike : kind proxy = kind old) (not_kind : kind old = false) :
    (store.putProxy proxy).2.proxies.values.filter kind = store.proxies.values.filter kind := by
  rw [filter_putProxy_old keyed old_mem same alike]
  refine (List.map_congr_left ?_).trans (List.map_id _)
  intro other mem
  obtain ⟨value, of_kind⟩ := List.mem_filter.1 mem
  rw [if_neg, id]
  intro equal
  rw [keyed.eq_of_id_eq value old_mem (equal.trans same), not_kind] at of_kind
  cases of_kind

/-- Putting a proxy that has no number or one that was given out keeps every proxy under its
own. -/
theorem ProxiesKeyed.putProxy (keyed : store.ProxiesKeyed) (known : proxy.id < store.nextProxyId) :
    (store.putProxy proxy).2.ProxiesKeyed := by
  intro id other found
  by_cases zero : proxy.id = 0
  · rw [putProxy_new zero] at found ⊢
    rw [Table.get?_insert] at found
    by_cases equal : id = store.nextProxyId
    · rw [if_pos equal, Option.some.injEq] at found
      refine ⟨by rw [← found, equal], ?_, ?_⟩
      · rw [equal]
        exact Nat.lt_of_le_of_lt (Nat.zero_le _) known
      · rw [equal]
        exact Nat.lt_succ_self _
    · rw [if_neg equal] at found
      obtain ⟨own, pos, given⟩ := keyed id other found
      exact ⟨own, pos, Nat.lt_succ_of_lt given⟩
  · have pos := Nat.pos_of_ne_zero zero
    rw [putProxy_old pos] at found ⊢
    rw [Table.get?_insert] at found
    by_cases equal : id = proxy.id
    · rw [if_pos equal, Option.some.injEq] at found
      subst equal
      rw [← found]
      exact ⟨rfl, pos, known⟩
    · rw [if_neg equal] at found
      exact keyed id other found

/-- Whether every proxy is kept under its own number, and the next number is a number. -/
structure ProxiesNumbered (store : Store) : Prop where
  keyed : store.ProxiesKeyed
  next_pos : 0 < store.nextProxyId

theorem ProxiesNumbered.of_eq {next : Store} (numbered : store.ProxiesNumbered)
    (proxies_eq : next.proxies = store.proxies) (next_eq : next.nextProxyId = store.nextProxyId) :
    next.ProxiesNumbered := by
  refine ⟨?_, next_eq ▸ numbered.next_pos⟩
  intro id proxy found
  rw [proxies_eq] at found
  rw [next_eq]
  exact numbered.keyed id proxy found

theorem ProxiesNumbered.putProxy (numbered : store.ProxiesNumbered)
    (known : proxy.id < store.nextProxyId) : (store.putProxy proxy).2.ProxiesNumbered :=
  ⟨numbered.keyed.putProxy known, Nat.lt_of_lt_of_le numbered.next_pos nextProxyId_le_putProxy⟩

theorem ProxiesNumbered.deleteProxy (numbered : store.ProxiesNumbered) (id : ProxyId) :
    (store.deleteProxy id).ProxiesNumbered := by
  refine ⟨?_, numbered.next_pos⟩
  intro id' other found
  rw [Store.deleteProxy, Table.get?_erase] at found
  by_cases equal : id' = id
  · rw [if_pos equal] at found
    cases found
  · rw [if_neg equal] at found
    exact numbered.keyed id' other found

theorem ProxiesNumbered.append (numbered : store.ProxiesNumbered) (bids : List NewBid) :
    (store.append bids).2.ProxiesNumbered := by
  rw [append_eq]
  exact numbered.of_eq rfl rfl

/-- A proxy that was put in the place of another one is replaced by that again. -/
theorem proxies_putProxy_putProxy (keyed : store.ProxiesKeyed) {old : Proxy}
    (mem : old ∈ store.proxies.values) (same : proxy.id = old.id) :
    ((store.putProxy proxy).2.putProxy old).2.proxies = store.proxies := by
  have old_pos := keyed.id_pos mem
  rw [@putProxy_old store proxy (same ▸ old_pos), putProxy_old old_pos, same]
  exact Table.insert_insert_of_get?_eq_some (keyed.get?_eq_some mem)

/-- A proxy that was put without a number is taken out again. -/
theorem proxies_deleteProxy_putProxy (keyed : store.ProxiesKeyed) (zero : proxy.id = 0) :
    ((store.putProxy proxy).2.deleteProxy (store.putProxy proxy).1.id).proxies =
      store.proxies := by
  have fresh : store.proxies.get? store.nextProxyId = none := by
    cases found : store.proxies.get? store.nextProxyId with
    | none => rfl
    | some other => exact absurd (keyed _ other found).2.2 (Nat.lt_irrefl _)
  rw [putProxy_new zero]
  exact Table.erase_insert_of_get?_eq_none fresh

end Store

end AuctionHouse
