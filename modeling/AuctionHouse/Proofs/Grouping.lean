import AuctionHouse.Proofs.Ranking
import AuctionHouse.Proofs.Store

/-!
# Bids by user

The bids of a round can be listed by user, and the users that have bid can be listed in the order of
their first bids.  The two are made by loops that know nothing of each other.  Both are described by
the bids of each user (`get?_byUser`, `mem_bidders`), so they agree with one another and with the
ledger, whatever batches it was written in (`bids_grouped`).
-/

namespace AuctionHouse

namespace Table

variable {α : Type} {table : Table α} {key : Nat} {value : α}

theorem mem_keys : key ∈ table.keys ↔ ∃ value, table.get? key = some value := by
  rw [keys, List.mem_map]
  constructor
  · rintro ⟨entry, mem, rfl⟩
    exact ⟨entry.2, mem_entries.1 mem⟩
  · rintro ⟨value, found⟩
    exact ⟨(key, value), mem_entries.2 found, rfl⟩

theorem nodup_keys (table : Table α) : table.keys.Nodup := by
  rw [keys, List.Nodup, List.pairwise_map]
  exact table.sorted.imp Nat.ne_of_lt

/-- The values are those under the keys. -/
theorem values_eq_map_keys {read : Nat → α}
    (found : ∀ key ∈ table.keys, table.get? key = some (read key)) :
    table.values = table.keys.map read := by
  rw [values, keys, List.map_map]
  apply List.map_congr_left
  intro entry mem
  have at_key := found entry.1 (List.mem_map_of_mem mem)
  rw [mem_entries.1 mem, Option.some.injEq] at at_key
  exact at_key

end Table

namespace Store

/-- The store after batches of bids. -/
def appendAll (store : Store) (batches : List (List NewBid)) : Store :=
  batches.foldl (fun store batch => (store.append batch).2) store

/-- Batches are written one behind the other. -/
theorem ledger_appendAll (store : Store) (batches : List (List NewBid)) :
    (store.appendAll batches).ledger =
      store.ledger ++ numbered store.nextBidId batches.flatten := by
  induction batches generalizing store with
  | nil => exact (List.append_nil _).symm
  | cons batch rest ih =>
    rw [appendAll, List.foldl_cons, ← appendAll, ih, nextBidId_append, ledger_append, append_eq,
      List.flatten_cons, numbered_append, List.append_assoc]

theorem map_toNewBid_numbered (first : BidId) (bids : List NewBid) :
    (numbered first bids).map (·.toNewBid) = bids := by
  induction bids generalizing first with
  | nil => rfl
  | cons bid rest ih => rw [numbered, List.map_cons, ih]

/-- A round has those bids of the batches that are bids of the round, in their order. -/
theorem bidsFor_appendAll (batches : List (List NewBid)) (item : ItemId) (round : Round) :
    ((appendAll {} batches).bidsFor item round).map (·.toNewBid) =
      batches.flatten.filter fun bid => bid.item = item && bid.round = round := by
  have ledger_eq := ledger_appendAll {} batches
  rw [List.nil_append] at ledger_eq
  conv_rhs => rw [← map_toNewBid_numbered 1 batches.flatten, List.filter_map]
  rw [bidsFor, ledger_eq]
  rfl

/-- The numbers of the bids of a round rise. -/
theorem pairwise_bidsFor_appendAll (batches : List (List NewBid)) (item : ItemId)
    (round : Round) :
    ((appendAll {} batches).bidsFor item round).Pairwise fun a b => a.id < b.id := by
  rw [bidsFor, ledger_appendAll]
  exact (pairwise_numbered _ _).filter _

end Store

namespace Ranking

/-- The bids of a user. -/
def bidsOf (user : UserId) (bids : List Bid) : List Bid :=
  bids.filter (·.user = user)

theorem mem_bidsOf {user : UserId} {bids : List Bid} {bid : Bid} :
    bid ∈ bidsOf user bids ↔ bid ∈ bids ∧ bid.user = user := by
  rw [bidsOf, List.mem_filter, decide_eq_true_eq]

section Groups

/-- The bids, the one with the largest number in front. -/
def newestFirst (bids : List Bid) : List Bid :=
  bids.mergeSort fun a b => b.id ≤ a.id

theorem newestFirst_perm (bids : List Bid) : (newestFirst bids).Perm bids :=
  List.mergeSort_perm ..

theorem pairwise_newestFirst {bids : List Bid} (ids : (bids.map (·.id)).Nodup) :
    (newestFirst bids).Pairwise fun a b => b.id < a.id := by
  let newer (a b : Bid) : Bool := b.id ≤ a.id
  have transitive (a b c : Bid) : newer a b → newer b c → newer a c := by
    simp only [newer, decide_eq_true_eq]
    exact fun ba cb => Nat.le_trans cb ba
  have total (a b : Bid) : newer a b || newer b a := by
    simp only [newer, Bool.or_eq_true, decide_eq_true_eq]
    exact Nat.le_total b.id a.id
  have sorted : (newestFirst bids).Pairwise fun a b => newer a b :=
    List.pairwise_mergeSort transitive total bids
  have distinct : (newestFirst bids).Pairwise fun a b => a.id ≠ b.id :=
    List.pairwise_map.1 (((newestFirst_perm bids).map _).nodup_iff.2 ids)
  refine (sorted.and distinct).imp ?_
  rintro a b ⟨not_older, different⟩
  exact Nat.lt_of_le_of_ne (of_decide_eq_true not_older) different.symm

/-- Bids are put behind the others of their users, in their order. -/
theorem get?_foldl_append (bids : List Bid) (table : Table (List Bid)) (user : UserId) :
    (bids.foldl (fun table bid => append table bid.user bid) table).get? user =
      if bidsOf user bids = [] then table.get? user
      else some ((table.get? user).getD [] ++ bidsOf user bids) := by
  induction bids generalizing table with
  | nil => rfl
  | cons bid rest ih =>
    rw [List.foldl_cons, ih, append, Table.get?_insert]
    by_cases own : bid.user = user
    · subst own
      have first : bidsOf bid.user (bid :: rest) = bid :: bidsOf bid.user rest := by simp [bidsOf]
      rw [first]
      by_cases last : bidsOf bid.user rest = [] <;> simp [last]
    · have others : bidsOf user (bid :: rest) = bidsOf user rest := by simp [bidsOf, own]
      rw [others, if_neg (Ne.symm own)]

/-- Under a user there are the user's bids, if there are any. -/
theorem get?_byUser (bids : List Bid) (user : UserId) : (byUser bids).get? user =
    if bidsOf user (newestFirst bids) = [] then none
    else some (bidsOf user (newestFirst bids)) :=
  get?_foldl_append (newestFirst bids) .empty user

theorem mem_keys_byUser {bids : List Bid} {user : UserId} :
    user ∈ (byUser bids).keys ↔ ∃ bid ∈ bids, bid.user = user := by
  rw [Table.mem_keys, get?_byUser]
  by_cases none_own : bidsOf user (newestFirst bids) = []
  · simp only [none_own, if_true, reduceCtorEq, exists_false, false_iff]
    rintro ⟨bid, mem, own⟩
    have own_mem := mem_bidsOf.2 ⟨(newestFirst_perm bids).mem_iff.2 mem, own⟩
    rw [none_own] at own_mem
    cases own_mem
  · obtain ⟨bid, own_mem⟩ := List.exists_mem_of_ne_nil _ none_own
    obtain ⟨mem, own⟩ := mem_bidsOf.1 own_mem
    simp only [none_own, if_false, Option.some.injEq, exists_eq', true_iff]
    exact ⟨bid, (newestFirst_perm bids).mem_iff.1 mem, own⟩

/-- The bids of distinct users, one user after the other, are all the bids if all users are among
them. -/
theorem flatMap_bidsOf_perm {users : List UserId} (distinct : users.Nodup) {bids : List Bid}
    (all_users : ∀ bid ∈ bids, bid.user ∈ users) :
    (users.flatMap fun user => bidsOf user bids).Perm bids := by
  induction users generalizing bids with
  | nil =>
    have no_bids : bids = [] := by
      rw [List.eq_nil_iff_forall_not_mem]
      exact fun bid mem => List.not_mem_nil (all_users bid mem)
    rw [no_bids]
    exact .refl _
  | cons user rest ih =>
    obtain ⟨not_rest, rest_distinct⟩ := List.nodup_cons.1 distinct
    let others := bids.filter fun bid => !decide (bid.user = user)
    have of_others : ∀ other ∈ rest, bidsOf other bids = bidsOf other others := by
      intro other mem
      simp only [bidsOf, others, List.filter_filter]
      apply List.filter_congr
      intro bid _
      have ne : bid.user = other → bid.user ≠ user := fun own same =>
        not_rest (same ▸ own ▸ mem)
      grind
    have rest_perm : (rest.flatMap fun other => bidsOf other others).Perm others := by
      apply ih rest_distinct
      intro bid mem
      obtain ⟨bid_mem, ne⟩ := List.mem_filter.1 mem
      rcases List.mem_cons.1 (all_users bid bid_mem) with same | later
      · simp [same] at ne
      · exact later
    rw [List.flatMap_cons, List.flatMap_congr of_others]
    exact (rest_perm.append_left _).trans (List.filter_append_perm _ bids)

/-- Whether a table has the bids of every user, the last one first, and nothing else. -/
structure GroupedByUser (bids : List Bid) (groups : Table (List Bid)) : Prop where
  mem_iff : ∀ user group, groups.get? user = some group →
    ∀ bid, bid ∈ group ↔ bid ∈ bids ∧ bid.user = user
  ne_nil : ∀ user group, groups.get? user = some group → group ≠ []
  newest_first : ∀ user group, groups.get? user = some group →
    group.Pairwise fun a b => b.id < a.id
  /-- One group after the other, they have every bid as often as it was written. -/
  perm : groups.values.flatten.Perm bids

theorem groupedByUser_byUser {bids : List Bid} (ids : (bids.map (·.id)).Nodup) :
    GroupedByUser bids (byUser bids) := by
  have group_eq {user : UserId} {group : List Bid} (found : (byUser bids).get? user = some group) :
      group = bidsOf user (newestFirst bids) ∧ group ≠ [] := by
    rw [get?_byUser] at found
    split at found
    · cases found
    · next some_own =>
      cases found
      exact ⟨rfl, some_own⟩
  refine ⟨?_, fun user group found => (group_eq found).2, ?_, ?_⟩
  · intro user group found bid
    rw [(group_eq found).1, mem_bidsOf, (newestFirst_perm bids).mem_iff]
  · intro user group found
    rw [(group_eq found).1]
    exact (pairwise_newestFirst ids).filter _
  · have at_keys : ∀ user ∈ (byUser bids).keys,
        (byUser bids).get? user = some (bidsOf user (newestFirst bids)) := by
      intro user mem
      obtain ⟨group, found⟩ := Table.mem_keys.1 mem
      rw [found, (group_eq found).1]
    have all_users : ∀ bid ∈ newestFirst bids, bid.user ∈ (byUser bids).keys := by
      intro bid mem
      exact mem_keys_byUser.2 ⟨bid, (newestFirst_perm bids).mem_iff.1 mem, rfl⟩
    rw [Table.values_eq_map_keys at_keys, ← List.flatMap_def]
    exact (flatMap_bidsOf_perm (Table.nodup_keys _) all_users).trans (newestFirst_perm bids)

/-- A bid is in the group of its user. -/
theorem exists_group_of_mem {bids : List Bid} {bid : Bid} (mem : bid ∈ bids) :
    ∃ group, (byUser bids).get? bid.user = some group ∧ bid ∈ group := by
  have own_mem := mem_bidsOf.2 ⟨(newestFirst_perm bids).mem_iff.2 mem, rfl⟩
  rw [get?_byUser, if_neg (List.ne_nil_of_mem own_mem)]
  exact ⟨_, rfl, own_mem⟩

end Groups

section Bidders

/-- The user of a bid comes first, the others as if that user had not bid. -/
theorem bidders_cons (bid : Bid) (rest : List Bid) : bidders (bid :: rest) =
    bid.user :: bidders (rest.filter (·.user ≠ bid.user)) := by
  unfold bidders
  rw [List.map_cons, List.eraseDups_cons, List.filter_map]
  congr 3
  apply List.filter_congr
  intro other _
  rw [Function.comp_apply, decide_not, Bool.beq_eq_decide_eq]

/-- What holds without bids, and of bids if it holds of those of the users other than the first,
holds of all bids. -/
theorem bidders_induction {motive : List Bid → Prop} (nil : motive [])
    (cons : ∀ bid rest, motive (rest.filter (·.user ≠ bid.user)) → motive (bid :: rest)) :
    ∀ bids, motive bids
  | [] => nil
  | bid :: rest => cons bid rest (bidders_induction nil cons _)
termination_by bids => bids.length
decreasing_by exact Nat.lt_succ_of_le (List.length_filter_le _ _)

theorem mem_bidders {bids : List Bid} {user : UserId} :
    user ∈ bidders bids ↔ ∃ bid ∈ bids, bid.user = user := by
  rw [bidders, List.mem_eraseDups, List.mem_map]

theorem mem_bidders_others {user other : UserId} {bids : List Bid}
    (mem : other ∈ bidders (bids.filter (·.user ≠ user))) : other ≠ user := by
  obtain ⟨bid, bid_mem, rfl⟩ := mem_bidders.1 mem
  exact of_decide_eq_true (List.mem_filter.1 bid_mem).2

theorem nodup_bidders (bids : List Bid) : (bidders bids).Nodup := by
  induction bids using bidders_induction with
  | nil => exact List.nodup_nil
  | cons bid rest ih =>
    rw [bidders_cons, List.nodup_cons]
    exact ⟨fun mem => mem_bidders_others mem rfl, ih⟩

/-- Whether the bid of the smallest number of a user is before all bids of another user. -/
def BeginsBefore (bids : List Bid) (user other : UserId) : Prop :=
  ∃ first ∈ bids, first.user = user ∧ (∀ bid ∈ bids, bid.user = user → first.id ≤ bid.id) ∧
    ∀ bid ∈ bids, bid.user = other → first.id < bid.id

/-- Users are listed in the order of their first bids. -/
theorem pairwise_bidders {bids : List Bid} (ids : bids.Pairwise fun a b => a.id < b.id) :
    (bidders bids).Pairwise (BeginsBefore bids) := by
  induction bids using bidders_induction with
  | nil => exact List.Pairwise.nil
  | cons bid rest ih =>
    obtain ⟨before, rest_ids⟩ := List.pairwise_cons.1 ids
    rw [bidders_cons, List.pairwise_cons]
    constructor
    · intro other other_mem
      have other_ne := mem_bidders_others other_mem
      refine ⟨bid, List.mem_cons_self, rfl, ?_, ?_⟩
      · intro own mem _
        rcases List.mem_cons.1 mem with rfl | later
        · exact Nat.le_refl _
        · exact Nat.le_of_lt (before own later)
      · intro others mem others_user
        rcases List.mem_cons.1 mem with rfl | later
        · exact absurd others_user.symm other_ne
        · exact before others later
    · -- The bids of the other users are all among those of the others.
      refine (ih (rest_ids.filter _)).imp_of_mem ?_
      rintro user other user_mem other_mem ⟨first, first_mem, own, least, less⟩
      have among {u : UserId} (u_mem : u ∈ bidders (rest.filter (·.user ≠ bid.user))) {b : Bid}
          (b_mem : b ∈ bid :: rest) (b_user : b.user = u) :
          b ∈ rest.filter (·.user ≠ bid.user) := by
        have u_ne := mem_bidders_others u_mem
        rcases List.mem_cons.1 b_mem with rfl | later
        · exact absurd b_user.symm u_ne
        · exact List.mem_filter.2 ⟨later, decide_eq_true (b_user ▸ u_ne)⟩
      refine ⟨first, List.mem_cons_of_mem _ (List.mem_of_mem_filter first_mem), own, ?_, ?_⟩
      · exact fun b b_mem b_user => least b (among user_mem b_mem b_user) b_user
      · exact fun b b_mem b_user => less b (among other_mem b_mem b_user) b_user

end Bidders

end Ranking

/-- However bids of all items come in batches, the bids of a round are those of the batches, and
their groups have each of them once, under its user, the last one first.  The users listed are those
that have a group, each once, in the order of their first bids; the number of bids is that of the
groups together; and a winning bid is in the group of its user. -/
theorem bids_grouped (batches : List (List NewBid)) (item : ItemId) (round : Round) :
    let store := Store.appendAll {} batches
    let bids := store.bidsFor item round
    let groups := Ranking.byUser bids
    bids.map (·.toNewBid) =
        batches.flatten.filter (fun bid => bid.item = item && bid.round = round) ∧
      Ranking.GroupedByUser bids groups ∧
      (∀ user, user ∈ Ranking.bidders bids ↔ user ∈ groups.keys) ∧
      (Ranking.bidders bids).Nodup ∧
      (Ranking.bidders bids).Pairwise (Ranking.BeginsBefore bids) ∧
      store.bidCount item round = (groups.values.map List.length).sum ∧
      ∀ winner, Ranking.winner? bids = some winner →
        ∃ group, groups.get? winner.user = some group ∧ winner ∈ group := by
  intro store bids groups
  have rising : bids.Pairwise fun a b => a.id < b.id :=
    Store.pairwise_bidsFor_appendAll batches item round
  have ids : (bids.map (·.id)).Nodup := List.pairwise_map.2 (rising.imp Nat.ne_of_lt)
  have grouped : Ranking.GroupedByUser bids groups := Ranking.groupedByUser_byUser ids
  refine ⟨Store.bidsFor_appendAll batches item round, grouped, ?_, Ranking.nodup_bidders bids,
    Ranking.pairwise_bidders rising, ?_, ?_⟩
  · exact fun user => Ranking.mem_bidders.trans Ranking.mem_keys_byUser.symm
  · rw [← List.length_flatten, grouped.perm.length_eq]
    rfl
  · intro winner wins
    exact Ranking.exists_group_of_mem (Ranking.winner?_spec wins).1

end AuctionHouse
