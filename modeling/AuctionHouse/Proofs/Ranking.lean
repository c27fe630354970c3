import AuctionHouse.Ranking
import AuctionHouse.Proofs.Decimal.Value
import Mathlib.Data.List.Nodup
import Mathlib.Data.List.Pairwise
import Mathlib.Order.Bounds.Defs

/-!
# Claims and prices

The claims of bids are ordered as amounts first, then as moments, then as numbers
(`isLE_compareClaims_iff`), so the winner is a bid whose claim no other bid precedes
(`winner?_spec`).  The price of a round is the least amount that neither the starting price nor a
bid that counts exceeds (`minPrice_le_iff`), and is one of these amounts (`isGreatest_minPrice`).
Bids with numbers of their own have only one ranking (`IsRanking.unique`), in whichever order they
are written (`ranked_eq_of_perm`).
-/

namespace AuctionHouse

namespace Bid

/-- Whether a bid's claim is before that of another, or the same. -/
def Precedes (a b : Bid) : Prop :=
  b.amount.value < a.amount.value ∨
    b.amount.value = a.amount.value ∧ (a.createdAt < b.createdAt ∨
      a.createdAt.rank = b.createdAt.rank ∧ a.id ≤ b.id)

theorem isLE_compareClaims_iff {a b : Bid} : (a.compareClaims b).isLE ↔ a.Precedes b := by
  have moments : compare a.createdAt b.createdAt = compare a.createdAt.rank b.createdAt.rank := rfl
  rw [compareClaims, Ordering.isLE_then_iff_or, Ordering.isLE_then_iff_or,
    Decimal.compare_eq_compare_value, moments, compare_lt_iff_lt, compare_eq_iff_eq,
    compare_lt_iff_lt, compare_eq_iff_eq, Nat.isLE_compare]
  rfl

theorem Precedes.trans {a b c : Bid} (hab : a.Precedes b) (hbc : b.Precedes c) : a.Precedes c := by
  unfold Precedes at *
  simp only [Instant.lt_def] at *
  rcases hab with less | ⟨same, rest⟩
  · rcases hbc with less' | ⟨same', rest'⟩
    · exact .inl (lt_trans less' less)
    · exact .inl (same' ▸ less)
  · rcases hbc with less' | ⟨same', rest'⟩
    · exact .inl (same ▸ less')
    · exact .inr ⟨same'.trans same, by grind⟩

theorem precedes_total (a b : Bid) : a.Precedes b ∨ b.Precedes a := by
  unfold Precedes
  simp only [Instant.lt_def]
  rcases lt_trichotomy a.amount.value b.amount.value with less | same | more
  · exact .inr (.inl less)
  · rcases Int.lt_trichotomy a.createdAt.rank b.createdAt.rank with early | now | late
    · exact .inl (.inr ⟨same.symm, .inl early⟩)
    · rcases Nat.le_total a.id b.id with id_le | id_le
      · exact .inl (.inr ⟨same.symm, .inr ⟨now, id_le⟩⟩)
      · exact .inr (.inr ⟨same, .inr ⟨now.symm, id_le⟩⟩)
    · exact .inr (.inr ⟨same, .inl late⟩)
  · exact .inl (.inl more)

theorem Precedes.amount_le {a b : Bid} (h : a.Precedes b) : b.amount ≤ a.amount := by
  rw [Decimal.le_iff_value_le]
  rcases h with less | ⟨same, -⟩
  · exact less.le
  · exact same.le

theorem Precedes.id_eq {a b : Bid} (hab : a.Precedes b) (hba : b.Precedes a) : a.id = b.id := by
  unfold Precedes at *
  simp only [Instant.lt_def] at *
  rcases hab with less | ⟨same, early | ⟨now, id_le⟩⟩ <;>
    rcases hba with less' | ⟨same', early' | ⟨now', id_le'⟩⟩
  all_goals grind

theorem not_precedes_of_amount_lt {a b : Bid} (h : a.amount < b.amount) : ¬ a.Precedes b :=
  fun before => Decimal.not_lt.2 before.amount_le h

/-- Whether a bid keeps its claim against a later offer: one of less, or one of as much that is not
of an earlier time. -/
def Withstands (bid : Bid) (later : NewBid) : Prop :=
  later.amount < bid.amount ∨
    later.amount.SameValue bid.amount ∧ bid.createdAt ≤ later.createdAt

instance (bid : Bid) (later : NewBid) : Decidable (bid.Withstands later) :=
  inferInstanceAs (Decidable (_ ∨ _ ∧ _))

/-- A bid withstands what is written after it exactly if its claim is before. -/
theorem withstands_iff {bid later : Bid} (written : bid.id < later.id) :
    bid.Withstands later.toNewBid ↔ bid.Precedes later := by
  unfold Withstands Precedes
  rw [Decimal.lt_iff_value_lt, Decimal.sameValue_iff_value_eq, Instant.le_def, Instant.lt_def]
  refine or_congr_right (and_congr_right fun _ => ?_)
  have id_le := Nat.le_of_lt written
  grind

/-- What withstands an offer that is not below it is equal to it and not of a later time. -/
theorem Withstands.same_of_le {bid : Bid} {later : NewBid} (h : bid.Withstands later)
    (le : bid.amount ≤ later.amount) :
    later.amount.SameValue bid.amount ∧ bid.createdAt ≤ later.createdAt := by
  rcases h with less | same
  · exact absurd less (Decimal.not_lt.2 le)
  · exact same

end Bid

/-- Whether the bid that leads keeps its claim against a later offer. -/
def Standing.Withstands (standing : Standing) (later : NewBid) : Prop :=
  ∃ lead ∈ standing.lead, lead.Withstands later

instance (standing : Standing) (later : NewBid) : Decidable (standing.Withstands later) :=
  inferInstanceAs (Decidable (∃ lead ∈ standing.lead, _))

/-- A lead that is equal to a bid withstands a later one that is not below that bid exactly if this
one is not above it. -/
theorem Standing.withstands_iff_not_lt {standing : Standing} {lead : Bid} {amount : Decimal}
    {later : NewBid} (leads : standing.lead = some lead) (same : amount.SameValue lead.amount)
    (early : lead.createdAt ≤ later.createdAt) (at_least : amount ≤ later.amount) :
    standing.Withstands later ↔ ¬ amount < later.amount := by
  rw [Decimal.sameValue_iff_value_eq] at same
  rw [Decimal.le_iff_value_le] at at_least
  rw [Decimal.lt_iff_value_lt]
  constructor
  · rintro ⟨other, leads', withstands⟩ above
    obtain rfl : lead = other := Option.some.inj (leads.symm.trans leads')
    rw [same] at above
    have equal := (withstands.same_of_le (Decimal.le_iff_value_le.2 above.le)).1
    exact above.ne (Decimal.sameValue_iff_value_eq.1 equal).symm
  · intro not_above
    have equal := le_antisymm (not_lt.1 not_above) at_least
    exact ⟨lead, leads, .inr ⟨Decimal.sameValue_iff_value_eq.2 (equal.trans same), early⟩⟩

namespace Ranking

theorem mem_ranked {bids : List Bid} {bid : Bid} :
    bid ∈ ranked bids ↔ bid ∈ bids ∧ bid.counts = true := by
  rw [ranked, List.mem_mergeSort, List.mem_filter]

theorem pairwise_ranked (bids : List Bid) : (ranked bids).Pairwise Bid.Precedes := by
  let before (a b : Bid) : Bool := (a.compareClaims b).isLE
  have transitive (a b c : Bid) : before a b → before b c → before a c := by
    simp only [before, Bid.isLE_compareClaims_iff]
    exact Bid.Precedes.trans
  have total (a b : Bid) : before a b || before b a := by
    rw [Bool.or_eq_true, Bid.isLE_compareClaims_iff, Bid.isLE_compareClaims_iff]
    exact a.precedes_total b
  have sorted := List.pairwise_mergeSort transitive total (bids.filter fun bid => bid.counts)
  exact sorted.imp Bid.isLE_compareClaims_iff.1

/-- Whether a list is a ranking of bids: it has those that count, and none before one whose claim
precedes its own. -/
structure IsRanking (bids ranking : List Bid) : Prop where
  perm : ranking.Perm (bids.filter fun bid => bid.counts)
  sorted : ranking.Pairwise Bid.Precedes

theorem isRanking_ranked (bids : List Bid) : IsRanking bids (ranked bids) :=
  ⟨List.mergeSort_perm .., pairwise_ranked bids⟩

/-- Bids with numbers of their own have only one ranking. -/
theorem IsRanking.unique {bids first second : List Bid} (ids : (bids.map (·.id)).Nodup)
    (is_first : IsRanking bids first) (is_second : IsRanking bids second) : first = second := by
  have mem {ranking : List Bid} (is_ranking : IsRanking bids ranking) {bid : Bid}
      (ranked : bid ∈ ranking) : bid ∈ bids :=
    List.mem_of_mem_filter (is_ranking.perm.mem_iff.1 ranked)
  refine List.Perm.eq_of_pairwise ?_ is_first.sorted is_second.sorted
    (is_first.perm.trans is_second.perm.symm)
  intro a b a_mem b_mem before after
  exact List.inj_on_of_nodup_map ids (mem is_first a_mem) (mem is_second b_mem)
    (before.id_eq after)

theorem IsRanking.of_perm {bids others ranking : List Bid} (is_ranking : IsRanking others ranking)
    (same : others.Perm bids) : IsRanking bids ranking :=
  ⟨is_ranking.perm.trans (same.filter _), is_ranking.sorted⟩

/-- The ranking does not depend on the order in which bids are written. -/
theorem ranked_eq_of_perm {bids others : List Bid} (ids : (bids.map (·.id)).Nodup)
    (same : others.Perm bids) : ranked others = ranked bids :=
  ((isRanking_ranked others).of_perm same).unique ids (isRanking_ranked bids)

/-- The winner is a bid that counts, and its claim precedes that of every bid that counts. -/
theorem winner?_spec {bids : List Bid} {winner : Bid} (h : winner? bids = some winner) :
    winner ∈ bids ∧ winner.counts = true ∧
      ∀ bid ∈ bids, bid.counts = true → winner.Precedes bid := by
  obtain ⟨rest, ranked_eq⟩ := List.head?_eq_some_iff.1 h
  have sorted := pairwise_ranked bids
  rw [ranked_eq, List.pairwise_cons] at sorted
  have winner_mem : winner ∈ ranked bids := ranked_eq ▸ List.mem_cons_self
  obtain ⟨mem, counts⟩ := mem_ranked.1 winner_mem
  refine ⟨mem, counts, ?_⟩
  intro bid bid_mem bid_counts
  have : bid ∈ winner :: rest := ranked_eq ▸ mem_ranked.2 ⟨bid_mem, bid_counts⟩
  rcases List.mem_cons.1 this with rfl | later
  · exact (bid.precedes_total bid).elim id id
  · exact sorted.1 bid later

theorem winner?_eq_none_iff {bids : List Bid} :
    winner? bids = none ↔ ∀ bid ∈ bids, bid.counts = false := by
  rw [winner?, List.head?_eq_none_iff, List.eq_nil_iff_forall_not_mem]
  simp only [mem_ranked, not_and, Bool.not_eq_true]

/-- A bid that counts and is preceded by no other one that counts is the winner. -/
theorem winner?_eq_some {bids : List Bid} {first : Bid} (mem : first ∈ bids)
    (counts : first.counts = true)
    (ahead : ∀ bid ∈ bids, bid.counts = true → bid.Precedes first → bid = first) :
    winner? bids = some first := by
  cases found : winner? bids with
  | none =>
    have := winner?_eq_none_iff.1 found first mem
    simp [this] at counts
  | some winner =>
    obtain ⟨winner_mem, winner_counts, precedes⟩ := winner?_spec found
    rw [ahead winner winner_mem winner_counts (precedes first mem counts)]

/-- A bid that counts and has a higher amount than all others that count is the winner. -/
theorem winner?_of_highest {bids : List Bid} {highest : Bid} (mem : highest ∈ bids)
    (counts : highest.counts = true)
    (lower : ∀ bid ∈ bids, bid.counts = true → bid = highest ∨ bid.amount < highest.amount) :
    winner? bids = some highest := by
  apply winner?_eq_some mem counts
  intro bid bid_mem bid_counts before
  rcases lower bid bid_mem bid_counts with same | less
  · exact same
  · exact absurd before (Bid.not_precedes_of_amount_lt less)

@[simp] theorem lead_standing (startingPrice : Decimal) (bids : List Bid) :
    (standing startingPrice bids).lead = winner? bids := rfl

theorem standing_of_none {startingPrice : Decimal} {bids : List Bid} (h : winner? bids = none) :
    standing startingPrice bids = ⟨startingPrice, none⟩ := by
  simp only [standing, h]

theorem standing_nil (startingPrice : Decimal) :
    standing startingPrice [] = ⟨startingPrice, none⟩ := by
  apply standing_of_none
  rw [winner?_eq_none_iff]
  intro bid mem
  cases mem

theorem minPrice_of_some {startingPrice : Decimal} {bids : List Bid} {lead : Bid}
    (h : winner? bids = some lead) :
    (standing startingPrice bids).minPrice = max startingPrice lead.amount := by
  simp only [standing, h]
  rfl

/-- The price is the least amount that is not exceeded by the starting price nor by a bid that
counts. -/
theorem minPrice_le_iff {startingPrice bound : Decimal} {bids : List Bid} :
    (standing startingPrice bids).minPrice ≤ bound ↔
      startingPrice ≤ bound ∧ ∀ bid ∈ bids, bid.counts = true → bid.amount ≤ bound := by
  cases found : winner? bids with
  | none =>
    rw [standing_of_none found]
    have none_counts := winner?_eq_none_iff.1 found
    constructor
    · intro h
      refine ⟨h, ?_⟩
      intro bid mem counts
      simp [none_counts bid mem] at counts
    · exact fun h => h.1
  | some lead =>
    obtain ⟨lead_mem, lead_counts, precedes⟩ := winner?_spec found
    rw [minPrice_of_some found, Decimal.le_iff_value_le, Decimal.value_max, max_le_iff,
      ← Decimal.le_iff_value_le, ← Decimal.le_iff_value_le]
    constructor
    · rintro ⟨start_le, lead_le⟩
      refine ⟨start_le, ?_⟩
      intro bid mem counts
      exact le_trans (precedes bid mem counts).amount_le lead_le
    · exact fun h => ⟨h.1, h.2 lead lead_mem lead_counts⟩

theorem startingPrice_le_minPrice (startingPrice : Decimal) (bids : List Bid) :
    startingPrice ≤ (standing startingPrice bids).minPrice :=
  (minPrice_le_iff.1 (Decimal.le_refl _)).1

theorem amount_le_minPrice (startingPrice : Decimal) {bids : List Bid} {bid : Bid}
    (mem : bid ∈ bids) (counts : bid.counts = true) :
    bid.amount ≤ (standing startingPrice bids).minPrice :=
  (minPrice_le_iff.1 (Decimal.le_refl _)).2 bid mem counts

/-- The price is the highest of the starting price and the amounts of the bids that count. -/
theorem isGreatest_minPrice (startingPrice : Decimal) (bids : List Bid) :
    IsGreatest {amount | amount = startingPrice ∨
      ∃ bid ∈ bids, bid.counts = true ∧ amount = bid.amount}
      (standing startingPrice bids).minPrice := by
  constructor
  · cases found : winner? bids with
    | none =>
      rw [standing_of_none found]
      exact .inl rfl
    | some lead =>
      obtain ⟨lead_mem, lead_counts, -⟩ := winner?_spec found
      rw [minPrice_of_some found, Decimal.max_def]
      split
      · exact .inr ⟨lead, lead_mem, lead_counts, rfl⟩
      · exact .inl rfl
  · rintro amount (rfl | ⟨bid, mem, counts, rfl⟩)
    · exact startingPrice_le_minPrice _ bids
    · exact amount_le_minPrice _ mem counts

/-- The standing follows from the ranking. -/
theorem standing_eq_of_ranked_eq (startingPrice : Decimal) {bids others : List Bid}
    (same : ranked others = ranked bids) :
    standing startingPrice others = standing startingPrice bids := by
  simp only [standing, winner?, same]

/-- More bids do not lower the price. -/
theorem minPrice_le_append (startingPrice : Decimal) (bids later : List Bid) :
    (standing startingPrice bids).minPrice ≤ (standing startingPrice (bids ++ later)).minPrice := by
  rw [minPrice_le_iff]
  refine ⟨startingPrice_le_minPrice _ _, ?_⟩
  intro bid mem counts
  exact amount_le_minPrice _ (List.mem_append_left _ mem) counts

/-- Bids in the order of their numbers are told apart by them. -/
theorem eq_of_id_eq {bids : List Bid} (ids : bids.Pairwise fun a b => a.id < b.id) {a b : Bid}
    (a_mem : a ∈ bids) (b_mem : b ∈ bids) (same : a.id = b.id) : a = b := by
  by_contra different
  have distinct : bids.Pairwise fun a b => a.id ≠ b.id := ids.imp Nat.ne_of_lt
  have symmetric : Std.Symm fun a b : Bid => a.id ≠ b.id := ⟨fun _ _ h => h.symm⟩
  exact distinct.forall a_mem b_mem different same

/-- Of bids in the order of their numbers, the winner is the one that counts and whose claim
precedes that of every bid that counts. -/
theorem winner?_eq_some_iff {bids : List Bid} (ids : bids.Pairwise fun a b => a.id < b.id)
    {winner : Bid} : winner? bids = some winner ↔ winner ∈ bids ∧ winner.counts = true ∧
      ∀ bid ∈ bids, bid.counts = true → winner.Precedes bid := by
  refine ⟨winner?_spec, ?_⟩
  rintro ⟨mem, counts, precedes⟩
  apply winner?_eq_some mem counts
  intro bid bid_mem bid_counts before
  exact eq_of_id_eq ids bid_mem mem (before.id_eq (precedes bid bid_mem bid_counts))

/-- The winner of some bids and one more is the same if it withstands that one, and that one if
there is none that does. -/
theorem winner?_concat {bids : List Bid} {later : Bid}
    (ids : (bids ++ [later]).Pairwise fun a b => a.id < b.id) (counts : later.counts = true) :
    winner? (bids ++ [later]) =
      if ∃ lead ∈ winner? bids, lead.Withstands later.toNewBid then winner? bids
      else some later := by
  have written (bid : Bid) (mem : bid ∈ bids) : bid.id < later.id :=
    (List.pairwise_append.1 ids).2.2 bid mem later List.mem_cons_self
  split
  · next withstood =>
    obtain ⟨lead, leads, withstands⟩ := withstood
    obtain ⟨mem, lead_counts, precedes⟩ := winner?_spec leads
    rw [leads, winner?_eq_some_iff ids]
    refine ⟨List.mem_append_left _ mem, lead_counts, ?_⟩
    intro bid bid_mem bid_counts
    rcases List.mem_append.1 bid_mem with old | new
    · exact precedes bid old bid_counts
    · rw [List.mem_singleton.1 new]
      exact (Bid.withstands_iff (written lead mem)).1 withstands
  · next overtaken =>
    rw [winner?_eq_some_iff ids]
    refine ⟨List.mem_append_right _ List.mem_cons_self, counts, ?_⟩
    intro bid mem bid_counts
    rcases List.mem_append.1 mem with old | new
    · cases leads : winner? bids with
      | none =>
        rw [winner?_eq_none_iff.1 leads bid old] at bid_counts
        cases bid_counts
      | some lead =>
        obtain ⟨lead_mem, -, precedes⟩ := winner?_spec leads
        have not_before : ¬ lead.Precedes later := by
          rw [← Bid.withstands_iff (written lead lead_mem)]
          exact fun withstands => overtaken ⟨lead, leads, withstands⟩
        have before := (later.precedes_total lead).resolve_right not_before
        exact before.trans (precedes bid old bid_counts)
    · rw [List.mem_singleton.1 new]
      exact (later.precedes_total later).elim id id

/-- Of two bids, the first leads if it withstands the other, and the other leads if not. -/
theorem lead_pair (startingPrice : Decimal) {first later : Bid} (written : first.id < later.id)
    (first_counts : first.counts = true) (later_counts : later.counts = true) :
    (standing startingPrice [first, later]).lead =
      if first.Withstands later.toNewBid then some first else some later := by
  have first_leads : winner? [first] = some first := by
    refine winner?_eq_some List.mem_cons_self first_counts ?_
    intro bid mem _ _
    exact List.mem_singleton.1 mem
  have lead_eq := @winner?_concat [first] later (by simpa using written) later_counts
  simp only [first_leads, Option.mem_def, Option.some.injEq, exists_eq_left'] at lead_eq
  exact lead_eq

/-- Younger bids take a lead only with a higher amount. -/
theorem winner?_append {bids later : List Bid} {lead : Bid}
    (ids : (bids ++ later).Pairwise fun a b => a.id < b.id) (leads : winner? bids = some lead)
    (younger : ∀ bid ∈ later, lead.createdAt ≤ bid.createdAt) :
    ∃ next, winner? (bids ++ later) = some next ∧ (next = lead ∨ lead.amount < next.amount) := by
  obtain ⟨lead_mem, lead_counts, precedes⟩ := winner?_spec leads
  have lead_mem' := List.mem_append_left later lead_mem
  cases found : winner? (bids ++ later) with
  | none =>
    have := winner?_eq_none_iff.1 found lead lead_mem'
    simp [this] at lead_counts
  | some next =>
    refine ⟨next, rfl, ?_⟩
    obtain ⟨next_mem, next_counts, next_precedes⟩ := winner?_spec found
    have before := next_precedes lead lead_mem' lead_counts
    by_cases higher : lead.amount < next.amount
    · exact .inr higher
    · left
      apply eq_of_id_eq ids next_mem lead_mem'
      apply before.id_eq
      rcases List.mem_append.1 next_mem with old | new
      · exact precedes next old next_counts
      · -- A younger bid of the same amount has a later claim.
        have id_lt := (List.pairwise_append.1 ids).2.2 lead lead_mem next new
        have amount_le := before.amount_le
        rw [Decimal.not_lt, Decimal.le_iff_value_le] at higher
        rw [Decimal.le_iff_value_le] at amount_le
        have early := younger next new
        rw [Instant.le_def] at early
        refine .inr ⟨Rat.le_antisymm higher amount_le, ?_⟩
        rcases Int.lt_or_eq_of_le early with less | same
        · exact .inl less
        · exact .inr ⟨same, Nat.le_of_lt id_lt⟩

end Ranking

end AuctionHouse
