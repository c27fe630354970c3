import AuctionHouse.Settlement
import AuctionHouse.Proofs.Decimal.Value
import Mathlib.Data.List.Nodup

/-!
# The strongest rival

Of two proxies the one with the higher ceiling is the stronger.  Where the ceilings have one value,
whatever their scales, the ordering looks at time and number (`isLE_compareStrength_iff`).  A
user's strongest rival is an active proxy of another user that no other one exceeds
(`strongestRival?_eq_some`), and if proxies have numbers of their own, it is the only one that none
outranks: it can be told from the proxies without their order, and without those that do not compete
(`strongest_rival`).
-/

namespace AuctionHouse

/-- Whether a proxy was set before another one, or at its time under a number that is not larger. -/
def Proxy.NoYounger (a b : Proxy) : Prop :=
  a.createdAt < b.createdAt ∨ a.createdAt = b.createdAt ∧ a.id ≤ b.id

namespace Proxy.NoYounger

variable {a b c : Proxy}

theorem trans (hab : a.NoYounger b) (hbc : b.NoYounger c) : a.NoYounger c := by
  unfold NoYounger at *
  simp only [Instant.lt_def] at *
  rcases hab with early | ⟨now, id_le⟩
  · rcases hbc with early' | ⟨now', -⟩
    · exact .inl (Int.lt_trans early early')
    · exact .inl (now' ▸ early)
  · rcases hbc with early' | ⟨now', id_le'⟩
    · exact .inl (now ▸ early')
    · exact .inr ⟨now.trans now', Nat.le_trans id_le id_le'⟩

theorem total (a b : Proxy) : a.NoYounger b ∨ b.NoYounger a := by
  unfold NoYounger
  simp only [Instant.lt_def]
  rcases Int.lt_trichotomy a.createdAt.rank b.createdAt.rank with early | now | late
  · exact .inl (.inl early)
  · have same := Instant.rank_injective now
    rcases Nat.le_total a.id b.id with id_le | id_le
    · exact .inl (.inr ⟨same, id_le⟩)
    · exact .inr (.inr ⟨same.symm, id_le⟩)
  · exact .inr (.inl late)

theorem id_eq (hab : a.NoYounger b) (hba : b.NoYounger a) : a.id = b.id := by
  unfold NoYounger at *
  simp only [Instant.lt_def] at *
  rcases hab with early | ⟨now, id_le⟩
  · rcases hba with late | ⟨now', -⟩
    · exact absurd late (Int.lt_asymm early)
    · exact absurd early (now' ▸ Int.lt_irrefl _)
  · rcases hba with late | ⟨-, id_le'⟩
    · exact absurd late (now ▸ Int.lt_irrefl _)
    · exact Nat.le_antisymm id_le id_le'

end Proxy.NoYounger

/-- Comparing by time and then by number tells which proxy is no younger. -/
theorem Proxy.isLE_compare_age_iff {a b : Proxy} :
    ((compare a.createdAt b.createdAt).then (compare a.id b.id)).isLE ↔ a.NoYounger b := by
  have moments : compare a.createdAt b.createdAt = compare a.createdAt.rank b.createdAt.rank := rfl
  have same : a.createdAt.rank = b.createdAt.rank ↔ a.createdAt = b.createdAt :=
    ⟨Instant.rank_injective, fun same => same ▸ rfl⟩
  rw [Ordering.isLE_then_iff_or, moments, compare_lt_iff_lt, compare_eq_iff_eq, same,
    Nat.isLE_compare]
  rfl

namespace ProxyOrdering

variable {ordering : ProxyOrdering} {a b c : Proxy}

/-- Which of two proxies of equal ceilings comes first: the older or the younger one. -/
def Prefers : ProxyOrdering → Proxy → Proxy → Prop
  | earliestFirst, a, b => a.NoYounger b
  | latestFirst, a, b => b.NoYounger a

theorem Prefers.trans (hab : ordering.Prefers a b) (hbc : ordering.Prefers b c) :
    ordering.Prefers a c := by
  cases ordering with
  | earliestFirst => exact Proxy.NoYounger.trans hab hbc
  | latestFirst => exact Proxy.NoYounger.trans hbc hab

theorem prefers_total (ordering : ProxyOrdering) (a b : Proxy) :
    ordering.Prefers a b ∨ ordering.Prefers b a := by
  cases ordering with
  | earliestFirst => exact Proxy.NoYounger.total a b
  | latestFirst => exact Proxy.NoYounger.total b a

theorem Prefers.id_eq (hab : ordering.Prefers a b) (hba : ordering.Prefers b a) : a.id = b.id := by
  cases ordering with
  | earliestFirst => exact Proxy.NoYounger.id_eq hab hba
  | latestFirst => exact Proxy.NoYounger.id_eq hba hab

/-- Whether a proxy has the higher ceiling of two, or an equal one and is preferred. -/
def Outranks (ordering : ProxyOrdering) (a b : Proxy) : Prop :=
  b.ceiling < a.ceiling ∨ b.ceiling.SameValue a.ceiling ∧ ordering.Prefers a b

theorem Outranks.ceiling_le (h : ordering.Outranks a b) : b.ceiling ≤ a.ceiling := by
  rcases h with less | ⟨same, -⟩
  · exact less.le
  · exact Decimal.le_iff_value_le.2 (Decimal.sameValue_iff_value_eq.1 same).le

theorem Outranks.trans (hab : ordering.Outranks a b) (hbc : ordering.Outranks b c) :
    ordering.Outranks a c := by
  unfold Outranks at *
  simp only [Decimal.lt_iff_value_lt, Decimal.sameValue_iff_value_eq] at *
  rcases hab with less | ⟨same, preferred⟩
  · rcases hbc with less' | ⟨same', -⟩
    · exact .inl (lt_trans less' less)
    · exact .inl (same' ▸ less)
  · rcases hbc with less' | ⟨same', preferred'⟩
    · exact .inl (same ▸ less')
    · exact .inr ⟨same'.trans same, preferred.trans preferred'⟩

theorem Outranks.id_eq (hab : ordering.Outranks a b) (hba : ordering.Outranks b a) :
    a.id = b.id := by
  unfold Outranks at *
  simp only [Decimal.lt_iff_value_lt, Decimal.sameValue_iff_value_eq] at *
  rcases hab with less | ⟨same, preferred⟩
  · rcases hba with more | ⟨same, -⟩
    · exact absurd more (lt_asymm less)
    · exact absurd same less.ne'
  · rcases hba with more | ⟨-, preferred'⟩
    · exact absurd same more.ne'
    · exact preferred.id_eq preferred'

theorem outranks_total (ordering : ProxyOrdering) (a b : Proxy) :
    ordering.Outranks a b ∨ ordering.Outranks b a := by
  unfold Outranks
  simp only [Decimal.lt_iff_value_lt, Decimal.sameValue_iff_value_eq]
  rcases lt_trichotomy a.ceiling.value b.ceiling.value with less | same | more
  · exact .inr (.inl less)
  · rcases ordering.prefers_total a b with preferred | preferred
    · exact .inl (.inr ⟨same.symm, preferred⟩)
    · exact .inr (.inr ⟨same, preferred⟩)
  · exact .inl (.inl more)

/-- The three-way comparison tells which of two proxies outranks the other one. -/
theorem isLE_compareStrength_iff :
    (ordering.compareStrength a b).isLE ↔ ordering.Outranks a b := by
  have by_ceiling (byTime : Ordering) (told : byTime.isLE ↔ ordering.Prefers a b) :
      ((compare b.ceiling a.ceiling).then byTime).isLE ↔ ordering.Outranks a b := by
    rw [Ordering.isLE_then_iff_or, Decimal.compare_eq_compare_value, compare_lt_iff_lt,
      compare_eq_iff_eq, told, ← Decimal.lt_iff_value_lt, ← Decimal.sameValue_iff_value_eq]
    rfl
  cases ordering with
  | earliestFirst => exact by_ceiling _ Proxy.isLE_compare_age_iff
  | latestFirst =>
    have moments : (compare a.createdAt b.createdAt).swap = compare b.createdAt a.createdAt :=
      Int.compare_swap _ _
    refine by_ceiling _ ?_
    rw [Ordering.swap_then, moments, Nat.compare_swap]
    exact Proxy.isLE_compare_age_iff

/-- The strongest of some proxies is one of them, and none of them outranks it. -/
theorem foldl_strongest (ordering : ProxyOrdering) (first : Proxy) (rest : List Proxy) :
    let strongest := rest.foldl
      (fun best proxy => if ordering.compareStrength best proxy = .gt then proxy else best) first
    strongest ∈ first :: rest ∧ ∀ proxy ∈ first :: rest, ordering.Outranks strongest proxy := by
  induction rest generalizing first with
  | nil =>
    refine ⟨List.mem_cons_self, ?_⟩
    intro proxy mem
    rw [List.mem_singleton.1 mem]
    exact (ordering.outranks_total first first).elim id id
  | cons head rest ih =>
    rw [List.foldl_cons]
    by_cases stronger : ordering.compareStrength first head = .gt
    · rw [if_pos stronger]
      obtain ⟨mem, outranks⟩ := ih head
      have not_first : ¬ ordering.Outranks first head := by
        rw [← isLE_compareStrength_iff, Ordering.isLE_iff_ne_gt]
        exact not_not_intro stronger
      have head_first := (ordering.outranks_total first head).resolve_left not_first
      refine ⟨List.mem_cons_of_mem _ mem, ?_⟩
      intro proxy proxy_mem
      rcases List.mem_cons.1 proxy_mem with rfl | later
      · exact (outranks head List.mem_cons_self).trans head_first
      · exact outranks proxy later
    · rw [if_neg stronger]
      have first_head := isLE_compareStrength_iff.1 (Ordering.isLE_iff_ne_gt.2 stronger)
      obtain ⟨mem, outranks⟩ := ih first
      refine ⟨?_, ?_⟩
      · rcases List.mem_cons.1 mem with same | later
        · rw [same]
          exact List.mem_cons_self
        · exact List.mem_cons_of_mem _ (List.mem_cons_of_mem _ later)
      · intro proxy proxy_mem
        rcases List.mem_cons.1 proxy_mem with rfl | later
        · exact outranks proxy List.mem_cons_self
        · rcases List.mem_cons.1 later with rfl | later
          · exact (outranks first List.mem_cons_self).trans first_head
          · exact outranks proxy (List.mem_cons_of_mem _ later)

end ProxyOrdering

section Rival

variable {ordering : ProxyOrdering} {proxies : List Proxy} {user : UserId} {rival : Proxy}

/-- The proxies that compete with a user: the active ones of others. -/
def rivals (user : UserId) (proxies : List Proxy) : List Proxy :=
  proxies.filter fun proxy => proxy.active && proxy.user ≠ user

theorem mem_rivals {proxy : Proxy} : proxy ∈ rivals user proxies ↔
    proxy ∈ proxies ∧ proxy.active = true ∧ proxy.user ≠ user := by
  rw [rivals, List.mem_filter, Bool.and_eq_true, decide_eq_true_eq]

/-- Only rivals are looked at. -/
theorem strongestRival?_rivals (user : UserId) (proxies : List Proxy) (ordering : ProxyOrdering) :
    strongestRival? (rivals user proxies) user ordering =
      strongestRival? proxies user ordering := by
  simp only [strongestRival?, rivals, List.filter_filter, Bool.and_self]

/-- Whether a proxy is among the active ones of other users than a given one, and its ceiling is
exceeded by none of these. -/
structure Proxy.StrongestAgainst (rival : Proxy) (user : UserId) (proxies : List Proxy) :
    Prop where
  mem : rival ∈ proxies
  active : rival.active = true
  other : rival.user ≠ user
  above : ∀ proxy ∈ proxies, proxy.active = true → proxy.user ≠ user →
    proxy.ceiling ≤ rival.ceiling

/-- Whether of the proxies that no ceiling exceeds this one is preferred: the oldest one or the
youngest one, as the ordering says. -/
structure Proxy.FirstAgainst (rival : Proxy) (ordering : ProxyOrdering) (user : UserId)
    (proxies : List Proxy) : Prop extends rival.StrongestAgainst user proxies where
  preferred : ∀ proxy ∈ proxies, proxy.active = true → proxy.user ≠ user →
    proxy.ceiling.SameValue rival.ceiling → ordering.Prefers rival proxy

theorem Proxy.FirstAgainst.outranks (first : rival.FirstAgainst ordering user proxies)
    {proxy : Proxy} (mem : proxy ∈ proxies) (active : proxy.active = true)
    (other : proxy.user ≠ user) : ordering.Outranks rival proxy := by
  have above := first.above proxy mem active other
  rw [Decimal.le_iff_value_le] at above
  rcases above.lt_or_eq with less | same
  · exact .inl (Decimal.lt_iff_value_lt.2 less)
  · have equal := Decimal.sameValue_iff_value_eq.2 same
    exact .inr ⟨equal, first.preferred proxy mem active other equal⟩

theorem firstAgainst_of_strongestRival?
    (found : strongestRival? proxies user ordering = some rival) :
    rival.FirstAgainst ordering user proxies := by
  unfold strongestRival? at found
  split at found
  · cases found
  · next first rest rivals_eq =>
    rw [Option.some.injEq] at found
    obtain ⟨mem, outranks⟩ := ordering.foldl_strongest first rest
    rw [← rivals] at rivals_eq
    rw [found, ← rivals_eq] at mem outranks
    obtain ⟨rival_mem, active, other⟩ := mem_rivals.1 mem
    have outranked (proxy : Proxy) (mem : proxy ∈ proxies) (active : proxy.active = true)
        (other : proxy.user ≠ user) : ordering.Outranks rival proxy :=
      outranks proxy (mem_rivals.2 ⟨mem, active, other⟩)
    refine ⟨⟨rival_mem, active, other, ?_⟩, ?_⟩
    · exact fun proxy mem active other => (outranked proxy mem active other).ceiling_le
    · intro proxy mem active other same
      rcases outranked proxy mem active other with less | ⟨-, preferred⟩
      · rw [Decimal.lt_iff_value_lt, Decimal.sameValue_iff_value_eq.1 same] at less
        exact absurd less (lt_irrefl _)
      · exact preferred

theorem strongestRival?_eq_some (found : strongestRival? proxies user ordering = some rival) :
    rival.StrongestAgainst user proxies :=
  (firstAgainst_of_strongestRival? found).toStrongestAgainst

theorem strongestRival?_eq_none_iff : strongestRival? proxies user ordering = none ↔
    ∀ proxy ∈ proxies, proxy.active = true → proxy.user = user := by
  unfold strongestRival?
  split
  · next none_left =>
    rw [List.filter_eq_nil_iff] at none_left
    simp only [Bool.and_eq_true, decide_eq_true_eq, not_and, not_not] at none_left
    exact ⟨fun _ => none_left, fun _ => rfl⟩
  · next first rest rivals_eq =>
    have mem : first ∈ first :: rest := List.mem_cons_self
    rw [← rivals_eq, ← rivals, mem_rivals] at mem
    constructor
    · intro impossible
      cases impossible
    · intro all_own
      exact absurd (all_own first mem.1 mem.2.1) mem.2.2

/-- The ordering does not matter if no two rivals compete. -/
theorem strongestRival?_of_single (single : ∀ p ∈ proxies, p.active = true → p.user ≠ user →
      ∀ q ∈ proxies, q.active = true → q.user ≠ user → p = q) (ordering other : ProxyOrdering) :
    strongestRival? proxies user ordering = strongestRival? proxies user other := by
  cases found : strongestRival? proxies user ordering with
  | none =>
    rw [strongestRival?_eq_none_iff] at found
    exact (strongestRival?_eq_none_iff.2 found).symm
  | some rival =>
    obtain ⟨mem, active, opposed, -⟩ := strongestRival?_eq_some found
    cases found' : strongestRival? proxies user other with
    | none => exact absurd (strongestRival?_eq_none_iff.1 found' rival mem active) opposed
    | some rival' =>
      obtain ⟨mem', active', opposed', -⟩ := strongestRival?_eq_some found'
      rw [single rival mem active opposed rival' mem' active' opposed']

/-- Of proxies with numbers of their own only one is the first. -/
theorem Proxy.FirstAgainst.unique {other : Proxy} (ids : (proxies.map (·.id)).Nodup)
    (first : rival.FirstAgainst ordering user proxies)
    (also_first : other.FirstAgainst ordering user proxies) : rival = other := by
  have before := first.outranks also_first.mem also_first.active also_first.other
  have after := also_first.outranks first.mem first.active first.other
  exact List.inj_on_of_nodup_map ids first.mem also_first.mem (before.id_eq after)

/-- Of proxies with numbers of their own the strongest rival is the first. -/
theorem strongestRival?_eq_some_iff (ids : (proxies.map (·.id)).Nodup) :
    strongestRival? proxies user ordering = some rival ↔
      rival.FirstAgainst ordering user proxies := by
  refine ⟨firstAgainst_of_strongestRival?, ?_⟩
  intro first
  cases found : strongestRival? proxies user ordering with
  | none =>
    have own := strongestRival?_eq_none_iff.1 found rival first.mem first.active
    exact absurd own first.other
  | some other => rw [(firstAgainst_of_strongestRival? found).unique ids first]

/-- The strongest rival does not depend on the order of proxies with numbers of their own. -/
theorem strongestRival?_of_perm {shuffled : List Proxy} (ids : (proxies.map (·.id)).Nodup)
    (same : shuffled.Perm proxies) :
    strongestRival? shuffled user ordering = strongestRival? proxies user ordering := by
  cases found : strongestRival? shuffled user ordering with
  | none =>
    have own := strongestRival?_eq_none_iff.1 found
    exact (strongestRival?_eq_none_iff.2 fun proxy mem => own proxy (same.mem_iff.2 mem)).symm
  | some rival =>
    obtain ⟨⟨mem, active, other, above⟩, preferred⟩ := firstAgainst_of_strongestRival? found
    refine ((strongestRival?_eq_some_iff ids).2 ⟨⟨same.mem_iff.1 mem, active, other, ?_⟩, ?_⟩).symm
    · exact fun proxy proxy_mem => above proxy (same.mem_iff.2 proxy_mem)
    · exact fun proxy proxy_mem => preferred proxy (same.mem_iff.2 proxy_mem)

/-- Proxies that do not compete make no difference, wherever they stand. -/
theorem strongestRival?_of_idle {idle more : List Proxy} (ids : (proxies.map (·.id)).Nodup)
    (no_rivals : ∀ proxy ∈ idle, proxy.active = true → proxy.user = user)
    (more_perm : more.Perm (proxies ++ idle)) :
    strongestRival? more user ordering = strongestRival? proxies user ordering := by
  have idle_rivals : rivals user idle = [] := by
    rw [List.eq_nil_iff_forall_not_mem]
    intro proxy mem
    obtain ⟨idle_mem, active, other⟩ := mem_rivals.1 mem
    exact other (no_rivals proxy idle_mem active)
  have same : (rivals user more).Perm (rivals user proxies) := by
    have filtered := more_perm.filter fun proxy => proxy.active && proxy.user ≠ user
    rwa [List.filter_append, ← rivals, ← rivals, ← rivals, idle_rivals, List.append_nil] at filtered
  have rival_ids : ((rivals user proxies).map (·.id)).Nodup :=
    ids.sublist (List.filter_sublist.map _)
  rw [← strongestRival?_rivals user more, ← strongestRival?_rivals user proxies]
  exact strongestRival?_of_perm rival_ids same

end Rival

/-- Of proxies with numbers of their own, a user's strongest rival is an active proxy of another
user, if there is one: the one of the highest ceiling, and of those of one ceiling the oldest or the
youngest.  Neither the order of the proxies nor any that do not compete make a difference. -/
theorem strongest_rival {proxies : List Proxy} (ids : (proxies.map (·.id)).Nodup) (user : UserId)
    (ordering : ProxyOrdering) :
    (strongestRival? proxies user ordering = none ↔
      ∀ proxy ∈ proxies, proxy.active = true → proxy.user = user) ∧
    (∀ rival, strongestRival? proxies user ordering = some rival ↔
      rival.FirstAgainst ordering user proxies) ∧
    (∀ shuffled : List Proxy, shuffled.Perm proxies →
      strongestRival? shuffled user ordering = strongestRival? proxies user ordering) ∧
    ∀ idle more : List Proxy, (∀ proxy ∈ idle, proxy.active = true → proxy.user = user) →
      more.Perm (proxies ++ idle) →
        strongestRival? more user ordering = strongestRival? proxies user ordering := by
  refine ⟨strongestRival?_eq_none_iff, ?_, ?_, ?_⟩
  · exact fun rival => strongestRival?_eq_some_iff ids
  · exact fun shuffled same => strongestRival?_of_perm ids same
  · exact fun idle more no_rivals more_perm => strongestRival?_of_idle ids no_rivals more_perm

/-- Two ceilings of one value and one time, beside an own proxy and one that is given up. -/
theorem strongest_rival_tie :
    let noon := (Instant.ofSeconds? 43200 0 (by decide)).get (by decide +kernel)
    let first : Proxy := ⟨1, 1, 2, .whole 100, 0, true, noon, noon⟩
    let second : Proxy := ⟨2, 1, 3, .ofParts 10000 2, 0, true, noon, noon⟩
    let own : Proxy := ⟨3, 1, 4, .whole 200, 0, true, noon, noon⟩
    let given_up : Proxy := ⟨4, 1, 5, .whole 500, 0, false, noon, noon⟩
    (([second, first] : List Proxy).map (·.id)).Nodup ∧
      first.FirstAgainst .earliestFirst 4 [second, first] ∧
      second.FirstAgainst .latestFirst 4 [second, first] ∧
      strongestRival? [given_up, first, own, second] 4 .latestFirst = some second := by
  intro noon first second own given_up
  have ids : (([second, first] : List Proxy).map (·.id)).Nodup := by decide
  obtain ⟨-, earliest, -⟩ := strongest_rival ids 4 .earliestFirst
  obtain ⟨-, latest, -, idle⟩ := strongest_rival ids 4 .latestFirst
  have found : strongestRival? [second, first] 4 .latestFirst = some second := by decide +kernel
  have more_perm : ([given_up, first, own, second] : List Proxy).Perm
      ([second, first] ++ [own, given_up]) := by decide +kernel
  refine ⟨ids, (earliest first).1 (by decide +kernel), (latest second).1 found, ?_⟩
  rw [idle [own, given_up] _ (by decide) more_perm, found]

end AuctionHouse
