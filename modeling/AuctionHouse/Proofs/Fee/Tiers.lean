import AuctionHouse.Fee.Schedule
import AuctionHouse.Proofs.Decimal.Value
import Mathlib.Data.List.Pairwise
import Mathlib.Data.List.Sort

/-!
# The tiers of the fee table

The tiers of a list of ranges are, in ascending order, the last range of every start
(`TiersOf`).  That the last one counts is the stability of the sort: ranges that start at one price
stay in their order (`filter_mergeSort_start`).  A table is refused for its first tier with a flaw,
and a sale owes the fees of the highest tier that starts at or below its price, or else of the
lowest one (`Applies`).
-/

namespace AuctionHouse

namespace FeeRange

/-- Whether a range is acceptable: its fraction is from zero to one and its flat fee is not
negative. -/
def Sound (range : FeeRange) : Prop :=
  .zero ≤ range.fraction ∧ range.fraction ≤ .one ∧ .zero ≤ range.flat

/-- A range has no flaw exactly if it is acceptable. -/
theorem flaw?_eq_none_iff {range : FeeRange} : range.flaw? = none ↔ range.Sound := by
  unfold flaw? Sound
  by_cases outside : range.fraction < .zero ∨ .one < range.fraction
  · rw [if_pos outside]
    refine ⟨nofun, ?_⟩
    rintro ⟨nonneg, le_one, -⟩
    rcases outside with negative | above
    · exact absurd negative (Decimal.not_lt.2 nonneg)
    · exact absurd above (Decimal.not_lt.2 le_one)
  · rw [if_neg outside]
    rw [not_or, Decimal.not_lt, Decimal.not_lt] at outside
    by_cases negative : range.flat < .zero
    · rw [if_pos negative]
      exact ⟨nofun, fun sound => absurd negative (Decimal.not_lt.2 sound.2.2)⟩
    · rw [if_neg negative]
      exact ⟨fun _ => ⟨outside.1, outside.2, Decimal.not_lt.1 negative⟩, fun _ => rfl⟩

/-- Whether a range is the last of a list of those that start where it does. -/
def Prevails (range : FeeRange) (ranges : List FeeRange) : Prop :=
  (ranges.filter fun other => other.start.SameValue range.start).getLast? = some range

end FeeRange

/-- Whether a list has the last range of every start of another one, in ascending order. -/
structure TiersOf (ranges tiers : List FeeRange) : Prop where
  ascending : tiers.Pairwise fun a b => a.start < b.start
  mem_iff : ∀ range, range ∈ tiers ↔ range.Prevails ranges

namespace FeeSchedule

variable {ranges tiers : List FeeRange} {range : FeeRange}

section Sorting

/-- The order of ranges by which the table is sorted. -/
def startsFirst (a b : FeeRange) : Bool := a.start ≤ b.start

theorem startsFirst_trans (a b c : FeeRange) :
    startsFirst a b = true → startsFirst b c = true → startsFirst a c = true := by
  simp only [startsFirst, decide_eq_true_eq]
  exact le_trans

theorem startsFirst_total (a b : FeeRange) : (startsFirst a b || startsFirst b a) = true := by
  simp only [startsFirst, Bool.or_eq_true, decide_eq_true_eq]
  exact Decimal.le_total a.start b.start

/-- Sorting leaves the order of ranges that start at one price. -/
theorem filter_mergeSort_start (ranges : List FeeRange) (start : Decimal) :
    (ranges.mergeSort startsFirst).filter (fun range => range.start.SameValue start) =
      ranges.filter fun range => range.start.SameValue start := by
  let here (range : FeeRange) : Bool := range.start.SameValue start
  change (ranges.mergeSort startsFirst).filter here = ranges.filter here
  have level : (ranges.filter here).Pairwise fun a b => startsFirst a b = true := by
    apply List.pairwise_of_forall_mem_list
    intro a a_mem b b_mem
    have a_here := of_decide_eq_true (List.mem_filter.1 a_mem).2
    have b_here := of_decide_eq_true (List.mem_filter.1 b_mem).2
    rw [Decimal.sameValue_iff_value_eq] at a_here b_here
    rw [startsFirst, decide_eq_true_eq, Decimal.le_iff_value_le, a_here, b_here]
  have kept : (ranges.filter here).Sublist (ranges.mergeSort startsFirst) :=
    List.sublist_mergeSort startsFirst_trans startsFirst_total level List.filter_sublist
  have kept_here := kept.filter here
  rw [List.filter_filter, List.filter_congr fun range _ => Bool.and_self (here range)] at kept_here
  have perm := (List.mergeSort_perm ranges startsFirst).filter here
  exact (kept_here.eq_of_length perm.length_eq.symm).symm

/-- Sorting leaves which ranges prevail. -/
theorem prevails_mergeSort_iff : range.Prevails (ranges.mergeSort startsFirst) ↔
    range.Prevails ranges := by
  unfold FeeRange.Prevails
  rw [filter_mergeSort_start]

end Sorting

section LastOfEachStart

theorem lastOfEachStart_sublist (ranges : List FeeRange) :
    (lastOfEachStart ranges).Sublist ranges := by
  fun_induction lastOfEachStart ranges with
  | case1 => exact .slnil
  | case2 range => exact .refl _
  | case3 range next rest same ih => exact ih.cons range
  | case4 range next rest other ih => exact ih.cons_cons range

theorem lastOfEachStart_eq_nil_iff : lastOfEachStart ranges = [] ↔ ranges = [] := by
  fun_induction lastOfEachStart ranges with
  | case1 => exact ⟨fun _ => rfl, fun _ => rfl⟩
  | case2 range => exact ⟨nofun, nofun⟩
  | case3 range next rest same ih => exact ⟨fun empty => (nomatch ih.1 empty), nofun⟩
  | case4 range next rest other ih => exact ⟨nofun, nofun⟩

/-- What starts elsewhere than the first of some sorted ranges starts above it. -/
theorem lt_of_not_sameValue {first next later : FeeRange} {rest : List FeeRange}
    (sorted : (first :: next :: rest).Pairwise fun a b => a.start ≤ b.start)
    (other : ¬ first.start.SameValue next.start) (mem : later ∈ next :: rest) :
    first.start < later.start := by
  obtain ⟨first_le, sorted_rest⟩ := List.pairwise_cons.1 sorted
  rw [Decimal.sameValue_iff_value_eq] at other
  have first_lt : first.start < next.start :=
    Decimal.lt_iff_value_lt.2
      (lt_of_le_of_ne (Decimal.le_iff_value_le.1 (first_le next List.mem_cons_self)) other)
  rcases List.mem_cons.1 mem with rfl | in_rest
  · exact first_lt
  · exact lt_of_lt_of_le first_lt ((List.pairwise_cons.1 sorted_rest).1 later in_rest)

/-- The last ranges of every start ascend if the ranges do not descend. -/
theorem ascending_lastOfEachStart (sorted : ranges.Pairwise fun a b => a.start ≤ b.start) :
    (lastOfEachStart ranges).Pairwise fun a b => a.start < b.start := by
  fun_induction lastOfEachStart ranges with
  | case1 => exact .nil
  | case2 range => exact List.pairwise_singleton _ _
  | case3 range next rest same ih => exact ih (List.pairwise_cons.1 sorted).2
  | case4 range next rest other ih =>
    refine List.pairwise_cons.2 ⟨?_, ih (List.pairwise_cons.1 sorted).2⟩
    intro later mem
    exact lt_of_not_sameValue sorted other ((lastOfEachStart_sublist _).subset mem)

/-- A range that another one follows at the same start does not matter. -/
theorem prevails_cons_of_same {first next : FeeRange} {rest : List FeeRange}
    (same : first.start.SameValue next.start) :
    range.Prevails (first :: next :: rest) ↔ range.Prevails (next :: rest) := by
  unfold FeeRange.Prevails
  by_cases here : first.start.SameValue range.start
  · have next_here : next.start.SameValue range.start := by
      rw [Decimal.sameValue_iff_value_eq] at *
      exact same.symm.trans here
    simp only [List.filter_cons, decide_eq_true here, decide_eq_true next_here, if_true,
      List.getLast?_cons_cons]
  · rw [List.filter_cons_of_neg (by rwa [decide_eq_true_eq])]

/-- A range that no other one follows at the same start is the last one there. -/
theorem prevails_cons_of_alone {first : FeeRange} {rest : List FeeRange}
    (alone : ∀ later ∈ rest, ¬ later.start.SameValue first.start) :
    range.Prevails (first :: rest) ↔ range = first ∨ range.Prevails rest := by
  unfold FeeRange.Prevails
  by_cases here : first.start.SameValue range.start
  · have none_here : (rest.filter fun other => other.start.SameValue range.start) = [] := by
      rw [List.filter_eq_nil_iff]
      intro later mem later_here
      refine alone later mem ?_
      rw [decide_eq_true_eq] at later_here
      rw [Decimal.sameValue_iff_value_eq] at *
      exact later_here.trans here.symm
    rw [List.filter_cons, if_pos (decide_eq_true here), none_here, List.getLast?_singleton,
      List.getLast?_nil, Option.some.injEq, or_iff_left nofun, eq_comm]
  · rw [List.filter_cons_of_neg (by rwa [decide_eq_true_eq]), iff_or_self]
    rintro rfl
    exact absurd (Decimal.sameValue_iff_value_eq.2 rfl) here

/-- In ranges that do not descend, those that prevail are the last of every start. -/
theorem mem_lastOfEachStart_iff (sorted : ranges.Pairwise fun a b => a.start ≤ b.start) :
    range ∈ lastOfEachStart ranges ↔ range.Prevails ranges := by
  fun_induction lastOfEachStart ranges with
  | case1 => exact ⟨nofun, nofun⟩
  | case2 first =>
    have alone : ∀ later ∈ ([] : List FeeRange), ¬ later.start.SameValue first.start :=
      fun _ mem => absurd mem List.not_mem_nil
    rw [prevails_cons_of_alone alone, List.mem_singleton, or_iff_left nofun]
  | case3 first next rest same ih =>
    rw [prevails_cons_of_same same]
    exact ih (List.pairwise_cons.1 sorted).2
  | case4 first next rest other ih =>
    have alone (later : FeeRange) (mem : later ∈ next :: rest) :
        ¬ later.start.SameValue first.start := by
      have above := Decimal.lt_iff_value_lt.1 (lt_of_not_sameValue sorted other mem)
      rw [Decimal.sameValue_iff_value_eq]
      exact above.ne'
    rw [prevails_cons_of_alone alone, List.mem_cons, ih (List.pairwise_cons.1 sorted).2]

end LastOfEachStart

/-- The tiers of a list of ranges are the last ranges of every start, in ascending order. -/
theorem tiersOf_tiers (ranges : List FeeRange) : TiersOf ranges (FeeSchedule.tiers ranges) := by
  have sorted : (ranges.mergeSort startsFirst).Pairwise fun a b => a.start ≤ b.start :=
    (List.pairwise_mergeSort startsFirst_trans startsFirst_total ranges).imp of_decide_eq_true
  exact ⟨ascending_lastOfEachStart sorted,
    fun _ => (mem_lastOfEachStart_iff sorted).trans prevails_mergeSort_iff⟩

theorem tiers_eq_nil_iff : FeeSchedule.tiers ranges = [] ↔ ranges = [] := by
  rw [FeeSchedule.tiers, lastOfEachStart_eq_nil_iff]
  have perm := List.mergeSort_perm ranges startsFirst
  exact ⟨fun empty => List.nil_perm.1 (empty ▸ perm), fun empty => List.perm_nil.1 (empty ▸ perm)⟩

end FeeSchedule

/-- A list of ranges has only one list of tiers. -/
theorem TiersOf.unique {ranges tiers others : List FeeRange} (of_tiers : TiersOf ranges tiers)
    (of_others : TiersOf ranges others) : others = tiers := by
  have nodup {list : List FeeRange} (ascending : list.Pairwise fun a b => a.start < b.start) :
      list.Nodup := by
    refine List.Pairwise.imp ?_ ascending
    rintro a _ below rfl
    exact lt_irrefl _ below
  have perm : others.Perm tiers := by
    rw [List.perm_ext_iff_of_nodup (nodup of_others.ascending) (nodup of_tiers.ascending)]
    exact fun range => (of_others.mem_iff range).trans (of_tiers.mem_iff range).symm
  refine List.Perm.eq_of_pairwise ?_ of_others.ascending of_tiers.ascending perm
  exact fun a b _ _ below above => absurd above (lt_asymm below)

/-- What checking some tiers comes to: there are none, none has a flaw, or the first that has one
is named. -/
inductive Checked (tiers : List FeeRange) : Except ConfigError (List FeeRange) → Prop
  | empty (none_left : tiers = []) : Checked tiers (.error .emptyFeeTable)
  | sound (some_left : tiers ≠ []) (all_sound : ∀ tier ∈ tiers, tier.Sound) :
    Checked tiers (.ok tiers)
  | flawed {before rest : List FeeRange} {bad : FeeRange} {flaw : FeeRange.Flaw}
    (split : tiers = before ++ bad :: rest) (sound_before : ∀ tier ∈ before, tier.Sound)
    (bad_flaw : bad.flaw? = some flaw) : Checked tiers (.error (.invalidFeeRange bad.start flaw))

/-- Whether a tier is the one for a price: the highest of those that start at or below it, or the
lowest of all if all start above it. -/
inductive Applies (tiers : List FeeRange) (price : Decimal) (tier : FeeRange) : Prop
  | reached (mem : tier ∈ tiers) (start_le : tier.start ≤ price)
    (highest : ∀ other ∈ tiers, other.start ≤ price → other.start ≤ tier.start)
  | below (mem : tier ∈ tiers) (all_above : ∀ other ∈ tiers, price < other.start)
    (lowest : ∀ other ∈ tiers, tier.start ≤ other.start)

namespace FeeSchedule

variable {ranges tiers : List FeeRange} {tier : FeeRange} {price : Decimal}

theorem checked (tiers : List FeeRange) : Checked tiers (check tiers) := by
  unfold check
  cases tiers with
  | nil => exact .empty rfl
  | cons lowest higher =>
    rw [if_neg (by simp)]
    split
    case h_1 error found =>
      obtain ⟨before, bad, rest, split, of_bad, none_before⟩ := List.findSome?_eq_some_iff.1 found
      obtain ⟨flaw, bad_flaw, rfl⟩ := Option.map_eq_some_iff.1 of_bad
      refine .flawed split (fun tier mem => ?_) bad_flaw
      exact FeeRange.flaw?_eq_none_iff.1 (Option.map_eq_none_iff.1 (none_before tier mem))
    case h_2 none_found =>
      refine .sound (List.cons_ne_nil lowest higher) fun tier mem => ?_
      have no_flaw := List.findSome?_eq_none_iff.1 none_found tier mem
      exact FeeRange.flaw?_eq_none_iff.1 (Option.map_eq_none_iff.1 no_flaw)

/-- The tier that is found for a price is the one that applies. -/
theorem applies_of_tierFor? (ascending : tiers.Pairwise fun a b => a.start < b.start)
    (found : tierFor? tiers price = some tier) : Applies tiers price tier := by
  unfold tierFor? at found
  cases reached : tiers.reverse.find? fun tier => tier.start ≤ price with
  | some highest =>
    rw [reached, Option.some_or, Option.some.injEq] at found
    subst found
    obtain ⟨start_le, higher, lower, reversed, above⟩ :=
      List.find?_eq_some_iff_append.1 reached
    have split : tiers = lower.reverse ++ highest :: higher.reverse := by
      rw [← List.reverse_reverse tiers, reversed]
      simp
    rw [split, List.pairwise_append] at ascending
    refine .reached (by simp [split]) (of_decide_eq_true start_le) fun other mem other_le => ?_
    rw [split, List.mem_append, List.mem_cons] at mem
    rcases mem with below | rfl | is_above
    · exact le_of_lt (ascending.2.2 other below highest List.mem_cons_self)
    · exact le_refl _
    · have := above other (List.mem_reverse.1 is_above)
      simp [other_le] at this
  | none =>
    rw [reached, Option.none_or] at found
    obtain ⟨higher, rfl⟩ := List.head?_eq_some_iff.1 found
    refine .below List.mem_cons_self (fun other mem => ?_) fun other mem => ?_
    · have not_reached := List.find?_eq_none.1 reached other (List.mem_reverse.2 mem)
      exact Decimal.not_le.1 fun le => not_reached (decide_eq_true le)
    · rcases List.mem_cons.1 mem with rfl | later
      · exact le_refl _
      · exact le_of_lt ((List.pairwise_cons.1 ascending).1 other later)

/-- Some tier is found for every price. -/
theorem exists_tierFor? (some_left : tiers ≠ []) (price : Decimal) :
    ∃ tier, tierFor? tiers price = some tier := by
  obtain ⟨lowest, higher, rfl⟩ := List.exists_cons_of_ne_nil some_left
  unfold tierFor?
  cases List.find? _ (lowest :: higher).reverse with
  | some reached => exact ⟨reached, rfl⟩
  | none => exact ⟨lowest, rfl⟩

variable {schedule : FeeSchedule}

/-- The table is what checking the tiers comes to. -/
theorem table_eq (merged : schedule.merged = .ok ranges) :
    schedule.table = (check (FeeSchedule.tiers ranges)).mapError Stop.ofConfig := by
  unfold table
  rw [merged]
  simp only [Stop.ofFault, bind, Except.bind]
  cases check (FeeSchedule.tiers ranges) with
  | ok tiers => rfl
  | error error => rfl

theorem quote_of_table_error {stop : Stop} (no_table : schedule.table = .error stop)
    (price : Decimal) (currency : String) : schedule.quote price currency = .error stop := by
  unfold quote
  rw [no_table]
  rfl

theorem quote_of_table (table_ok : schedule.table = .ok tiers)
    (found : tierFor? tiers price = some tier) (currency : String) :
    schedule.quote price currency = (Stop.ofFault (totalFee tier price)).map fun total =>
      { salePrice := price, currency, fraction := tier.fraction, flat := tier.flat, total } := by
  unfold quote
  rw [table_ok]
  simp only [bind, Except.bind, found]
  cases totalFee tier price with
  | ok total => rfl
  | error fault => rfl

/-- What a schedule answers whose ranges come to some tiers. -/
structure Serves (schedule : FeeSchedule) (ranges tiers : List FeeRange) : Prop where
  /-- The table is empty exactly if no range is left. -/
  empty_iff : schedule.table = .error (.ofConfig .emptyFeeTable) ↔ ranges = []
  /-- The table is the tiers exactly if all of them are acceptable. -/
  sound_iff : ranges ≠ [] → (schedule.table = .ok tiers ↔ ∀ tier ∈ tiers, tier.Sound)
  /-- If some are not, the first of them is named. -/
  flawed : ¬ (∀ tier ∈ tiers, tier.Sound) → ∃ before bad rest flaw,
    tiers = before ++ bad :: rest ∧ (∀ tier ∈ before, tier.Sound) ∧ bad.flaw? = some flaw ∧
      schedule.table = .error (.ofConfig (.invalidFeeRange bad.start flaw))
  /-- Without a table there is no quote. -/
  no_quote : ∀ stop, schedule.table = .error stop →
    ∀ price currency, schedule.quote price currency = .error stop
  /-- With a table a sale owes the fees of the tier for its price. -/
  quote_eq : schedule.table = .ok tiers → ∀ price currency, ∃ tier, Applies tiers price tier ∧
    schedule.quote price currency = (Stop.ofFault (totalFee tier price)).map fun total =>
      { salePrice := price, currency, fraction := tier.fraction, flat := tier.flat, total }

theorem Serves.of_checked {checked : Except ConfigError (List FeeRange)}
    (of_tiers : TiersOf ranges tiers) (nil_iff : tiers = [] ↔ ranges = [])
    (is_checked : Checked tiers checked) (table_is : schedule.table = checked.mapError .ofConfig) :
    schedule.Serves ranges tiers where
  empty_iff := by
    rw [table_is, ← nil_iff]
    cases is_checked with
    | empty none_left => exact ⟨fun _ => none_left, fun _ => rfl⟩
    | sound some_left all_sound => exact ⟨nofun, fun none_left => absurd none_left some_left⟩
    | flawed split sound_before bad_flaw =>
      exact ⟨nofun, fun none_left => by simp [none_left] at split⟩
  sound_iff := by
    intro some_left
    rw [table_is]
    cases is_checked with
    | empty none_left => exact absurd (nil_iff.1 none_left) some_left
    | sound _ all_sound => exact ⟨fun _ => all_sound, fun _ => rfl⟩
    | @flawed before rest bad flaw split sound_before bad_flaw =>
      refine ⟨nofun, fun all_sound => ?_⟩
      have sound := FeeRange.flaw?_eq_none_iff.2 (all_sound bad (by simp [split]))
      rw [sound] at bad_flaw
      cases bad_flaw
  flawed := by
    intro not_sound
    rw [table_is]
    cases is_checked with
    | empty none_left => exact absurd (by simp [none_left]) not_sound
    | sound _ all_sound => exact absurd all_sound not_sound
    | flawed split sound_before bad_flaw =>
      exact ⟨_, _, _, _, split, sound_before, bad_flaw, rfl⟩
  no_quote := fun _ => quote_of_table_error
  quote_eq := by
    intro table_ok price currency
    have some_left : tiers ≠ [] := by
      rintro rfl
      rw [table_is] at table_ok
      cases is_checked with
      | sound some_left _ => exact some_left rfl
      | empty => cases table_ok
      | flawed => cases table_ok
    obtain ⟨tier, found⟩ := exists_tierFor? some_left price
    exact ⟨tier, applies_of_tierFor? of_tiers.ascending found,
      quote_of_table table_ok found currency⟩

/-- A schedule answers by the tiers of what its overrides leave, of which there is one list. -/
theorem serves_tiers (merged : schedule.merged = .ok ranges) :
    (∃! tiers, TiersOf ranges tiers) ∧
      ∀ tiers, TiersOf ranges tiers → schedule.Serves ranges tiers := by
  have of_tiers := tiersOf_tiers ranges
  refine ⟨⟨_, of_tiers, fun others of_others => of_tiers.unique of_others⟩, ?_⟩
  intro others of_others
  rw [of_tiers.unique of_others]
  exact .of_checked of_tiers tiers_eq_nil_iff (checked _) (table_eq merged)

/-- Two sources and an override: the first range has a flaw, but the second source has another one
at the same start, written with another scale. -/
def twoSources : FeeSchedule where
  providers := [[⟨.zero, .whole 3, .whole 15⟩],
    [⟨.ofParts 0 2, .ofParts 4 2, .whole 10⟩, ⟨.whole 500, .ofParts 2 2, .whole 20⟩]]
  overrides := [(FeeEdit.setFlat 2 (.whole 25)).apply]

theorem serves_tiers_twoSources :
    let ranges : List FeeRange := [⟨.zero, .whole 3, .whole 15⟩,
      ⟨.ofParts 0 2, .ofParts 4 2, .whole 10⟩, ⟨.whole 500, .ofParts 2 2, .whole 25⟩]
    twoSources.merged = .ok ranges ∧ twoSources.table = .ok ranges.tail := by
  intro ranges
  have merged : twoSources.merged = .ok ranges := rfl
  have sorted : ranges.mergeSort (fun a b => a.start ≤ b.start) = ranges :=
    List.mergeSort_of_pairwise (by decide)
  have tiers_eq : FeeSchedule.tiers ranges = ranges.tail := by
    rw [FeeSchedule.tiers, sorted]
    decide
  have serves := (serves_tiers merged).2 _ (tiers_eq ▸ tiersOf_tiers ranges)
  refine ⟨merged, (serves.sound_iff nofun).2 ?_⟩
  unfold FeeRange.Sound
  decide

end FeeSchedule

end AuctionHouse
