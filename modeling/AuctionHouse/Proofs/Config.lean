import AuctionHouse.Node.Settings
import AuctionHouse.Proofs.Fee.Tiers

/-!
# The fees of an accepted configuration

A configuration is checked when it is read: all its fee ranges are acceptable.  Its fee table is
checked whenever it is used: there are tiers, and all of them are acceptable.  The tiers are some of
the ranges, so a house with an accepted configuration that sets a range has a fee table
(`ConfigTable`).  One that sets none is accepted too and has no table (`no_ranges_accepted`).
-/

namespace AuctionHouse

/-- A range that prevails is one of the ranges. -/
theorem FeeRange.Prevails.mem {range : FeeRange} {ranges : List FeeRange}
    (prevails : range.Prevails ranges) : range ∈ ranges :=
  (List.mem_filter.1 (List.mem_of_getLast? prevails)).1

namespace Config

variable {config : Config}

/-- A configuration is valid exactly if its listings show a bid and all its ranges are
acceptable. -/
theorem validate_eq_ok_iff {checked : Config} : config.validate = .ok checked ↔
    checked = config ∧ config.listingLength ≠ 0 ∧ ∀ range ∈ config.feeRanges, range.Sound := by
  unfold validate
  split
  · next empty => exact ⟨nofun, fun valid => absurd empty valid.2.1⟩
  · next shown =>
    split
    · next error found =>
      obtain ⟨range, mem, of_range⟩ := List.exists_of_findSome?_eq_some found
      obtain ⟨flaw, bad, -⟩ := Option.map_eq_some_iff.1 of_range
      refine ⟨nofun, fun valid => ?_⟩
      rw [FeeRange.flaw?_eq_none_iff.2 (valid.2.2 range mem)] at bad
      cases bad
    · next none_found =>
      have sound (range : FeeRange) (mem : range ∈ config.feeRanges) : range.Sound :=
        FeeRange.flaw?_eq_none_iff.1
          (Option.map_eq_none_iff.1 (List.findSome?_eq_none_iff.1 none_found range mem))
      exact ⟨fun valid => ⟨(Except.ok.inj valid).symm, shown, sound⟩,
        fun valid => congrArg Except.ok valid.1.symm⟩

/-- The configurations that are accepted: valid ones, those that are loaded, and those in the
settings of a node that are loaded. -/
inductive Accepted : Config → Prop
  | valid {config checked : Config} (valid : config.validate = .ok checked) : Accepted config
  | loaded {source : ConfigSource} {config : Config} (loaded : load source = .ok config) :
    Accepted config
  | ofNode {source : ConfigSource} {settings : NodeSettings}
    (loaded : NodeSettings.load source = .ok settings) : Accepted settings.house

/-- The house of settings that are loaded is valid. -/
theorem exists_validate_of_node {source : ConfigSource} {settings : NodeSettings}
    (loaded : NodeSettings.load source = .ok settings) :
    ∃ checked, settings.house.validate = .ok checked := by
  cases source with
  | missing path => cases loaded
  | text contents =>
    change NodeSettings.ofToml contents = .ok settings at loaded
    unfold NodeSettings.ofToml at loaded
    split at loaded
    · cases loaded
    · split at loaded
      · next checked valid =>
        cases loaded
        exact ⟨checked, valid⟩
      · cases loaded

/-- However a configuration is accepted, its ranges are acceptable. -/
theorem Accepted.sound (accepted : config.Accepted) {range : FeeRange}
    (mem : range ∈ config.feeRanges) : range.Sound := by
  obtain ⟨checked, valid⟩ : ∃ checked, config.validate = .ok checked := by
    cases accepted with
    | valid valid => exact ⟨_, valid⟩
    | loaded loaded => exact ⟨_, validate_of_load loaded⟩
    | ofNode loaded => exact exists_validate_of_node loaded
  exact (validate_eq_ok_iff.1 valid).2.2 range mem

end Config

/-- The ranges of a single source are left as they are. -/
theorem FeeSchedule.merged_ofRanges (ranges : List FeeRange) :
    (FeeSchedule.ofRanges ranges).merged = .ok ranges := by
  simp only [merged, ofRanges, List.foldlM_nil, List.flatten_singleton]
  rfl

/-- What a schedule answers whose only ranges are those of a configuration. -/
structure ConfigTable (config : Config) (fees : FeeSchedule) : Prop where
  /-- With ranges there is a table, and a sale owes the fees of the tier for its price. -/
  served : config.feeRanges ≠ [] → ∃ tiers, TiersOf config.feeRanges tiers ∧
    fees.table = .ok tiers ∧ ∀ price currency, ∃ tier, Applies tiers price tier ∧
      fees.quote price currency = (Stop.ofFault (FeeSchedule.totalFee tier price)).map fun total =>
        { salePrice := price, currency, fraction := tier.fraction, flat := tier.flat, total }
  /-- Without ranges there is no table. -/
  no_table : config.feeRanges = [] → fees.table = .error (.ofConfig .emptyFeeTable)
  /-- The configuration is a reason to refuse a quote only if it has no ranges. -/
  refused_iff : ∀ price currency error, fees.quote price currency = .error (.ofConfig error) ↔
    config.feeRanges = [] ∧ error = .emptyFeeTable

namespace House

/-- A house with an accepted configuration and no other source of fees has a fee table exactly if
the configuration sets a range, and then no quote is refused for the configuration. -/
theorem configured_fees {config : Config} (accepted : config.Accepted) :
    ConfigTable config (House.ofConfig config).fees := by
  have merged : (House.ofConfig config).fees.merged = .ok config.feeRanges :=
    FeeSchedule.merged_ofRanges config.feeRanges
  have of_tiers := FeeSchedule.tiersOf_tiers config.feeRanges
  have serves : (House.ofConfig config).fees.Serves config.feeRanges _ :=
    .of_checked of_tiers FeeSchedule.tiers_eq_nil_iff (FeeSchedule.checked _)
      (FeeSchedule.table_eq merged)
  have served (some_range : config.feeRanges ≠ []) :
      (House.ofConfig config).fees.table = .ok (FeeSchedule.tiers config.feeRanges) :=
    (serves.sound_iff some_range).2 fun tier mem =>
      accepted.sound ((of_tiers.mem_iff tier).1 mem).mem
  refine ⟨fun some_range => ⟨_, of_tiers, served some_range, ?_⟩, serves.empty_iff.2, ?_⟩
  · exact serves.quote_eq (served some_range)
  · intro price currency error
    by_cases none_set : config.feeRanges = []
    · rw [serves.no_quote _ (serves.empty_iff.2 none_set), and_iff_right none_set]
      exact ⟨fun same => by cases same; rfl, fun same => by rw [same]⟩
    · refine ⟨fun refused => ?_, fun none => absurd none.1 none_set⟩
      obtain ⟨tier, -, quoted⟩ := serves.quote_eq (served none_set) price currency
      rw [quoted] at refused
      cases computed : FeeSchedule.totalFee tier price with
      | ok total =>
        rw [computed] at refused
        cases refused
      | error fault =>
        rw [computed] at refused
        cases refused

theorem configured_fees_twoRanges :
    let ranges : List FeeRange :=
      [⟨.zero, .ofParts 3 2, .zero⟩, ⟨.ofParts 0 2, .ofParts 2 2, .whole 5⟩]
    let config : Config := { feeRanges := ranges }
    let file := "fee_ranges = [[\"0\", \"0.03\", \"0\"], [\"0.00\", \"0.02\", \"5\"]]"
    Config.load (.text file) = .ok config ∧
      (House.ofConfig config).fees.table = .ok ranges.tail ∧
      ∀ price currency error,
        (House.ofConfig config).fees.quote price currency ≠ .error (.ofConfig error) := by
  intro ranges config file
  have loaded : Config.load (.text file) = .ok config := by decide +kernel
  have sorted : ranges.mergeSort (fun a b => a.start ≤ b.start) = ranges :=
    List.mergeSort_of_pairwise (by decide)
  have tiers_eq : FeeSchedule.tiers ranges = ranges.tail := by
    rw [FeeSchedule.tiers, sorted]
    decide
  have fees := configured_fees (.loaded loaded)
  have some_range : ranges ≠ [] := List.cons_ne_nil _ _
  obtain ⟨tiers, of_tiers, table, -⟩ := fees.served some_range
  refine ⟨loaded, ?_, fun price currency error refused => ?_⟩
  · rw [table, (FeeSchedule.tiersOf_tiers ranges).unique of_tiers, tiers_eq]
  · exact some_range ((fees.refused_iff price currency error).1 refused).1

/-- A configuration that sets no ranges is accepted from a file, and its house quotes no fee. -/
theorem no_ranges_accepted :
    let config : Config := { feeRanges := [] }
    Config.load (.text "fee_ranges = []") = .ok config ∧
      (House.ofConfig config).fees.quote (.whole 100) "USD" =
        .error (.ofConfig .emptyFeeTable) := by
  decide +kernel

end House

end AuctionHouse
