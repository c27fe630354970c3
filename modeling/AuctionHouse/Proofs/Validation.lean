import AuctionHouse.Validation
import AuctionHouse.Proofs.Decimal.Value

/-!
# Rules that are not broken

No violation is reported exactly if every rule holds, and an item without problems has a positive
starting price and a positive step.
-/

namespace AuctionHouse

namespace Validation

variable {item : Item} {status : PhaseStatus} {standing : Standing} {user : UserId}
  {amount ceiling : Decimal} {kind : BidKind} {field : Field} {enabled : Bool}

theorem when_eq_nil_iff {broken : Prop} [Decidable broken] {rule : Rule} {message : String} :
    when broken rule field message = [] ↔ ¬ broken := by
  unfold when
  split
  · next holds =>
    refine ⟨?_, fun fails => absurd holds fails⟩
    intro impossible
    cases impossible
  · next fails => exact ⟨fun _ => fails, fun _ => rfl⟩

theorem statusViolations_eq_nil_iff : statusViolations item status field = [] ↔
    item.workflow ≠ .notStarted ∧ item.workflow ≠ .finished ∧ item.workflow ≠ .closed ∧
      status.phase ≠ .ended := by
  simp only [statusViolations, List.append_eq_nil_iff, when_eq_nil_iff, not_or, ne_eq, and_assoc]

theorem kindViolations_eq_nil_iff : kindViolations item kind = [] ↔
    kind ≠ .auto ∧ (kind = .standard → item.instantOnly = false) := by
  cases kind <;> simp [kindViolations, when_eq_nil_iff]

theorem bidViolations_eq_nil_iff : bidViolations item status standing user amount kind = [] ↔
    standing.leader? ≠ some user ∧ statusViolations item status .amount = [] ∧
      .zero ≤ amount ∧ standing.minPrice ≤ amount ∧
      (∀ lead ∈ standing.lead, lead.amount ≤ amount) ∧ kindViolations item kind = [] := by
  simp only [bidViolations, List.append_eq_nil_iff, when_eq_nil_iff, not_or, not_exists, not_and,
    Decimal.not_lt, ne_eq, and_assoc]

theorem ceilingViolations_eq_nil_iff :
    ceilingViolations item status standing ceiling enabled = [] ↔
      enabled = true ∧ item.instantOnly = false ∧ statusViolations item status .ceiling = [] ∧
        .zero < ceiling ∧ standing.minPrice < ceiling := by
  simp only [ceilingViolations, List.append_eq_nil_iff, when_eq_nil_iff, Decimal.not_le,
    Bool.not_eq_false, Bool.not_eq_true, and_assoc]

/-- An item that was open for offers is so later, until its time is over. -/
theorem statusViolations_later (valid : statusViolations item status field = [])
    (later : PhaseStatus) : statusViolations item later field =
      when (later.phase = .ended) .expired field
        ("Auction has expired! " ++ item.window.closes.textWithOffset) := by
  obtain ⟨started, unfinished, unclosed, -⟩ := statusViolations_eq_nil_iff.1 valid
  have still_open : ¬ (item.workflow = .finished ∨ item.workflow = .closed) := by
    rintro (finished | closed)
    · exact unfinished finished
    · exact unclosed closed
  rw [statusViolations, when_eq_nil_iff.2 started, when_eq_nil_iff.2 still_open]
  rfl

/-- A bid that was within the rules only breaks later those on the lead, the time and the price. -/
theorem bidViolations_later (valid : bidViolations item status standing user amount kind = [])
    (later : PhaseStatus) (next : Standing) : bidViolations item later next user amount kind =
      when (next.leader? = some user) .selfOutbid .amount
        "You already hold the lead bid. Self outbidding is not allowed." ++
      when (later.phase = .ended) .expired .amount
        ("Auction has expired! " ++ item.window.closes.textWithOffset) ++
      when (amount < next.minPrice ∨ ∃ lead ∈ next.lead, amount < lead.amount)
        .insufficientAmount .amount
        ("This bid is not high enough. Current price is " ++ next.minPrice.text ++ ".") := by
  obtain ⟨-, open_before, nonneg, -, -, kind_valid⟩ := bidViolations_eq_nil_iff.1 valid
  rw [bidViolations, statusViolations_later open_before, when_eq_nil_iff.2 (Decimal.not_lt.2 nonneg),
    kind_valid, List.append_nil, List.append_nil]

/-- A ceiling that was within the rules only breaks later those on the time and the price. -/
theorem ceilingViolations_later
    (valid : ceilingViolations item status standing ceiling enabled = []) (later : PhaseStatus)
    (next : Standing) : ceilingViolations item later next ceiling enabled =
      when (later.phase = .ended) .expired .ceiling
        ("Auction has expired! " ++ item.window.closes.textWithOffset) ++
      when (ceiling ≤ next.minPrice) .ceilingTooLow .ceiling
        ("Your maximum has to be higher than the current highest bid of " ++ next.minPrice.text ++
          ".") := by
  obtain ⟨able, offered, open_before, pos, -⟩ := ceilingViolations_eq_nil_iff.1 valid
  have enabled_now : ¬ enabled = false := by simp [able]
  have not_instant : ¬ item.instantOnly = true := by simp [offered]
  rw [ceilingViolations, statusViolations_later open_before, when_eq_nil_iff.2 enabled_now,
    when_eq_nil_iff.2 not_instant, when_eq_nil_iff.2 (Decimal.not_le.2 pos), List.append_nil,
    List.nil_append, List.nil_append]

theorem buyNowViolations_eq_nil_iff : buyNowViolations item status = [] ↔
    status.isClosed item.workflow = false ∧ item.buyNow? ≠ none := by
  simp only [buyNowViolations, List.append_eq_nil_iff, when_eq_nil_iff, Bool.not_eq_true, ne_eq]

end Validation

theorem Window.phase_eq_ended_iff {window : Window} {now : Instant} :
    (window.statusAt now).phase = .ended ↔ window.closes < now := by
  unfold statusAt
  by_cases opened : window.opens < now <;> by_cases closed : window.closes < now <;>
    simp [opened, closed]

namespace Item

variable {item : Item}

theorem not_affects_of_problems_eq_nil (sound : item.problems = []) (problem : Problem) :
    ¬ problem.Affects item := by
  intro affects
  have mem := mem_problems.2 affects
  rw [sound] at mem
  cases mem

theorem startingPrice_pos (sound : item.problems = []) : 0 < item.startingPrice.value := by
  have not_negative := not_affects_of_problems_eq_nil sound .negativePrice
  have not_zero := not_affects_of_problems_eq_nil sound .startingPriceZero
  simp only [Problem.Affects, not_or] at not_negative not_zero
  have nonneg := not_negative.1
  rw [Decimal.not_lt, Decimal.le_iff_value_le, Decimal.value_zero] at nonneg
  rcases nonneg.lt_or_eq with pos | zero
  · exact pos
  · have magnitude_eq := Decimal.abs_value item.startingPrice
    rw [← zero, abs_zero, eq_comm, div_eq_zero_iff] at magnitude_eq
    rcases magnitude_eq with magnitude | power
    · exact absurd (Nat.cast_eq_zero.1 magnitude) not_zero
    · exact absurd power (tenTo_cast_pos _).ne'

theorem window_wellFormed (sound : item.problems = []) : item.window.WellFormed :=
  not_not.1 (not_affects_of_problems_eq_nil sound .malformedWindow)

theorem bidStep_pos (sound : item.problems = []) : 0 < item.bidStep.value := by
  have positive := not_affects_of_problems_eq_nil sound .nonPositiveBidStep
  simp only [Problem.Affects, Decimal.not_le, Decimal.lt_iff_value_lt, Decimal.value_zero]
    at positive
  exact positive

end Item

end AuctionHouse
