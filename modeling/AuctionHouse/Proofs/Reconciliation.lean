import AuctionHouse.Proofs.Settlement

/-!
# Two ceilings at a price

What a settlement of two ceilings has to be at a price that both are above, whatever the step
(`Fair`), and that it is (`fair_flooredAt`).  Ceilings that differ are settled by the lower and the
higher one alone, so that it does not matter whose they are (`reconcile_comm`).  Equal ones are
settled for the caller, and only the other side depends on the step.
-/

namespace AuctionHouse.Settlement

/-- The same amounts with the sides exchanged. -/
def exchanged (settlement : Settlement) : Settlement :=
  { settlement with leader := settlement.leader.other }

theorem amountOf_exchanged (settlement : Settlement) (side : Side) :
    settlement.exchanged.amountOf side = settlement.amountOf side.other := by
  obtain ⟨leader, leading, trailing⟩ := settlement
  cases leader <;> cases side <;> rfl

/-- What a settlement of two ceilings has to be at a price that both are above. -/
structure Fair (settlement : Settlement) (caller rival step price : Decimal) : Prop where
  leader_iff : settlement.leader = .caller ↔ rival ≤ caller
  caller_bounds : price ≤ settlement.amountOf .caller ∧ settlement.amountOf .caller ≤ caller
  rival_bounds : price ≤ settlement.amountOf .rival ∧ settlement.amountOf .rival ≤ rival
  trailing_le : settlement.trailing ≤ settlement.leading
  price_lt : price < settlement.leading
  leading_eq : ¬ (min caller rival).SumOverflows step →
    ∃ sum, (min caller rival).add step = .ok sum ∧
      settlement.leading.SameValue (min sum (max caller rival)).roundCents
  /-- Of equal ceilings all is bid, also if there is no room for a step above them. -/
  leading_of_tied : caller.SameValue rival → settlement.leading.SameValue caller
  trailing_of_differ : ¬ caller.SameValue rival →
    settlement.trailing.SameValue (min caller rival)

variable {caller rival step price : Decimal} {settlement : Settlement}

/-- Ceilings that differ come to the same amounts whichever of them is the caller's. -/
theorem reconcile_comm (differ : ¬ caller.SameValue rival) :
    reconcile rival caller step = (reconcile caller rival step).map exchanged := by
  have leader_eq : (if rival < caller then Side.rival else .caller) =
      (if caller < rival then Side.rival else .caller).other := by
    rcases Decimal.lt_or_lt_of_differ differ with less | more
    · rw [if_pos less, if_neg (Decimal.not_lt.2 (Decimal.le_of_lt less))]
      rfl
    · rw [if_pos more, if_neg (Decimal.not_lt.2 (Decimal.le_of_lt more))]
      rfl
  rw [reconcile_of_differ differ, reconcile_of_differ fun tied => differ tied.symm, leader_eq,
    Decimal.min_comm_of_differ differ, Decimal.max_comm_of_differ differ]
  cases (min rival caller).add step <;> rfl

/-- Two ceilings are settled exactly if they are equal or a step is not too much for the lower
one. -/
theorem exists_reconcile_iff (caller_nonneg : 0 ≤ caller.value) (step_nonneg : 0 ≤ step.value) :
    (∃ settlement, reconcile caller rival step = .ok settlement) ↔
      (¬ caller.SameValue rival → ¬ (min caller rival).SumOverflows step) := by
  have failed_iff {fault : Fault} :=
    @reconcile_eq_error_iff step caller rival fault caller_nonneg step_nonneg
  cases outcome : reconcile caller rival step with
  | ok settlement =>
    refine iff_of_true ⟨settlement, rfl⟩ fun differ overflows => ?_
    rw [failed_iff.2 ⟨rfl, differ, overflows⟩] at outcome
    cases outcome
  | error fault =>
    obtain ⟨-, differ, overflows⟩ := failed_iff.1 outcome
    exact iff_of_false nofun fun fits => fits differ overflows

theorem leader_reconcile_iff (settled : reconcile caller rival step = .ok settlement) :
    settlement.leader = .caller ↔ rival ≤ caller := by
  obtain ⟨tied, below, -, rfl⟩ | ⟨less, sum, -, rfl⟩ | ⟨more, sum, -, rfl⟩ :=
    reconcile_eq_ok_iff.1 settled
  · exact iff_of_true rfl (Decimal.le_iff_value_le.2 tied.ge)
  · exact iff_of_false nofun (Decimal.not_le.2 less)
  · exact iff_of_true rfl (Decimal.le_of_lt more)

/-- Who leads does not bid less than the other side, also if the step is lost in rounding. -/
theorem trailing_le_leading_reconcile (caller_nonneg : 0 ≤ caller.value)
    (step_nonneg : 0 ≤ step.value) (settled : reconcile caller rival step = .ok settlement) :
    settlement.trailing ≤ settlement.leading := by
  have capped {lower higher sum : Decimal} (less : lower < higher)
      (added : lower.add step = .ok sum) : lower.roundCents ≤ (min higher sum).roundCents := by
    have raised := Decimal.le_add added step_nonneg
    exact Decimal.roundCents_le_roundCents (Decimal.le_min (Decimal.le_of_lt less) raised)
  obtain ⟨-, below, taken, rfl⟩ | ⟨less, sum, added, rfl⟩ | ⟨more, sum, added, rfl⟩ :=
    reconcile_eq_ok_iff.1 settled
  · have lowered := Decimal.sub_le taken step_nonneg
    refine Decimal.roundCents_le_roundCents (Decimal.max_le lowered ?_)
    rwa [Decimal.le_iff_value_le, Decimal.value_zero]
  · exact capped less added
  · exact capped more added

/-- Who leads bids a step above the lower ceiling, but not more than the higher one. -/
theorem sameValue_leading_reconcile {sum : Decimal} (step_nonneg : 0 ≤ step.value)
    (settled : reconcile caller rival step = .ok settlement)
    (added : (min caller rival).add step = .ok sum) :
    settlement.leading.SameValue (min sum (max caller rival)).roundCents := by
  by_cases tied : caller.SameValue rival
  · rw [reconcile_of_tied tied, bind_eq_ok_iff] at settled
    obtain ⟨below, -, done⟩ := settled
    cases done
    -- No step is added, but with one the amount would be cut to the ceiling again.
    apply Decimal.sameValue_roundCents
    have raised := Decimal.le_add added step_nonneg
    rw [Decimal.sameValue_iff_value_eq] at tied ⊢
    rw [Decimal.le_iff_value_le, Decimal.value_min, tied, min_self] at raised
    rw [Decimal.value_min, Decimal.value_max, tied, max_self, min_eq_right raised]
  · rw [reconcile_of_differ tied, added] at settled
    cases settled
    apply Decimal.sameValue_roundCents
    rw [Decimal.sameValue_iff_value_eq, Decimal.value_min, Decimal.value_min, min_comm]

theorem sameValue_leading_of_tied (wholeCaller : caller.IsCents) (tied : caller.SameValue rival)
    (settled : reconcile caller rival step = .ok settlement) :
    settlement.leading.SameValue caller := by
  rw [reconcile_of_tied tied, bind_eq_ok_iff] at settled
  obtain ⟨below, -, done⟩ := settled
  cases done
  exact Decimal.isCents_iff_sameValue.1 wholeCaller

/-- Who has the lower ceiling bids all of it. -/
theorem sameValue_trailing_reconcile (wholeCaller : caller.IsCents) (wholeRival : rival.IsCents)
    (differ : ¬ caller.SameValue rival) (settled : reconcile caller rival step = .ok settlement) :
    settlement.trailing.SameValue (min caller rival) := by
  rw [reconcile_of_differ differ, bind_eq_ok_iff] at settled
  obtain ⟨sum, -, done⟩ := settled
  cases done
  exact Decimal.isCents_iff_sameValue.1 (wholeCaller.min wholeRival)

/-- The settlement of two ceilings in whole cents is what it has to be at a price below them. -/
theorem fair_flooredAt (wholeCaller : caller.IsCents) (wholeRival : rival.IsCents)
    (price_nonneg : 0 ≤ price.value) (below_caller : price < caller) (below_rival : price < rival)
    (step_nonneg : 0 ≤ step.value) (settled : reconcile caller rival step = .ok settlement) :
    (settlement.flooredAt price).Fair caller rival step price := by
  have caller_nonneg : 0 ≤ caller.value :=
    price_nonneg.trans (Decimal.lt_iff_value_lt.1 below_caller).le
  have rival_nonneg : 0 ≤ rival.value :=
    price_nonneg.trans (Decimal.lt_iff_value_lt.1 below_rival).le
  obtain ⟨caller_le, rival_le⟩ :=
    amountOf_reconcile_le wholeCaller wholeRival rival_nonneg step_nonneg settled
  have price_lt := lt_leading_reconcile wholeCaller wholeRival step_nonneg settled below_caller
    below_rival
  have leading_eq := leading_flooredAt price_lt
  have leader_iff := leader_reconcile_iff settled
  constructor
  case leader_iff => exact leader_iff
  case caller_bounds => exact flooredAt_bounds caller_le below_caller
  case rival_bounds => exact flooredAt_bounds rival_le below_rival
  case trailing_le =>
    have trailing_le := trailing_le_leading_reconcile caller_nonneg step_nonneg settled
    rw [leading_eq]
    exact Decimal.max_le trailing_le (Decimal.le_of_lt price_lt)
  case price_lt => exact leading_eq.symm ▸ price_lt
  case leading_eq =>
    intro fits
    obtain ⟨sum, added⟩ := Decimal.exists_add_iff.2 fits
    exact ⟨sum, added, leading_eq.symm ▸ sameValue_leading_reconcile step_nonneg settled added⟩
  case leading_of_tied =>
    exact fun tied => leading_eq.symm ▸ sameValue_leading_of_tied wholeCaller tied settled
  case trailing_of_differ =>
    intro differ
    have trailing_eq := sameValue_trailing_reconcile wholeCaller wholeRival differ settled
    rw [Decimal.lt_iff_value_lt] at below_caller below_rival
    rw [Decimal.sameValue_iff_value_eq, Decimal.value_min] at trailing_eq ⊢
    rw [flooredAt, Decimal.value_max, trailing_eq]
    exact max_eq_left (lt_min below_caller below_rival).le

/-- Two ceilings in whole cents come to a fair settlement at any price below them, unless they
differ and a step is too much for the lower one.  Ceilings that differ come to the same amounts if
caller and rival change places.  The settlement is written as two automatic bids, the leader's
first. -/
theorem ceilings_reconciled (wholeCaller : caller.IsCents) (wholeRival : rival.IsCents)
    (price_nonneg : Decimal.zero ≤ price) (below_caller : price < caller)
    (below_rival : price < rival) (step_pos : Decimal.zero < step)
    (fits : ¬ caller.SameValue rival → ¬ (min caller rival).SumOverflows step) :
    ∃ settlement, reconcile caller rival step = .ok settlement ∧
      (settlement.flooredAt price).Fair caller rival step price ∧
      (¬ caller.SameValue rival → ∃ other, reconcile rival caller step = .ok other ∧
        other.flooredAt price = (settlement.flooredAt price).exchanged ∧
        ∀ side, (other.flooredAt price).amountOf side =
          (settlement.flooredAt price).amountOf side.other) ∧
      ∀ (item : ItemId) (round : Round) (callerId rivalId : UserId) (now : Instant),
        let floored := settlement.flooredAt price
        floored.bids item round callerId rivalId now =
          [{ item, user := floored.leader.user callerId rivalId, amount := floored.leading,
             kind := .auto, offer := .notApplicable, round, createdAt := now },
           { item, user := floored.leader.other.user callerId rivalId, amount := floored.trailing,
             kind := .auto, offer := .notApplicable, round, createdAt := now }] := by
  rw [Decimal.le_iff_value_le, Decimal.value_zero] at price_nonneg
  rw [Decimal.lt_iff_value_lt, Decimal.value_zero] at step_pos
  have caller_nonneg : 0 ≤ caller.value :=
    price_nonneg.trans (Decimal.lt_iff_value_lt.1 below_caller).le
  obtain ⟨settlement, settled⟩ := (exists_reconcile_iff caller_nonneg step_pos.le).2 fits
  refine ⟨settlement, settled, ?_, ?_, ?_⟩
  · exact fair_flooredAt wholeCaller wholeRival price_nonneg below_caller below_rival step_pos.le
      settled
  · intro differ
    refine ⟨settlement.exchanged, ?_, rfl, amountOf_exchanged (settlement.flooredAt price)⟩
    rw [reconcile_comm differ, settled]
    rfl
  · intro item round callerId rivalId now floored
    exact bids_eq floored item round callerId rivalId now

/-- A step in fractions of a cent, above a price that is not in whole cents. -/
theorem ceilings_reconciled_fraction :
    let caller : Decimal := .ofParts 12050 2
    let rival : Decimal := .whole 100
    let step : Decimal := .ofParts 3335 3
    let price : Decimal := .ofParts 95001 3
    let evening := (Instant.ofSeconds? 64800 0 (by decide)).get (by decide +kernel)
    let settlement : Settlement := ⟨.caller, .ofParts 10334 2, .whole 100⟩
    (caller.IsCents ∧ rival.IsCents ∧ Decimal.zero ≤ price ∧ price < caller ∧ price < rival ∧
      Decimal.zero < step ∧
      (¬ caller.SameValue rival → ¬ (min caller rival).SumOverflows step)) ∧
    reconcile caller rival step = .ok settlement ∧
    settlement.Fair caller rival step price ∧
    (∃ other, reconcile rival caller step = .ok other ∧
      other.flooredAt price = settlement.exchanged ∧
      ∀ side, (other.flooredAt price).amountOf side = settlement.amountOf side.other) ∧
    settlement.bids 1 2 7 8 evening =
      [autoBid 1 2 7 (.ofParts 10334 2) evening, autoBid 1 2 8 (.whole 100) evening] := by
  intro caller rival step price evening settlement
  have wholeCaller : caller.IsCents := Decimal.isCents_of_scale_le (by decide)
  have wholeRival : rival.IsCents := Decimal.isCents_of_scale_le (by decide)
  have fits : ¬ (min caller rival).SumOverflows step :=
    Decimal.exists_add_iff.1 ⟨.ofParts 103335 3, by decide +kernel⟩
  have outcome : reconcile caller rival step = .ok settlement := by decide +kernel
  have floored_eq : settlement.flooredAt price = settlement := by decide +kernel
  obtain ⟨settlement', settled, fair, exchange, bids_eq⟩ := ceilings_reconciled wholeCaller
    wholeRival (by decide : Decimal.zero ≤ price) (by decide : price < caller)
    (by decide : price < rival) (by decide : Decimal.zero < step) fun _ => fits
  rw [outcome] at settled
  cases settled
  rw [floored_eq] at fair exchange bids_eq
  exact ⟨⟨wholeCaller, wholeRival, by decide, by decide, by decide, by decide, fun _ => fits⟩,
    outcome, fair, exchange (by decide), bids_eq 1 2 7 8 evening⟩

end AuctionHouse.Settlement
