import AuctionHouse.Proofs.Decimal.Overflow
import AuctionHouse.Proofs.Rival

/-!
# What ceilings come to

Whatever a settlement, a counter or an opening bid comes to is within the ceilings it is made of.
If the ceilings and the step are whole cents with room for their sum, the amounts are those that the
rules name, to the cent.
-/

namespace AuctionHouse

/-- A computation in two steps succeeds with what its steps come to. -/
theorem bind_eq_ok_iff {ε α β : Type} {first : Except ε α} {next : α → Except ε β} {result : β} :
    first >>= next = .ok result ↔ ∃ value, first = .ok value ∧ next value = .ok result := by
  cases first with
  | error failure =>
    constructor
    · intro impossible
      cases impossible
    · rintro ⟨value, impossible, -⟩
      cases impossible
  | ok value =>
    constructor
    · exact fun h => ⟨value, rfl, h⟩
    · rintro ⟨value', same, h⟩
      cases same
      exact h

/-- A computation in two steps fails with what the first of them fails with that does. -/
theorem bind_eq_error_iff {ε α β : Type} {first : Except ε α} {next : α → Except ε β}
    {failure : ε} : first >>= next = .error failure ↔
      first = .error failure ∨ ∃ value, first = .ok value ∧ next value = .error failure := by
  cases first with
  | error other =>
    constructor
    · intro failed
      cases failed
      exact .inl rfl
    · rintro (same | ⟨value, impossible, -⟩)
      · cases same
        rfl
      · cases impossible
  | ok value =>
    constructor
    · exact fun failed => .inr ⟨value, rfl, failed⟩
    · rintro (impossible | ⟨value', same, failed⟩)
      · cases impossible
      · cases same
        exact failed

/-- A sum that is only wrapped up fails exactly if it overflows. -/
theorem add_bind_eq_error_iff {β : Type} {a b : Decimal} {wrap : Decimal → β} {fault : Fault} :
    (a.add b >>= fun sum => .ok (wrap sum)) = .error fault ↔
      fault = .sumTooLarge ∧ a.SumOverflows b := by
  rw [bind_eq_error_iff, Decimal.add_eq_error_iff]
  constructor
  · rintro (overflows | ⟨sum, -, impossible⟩)
    · exact overflows
    · cases impossible
  · exact .inl

/-- The user of a side. -/
def Side.user (side : Side) (caller rival : UserId) : UserId :=
  match side with
  | .caller => caller
  | .rival => rival

namespace Settlement

variable {amount ceiling step price : Decimal}

/-- A step more in whole cents is exact and in whole cents if there is room. -/
theorem exists_sum (wholeAmount : amount.IsCents) (wholeStep : step.IsCents)
    (amount_nonneg : 0 ≤ amount.value) (step_nonneg : 0 ≤ step.value)
    (room : amount.value + step.value < Decimal.centsLimit) :
    ∃ sum, amount.add step = .ok sum ∧ sum.IsCents ∧ sum.value = amount.value + step.value := by
  have sum_nonneg : 0 ≤ amount.value + step.value := by linarith
  exact Decimal.add_of_isCents wholeAmount wholeStep (by rwa [abs_of_nonneg sum_nonneg])

/-- The lesser of two amounts in whole cents is not changed by rounding. -/
theorem value_roundCents_min {a b : Decimal} (wholeA : a.IsCents) (wholeB : b.IsCents) :
    (min a b).roundCents.value = min a.value b.value := by
  rw [Decimal.value_roundCents (wholeA.min wholeB), Decimal.value_min]

/-- A step more, but not more than the ceiling, is within the ceiling. -/
theorem capped_sum_le {sum : Decimal} (wholeCeiling : ceiling.IsCents) :
    (min sum ceiling).roundCents ≤ ceiling := by
  exact Decimal.roundCents_le wholeCeiling (Decimal.min_le_right _ _)

/-- A step more, but not more than a ceiling above the amount, is not below the amount. -/
theorem le_capped_sum {sum : Decimal} (wholeAmount : amount.IsCents)
    (added : amount.add step = .ok sum) (step_nonneg : 0 ≤ step.value) (above : amount ≤ ceiling) :
    amount ≤ (min sum ceiling).roundCents := by
  have raised := Decimal.le_add added step_nonneg
  exact Decimal.le_roundCents wholeAmount (Decimal.le_min raised above)

theorem counterAmount_eq_some_iff {counter : Decimal} :
    counterAmount amount ceiling step = .ok (some counter) ↔
      amount < ceiling ∧ ∃ sum, amount.add step = .ok sum ∧
        counter = (min sum ceiling).roundCents := by
  unfold counterAmount
  split
  · next beaten =>
    constructor
    · intro impossible
      cases impossible
    · exact fun h => absurd beaten (Decimal.not_le.2 h.1)
  · next able =>
    rw [bind_eq_ok_iff]
    constructor
    · rintro ⟨sum, added, capped⟩
      cases capped
      exact ⟨Decimal.not_le.1 able, sum, added, rfl⟩
    · rintro ⟨-, sum, added, rfl⟩
      exact ⟨sum, added, rfl⟩

theorem counterAmount_eq_none_iff :
    counterAmount amount ceiling step = .ok none ↔ ceiling ≤ amount := by
  unfold counterAmount
  split
  · next beaten => exact ⟨fun _ => beaten, fun _ => rfl⟩
  · next able =>
    rw [bind_eq_ok_iff]
    constructor
    · rintro ⟨sum, -, impossible⟩
      cases impossible
    · exact fun beaten => absurd beaten able

theorem counterAmount_eq_error_iff {fault : Fault} :
    counterAmount amount ceiling step = .error fault ↔
      fault = .sumTooLarge ∧ amount < ceiling ∧ amount.SumOverflows step := by
  unfold counterAmount
  split
  · next beaten => exact ⟨nofun, fun h => absurd beaten (Decimal.not_le.2 h.2.1)⟩
  · next able =>
    exact add_bind_eq_error_iff.trans
      (and_congr_right fun _ => (and_iff_right (Decimal.not_le.1 able)).symm)

theorem openingAmount_eq_error_iff {fault : Fault} :
    openingAmount price ceiling step = .error fault ↔
      fault = .sumTooLarge ∧ price.SumOverflows step :=
  add_bind_eq_error_iff

theorem openingAmount_eq_ok_iff {opening : Decimal} :
    openingAmount price ceiling step = .ok opening ↔
      ∃ sum, price.add step = .ok sum ∧ opening = (min sum ceiling).roundCents := by
  unfold openingAmount
  rw [bind_eq_ok_iff]
  constructor
  · rintro ⟨sum, added, capped⟩
    cases capped
    exact ⟨sum, added, rfl⟩
  · rintro ⟨sum, added, rfl⟩
    exact ⟨sum, added, rfl⟩

section Reconcile

variable {caller rival : Decimal} {settlement : Settlement}

theorem reconcile_eq (caller rival step : Decimal) : reconcile caller rival step =
    if caller.SameValue rival then
      caller.sub step >>= fun below =>
        .ok ⟨.caller, caller.roundCents, (max below .zero).roundCents⟩
    else if caller < rival then
      caller.add step >>= fun sum => .ok ⟨.rival, (min rival sum).roundCents, caller.roundCents⟩
    else
      rival.add step >>= fun sum =>
        .ok ⟨.caller, (min caller sum).roundCents, rival.roundCents⟩ := by
  unfold reconcile overbid
  cases caller.add step <;> cases rival.add step <;> rfl

/-- The three ways in which two ceilings are settled. -/
theorem reconcile_eq_ok_iff : reconcile caller rival step = .ok settlement ↔
    (caller.value = rival.value ∧ ∃ below, caller.sub step = .ok below ∧
      settlement = ⟨.caller, caller.roundCents, (max below .zero).roundCents⟩) ∨
    (caller < rival ∧ ∃ sum, caller.add step = .ok sum ∧
      settlement = ⟨.rival, (min rival sum).roundCents, caller.roundCents⟩) ∨
    (rival < caller ∧ ∃ sum, rival.add step = .ok sum ∧
      settlement = ⟨.caller, (min caller sum).roundCents, rival.roundCents⟩) := by
  simp only [reconcile_eq, Decimal.sameValue_iff_value_eq, Decimal.lt_iff_value_lt]
  rcases lt_trichotomy caller.value rival.value with below | same | above
  · simp only [below.ne, if_false, below, if_true, bind_eq_ok_iff, not_lt_of_gt below, false_and,
      true_and, false_or, or_false, Except.ok.injEq, @eq_comm _ settlement]
  · simp only [same, lt_self_iff_false, if_true, bind_eq_ok_iff, true_and, false_and, or_false,
      Except.ok.injEq, @eq_comm _ settlement]
  · simp only [above.ne', if_false, above, bind_eq_ok_iff, not_lt_of_gt above, false_and,
      true_and, false_or, Except.ok.injEq, @eq_comm _ settlement]

/-- Ceilings of one value are settled for the caller, and the rival stays a step below. -/
theorem reconcile_of_tied (tied : caller.SameValue rival) : reconcile caller rival step =
    caller.sub step >>= fun below =>
      .ok ⟨.caller, caller.roundCents, (max below .zero).roundCents⟩ := by
  rw [reconcile_eq, if_pos tied]

/-- Ceilings that differ are settled by which of them is the lower one. -/
theorem reconcile_of_differ (differ : ¬ caller.SameValue rival) : reconcile caller rival step =
    (min caller rival).add step >>= fun sum =>
      .ok ⟨if caller < rival then .rival else .caller,
        (min (max caller rival) sum).roundCents, (min caller rival).roundCents⟩ := by
  rw [reconcile_eq, if_neg differ]
  rcases Decimal.lt_or_lt_of_differ differ with less | more
  · rw [if_pos less, Decimal.min_of_le (Decimal.le_of_lt less), Decimal.max_of_lt less]
    simp only [if_pos less]
  · have not_less : ¬ caller < rival := Decimal.not_lt.2 (Decimal.le_of_lt more)
    rw [if_neg not_less, Decimal.min_of_lt more, Decimal.max_of_le (Decimal.le_of_lt more)]
    simp only [if_neg not_less]

/-- Two ceilings are not settled exactly if they differ and a step is too much for the lower one. -/
theorem reconcile_eq_error_iff {fault : Fault} (caller_nonneg : 0 ≤ caller.value)
    (step_nonneg : 0 ≤ step.value) : reconcile caller rival step = .error fault ↔
      fault = .sumTooLarge ∧ ¬ caller.SameValue rival ∧ (min caller rival).SumOverflows step := by
  by_cases tied : caller.SameValue rival
  · obtain ⟨below, taken⟩ := Decimal.exists_sub_of_nonneg caller_nonneg step_nonneg
    rw [reconcile_of_tied tied, taken]
    exact ⟨nofun, fun h => absurd tied h.2.1⟩
  · rw [reconcile_of_differ tied, add_bind_eq_error_iff]
    exact and_congr_right fun _ => (and_iff_right tied).symm

theorem amountOf_flooredAt (settlement : Settlement) (price : Decimal) (side : Side) :
    (settlement.flooredAt price).amountOf side = max (settlement.amountOf side) price := by
  unfold amountOf flooredAt
  split <;> rfl

theorem isCents_reconcile (settled : reconcile caller rival step = .ok settlement) :
    settlement.leading.IsCents ∧ settlement.trailing.IsCents := by
  obtain ⟨-, below, -, rfl⟩ | ⟨-, sum, -, rfl⟩ | ⟨-, sum, -, rfl⟩ := reconcile_eq_ok_iff.1 settled
  all_goals exact ⟨Decimal.isCents_roundCents _, Decimal.isCents_roundCents _⟩

theorem isCents_amountOf (settled : reconcile caller rival step = .ok settlement) (side : Side) :
    (settlement.amountOf side).IsCents := by
  obtain ⟨wholeLeading, wholeTrailing⟩ := isCents_reconcile settled
  unfold amountOf
  split
  · exact wholeLeading
  · exact wholeTrailing

/-- Each side of a settlement is within its own ceiling. -/
theorem amountOf_reconcile_le (wholeCaller : caller.IsCents) (wholeRival : rival.IsCents)
    (rival_nonneg : 0 ≤ rival.value) (step_nonneg : 0 ≤ step.value)
    (settled : reconcile caller rival step = .ok settlement) :
    settlement.amountOf .caller ≤ caller ∧ settlement.amountOf .rival ≤ rival := by
  have cents_le {amount : Decimal} (whole : amount.IsCents) : amount.roundCents ≤ amount :=
    Decimal.roundCents_le whole (Decimal.le_refl _)
  have capped_le {higher sum : Decimal} (whole : higher.IsCents) :
      (min higher sum).roundCents ≤ higher :=
    Decimal.roundCents_le whole (Decimal.min_le_left _ _)
  obtain ⟨same, below, taken, rfl⟩ | ⟨-, sum, -, rfl⟩ | ⟨-, sum, -, rfl⟩ :=
    reconcile_eq_ok_iff.1 settled
  · have lowered := Decimal.sub_le taken step_nonneg
    have below_le : below ≤ rival := le_trans lowered (Decimal.le_iff_value_le.2 same.le)
    refine ⟨cents_le wholeCaller, Decimal.roundCents_le wholeRival (Decimal.max_le below_le ?_)⟩
    rwa [Decimal.le_iff_value_le, Decimal.value_zero]
  · exact ⟨cents_le wholeCaller, capped_le wholeRival⟩
  · exact ⟨capped_le wholeCaller, cents_le wholeRival⟩

/-- Who leads has no less than one of the ceilings, the lower one. -/
theorem ceiling_le_leading_reconcile (wholeCaller : caller.IsCents) (wholeRival : rival.IsCents)
    (step_nonneg : 0 ≤ step.value) (settled : reconcile caller rival step = .ok settlement) :
    caller ≤ settlement.leading ∨ rival ≤ settlement.leading := by
  have capped {lower higher sum : Decimal} (whole : lower.IsCents) (less : lower < higher)
      (added : lower.add step = .ok sum) : lower ≤ (min higher sum).roundCents := by
    have raised := Decimal.le_add added step_nonneg
    exact Decimal.le_roundCents whole (Decimal.le_min (Decimal.le_of_lt less) raised)
  obtain ⟨-, below, -, rfl⟩ | ⟨less, sum, added, rfl⟩ | ⟨less, sum, added, rfl⟩ :=
    reconcile_eq_ok_iff.1 settled
  · exact .inl (Decimal.le_roundCents wholeCaller (Decimal.le_refl _))
  · exact .inl (capped wholeCaller less added)
  · exact .inr (capped wholeRival less added)

/-- Who leads has more than any price that both ceilings are above. -/
theorem lt_leading_reconcile (wholeCaller : caller.IsCents) (wholeRival : rival.IsCents)
    (step_nonneg : 0 ≤ step.value) (settled : reconcile caller rival step = .ok settlement)
    (below_caller : price < caller) (below_rival : price < rival) :
    price < settlement.leading := by
  rcases ceiling_le_leading_reconcile wholeCaller wholeRival step_nonneg settled with own | other
  · exact lt_of_lt_of_le below_caller own
  · exact lt_of_lt_of_le below_rival other

/-- Ceilings that leave room for a step are settled. -/
theorem exists_reconcile_of_room
    (up_caller : |caller.value + step.value| < Decimal.centsLimit)
    (up_rival : |rival.value + step.value| < Decimal.centsLimit)
    (down : |caller.value - step.value| < Decimal.centsLimit) :
    ∃ settlement, reconcile caller rival step = .ok settlement := by
  rcases lt_trichotomy caller.value rival.value with below | same | above
  · obtain ⟨sum, added⟩ := Decimal.exists_add_of_room up_caller
    have lower := Decimal.lt_iff_value_lt.2 below
    exact ⟨_, reconcile_eq_ok_iff.2 (.inr (.inl ⟨lower, sum, added, rfl⟩))⟩
  · obtain ⟨lowered, taken⟩ := Decimal.exists_sub_of_room down
    exact ⟨_, reconcile_eq_ok_iff.2 (.inl ⟨same, lowered, taken, rfl⟩)⟩
  · obtain ⟨sum, added⟩ := Decimal.exists_add_of_room up_rival
    have lower := Decimal.lt_iff_value_lt.2 above
    exact ⟨_, reconcile_eq_ok_iff.2 (.inr (.inr ⟨lower, sum, added, rfl⟩))⟩

theorem leading_flooredAt (h : price < settlement.leading) :
    (settlement.flooredAt price).leading = settlement.leading :=
  Decimal.max_of_le (Decimal.le_of_lt h)

/-- A side within a ceiling above the price stays within it when it is raised to the price. -/
theorem flooredAt_bounds {side : Side} {bound : Decimal}
    (within : settlement.amountOf side ≤ bound) (above : price < bound) :
    price ≤ (settlement.flooredAt price).amountOf side ∧
      (settlement.flooredAt price).amountOf side ≤ bound := by
  rw [amountOf_flooredAt]
  exact ⟨Decimal.le_max_right _ _, Decimal.max_le within (Decimal.le_of_lt above)⟩

/-- At a price below the leading amount, a side that is not in whole cents is below the other
one. -/
theorem isCents_or_lt_flooredAt (settled : reconcile caller rival step = .ok settlement)
    (h : price < settlement.leading) (side : Side) :
    ((settlement.flooredAt price).amountOf side).IsCents ∨
      (settlement.flooredAt price).amountOf side <
        (settlement.flooredAt price).amountOf settlement.leader := by
  obtain ⟨wholeLeading, wholeTrailing⟩ := isCents_reconcile settled
  have leader_eq : (settlement.flooredAt price).amountOf settlement.leader =
      settlement.leading := by
    rw [← leading_flooredAt h]
    exact if_pos rfl
  by_cases leads : side = settlement.leader
  · left
    rw [leads, leader_eq]
    exact wholeLeading
  · have trails : (settlement.flooredAt price).amountOf side = max settlement.trailing price :=
      if_neg leads
    rw [trails, leader_eq, Decimal.max_def]
    by_cases less : settlement.trailing < price
    · right
      rw [if_pos less]
      exact h
    · left
      rw [if_neg less]
      exact wholeTrailing

/-- At a price below both ceilings, an amount is below the price only for a rival whose ceiling is
the same as the caller's, if a step below it is. -/
theorem amountOf_reconcile_lt_iff (wholeCaller : caller.IsCents) (wholeRival : rival.IsCents)
    (step_nonneg : 0 ≤ step.value) (settled : reconcile caller rival step = .ok settlement)
    (below_caller : price < caller) (below_rival : price < rival) (side : Side) :
    settlement.amountOf side < price ↔ side = .rival ∧ rival.SameValue caller ∧
      ∃ below, caller.sub step = .ok below ∧ (max below .zero).roundCents < price := by
  have leads : ¬ settlement.leading < price := Decimal.not_lt.2 (Decimal.le_of_lt
    (lt_leading_reconcile wholeCaller wholeRival step_nonneg settled below_caller below_rival))
  have stays {ceiling : Decimal} (whole : ceiling.IsCents) (above : price < ceiling) :
      ¬ ceiling.roundCents < price :=
    Decimal.not_lt.2 (Decimal.le_of_lt
      (lt_of_lt_of_le above (Decimal.le_roundCents whole (Decimal.le_refl _))))
  have not_tied {a b : Decimal} (less : a < b) : ¬ a.SameValue b := by
    rw [Decimal.sameValue_iff_value_eq]
    exact (Decimal.lt_iff_value_lt.1 less).ne
  obtain ⟨same, below, taken, rfl⟩ | ⟨less, sum, -, rfl⟩ | ⟨less, sum, -, rfl⟩ :=
    reconcile_eq_ok_iff.1 settled
  · cases side with
    | caller => exact ⟨fun lower => absurd lower leads, nofun⟩
    | rival =>
      constructor
      · intro lower
        exact ⟨rfl, Decimal.sameValue_iff_value_eq.2 same.symm, below, taken, lower⟩
      · rintro ⟨-, -, below', taken', lower⟩
        rw [taken, Except.ok.injEq] at taken'
        subst taken'
        exact lower
  · -- Of different ceilings, the lower one is bid in whole, and it is above the price.
    have differ : ¬ rival.SameValue caller := fun tied => not_tied less tied.symm
    cases side with
    | caller => exact ⟨fun lower => absurd lower (stays wholeCaller below_caller), nofun⟩
    | rival => exact ⟨fun lower => absurd lower leads, fun h => absurd h.2.1 differ⟩
  · cases side with
    | caller => exact ⟨fun lower => absurd lower leads, nofun⟩
    | rival =>
      exact ⟨fun lower => absurd lower (stays wholeRival below_rival),
        fun h => absurd h.2.1 (not_tied less)⟩

/-- At a price below both ceilings, an amount that is not in whole cents is the price itself, in the
place of a lower amount. -/
theorem not_isCents_flooredAt_iff (wholeCaller : caller.IsCents) (wholeRival : rival.IsCents)
    (step_nonneg : 0 ≤ step.value) (settled : reconcile caller rival step = .ok settlement)
    (below_caller : price < caller) (below_rival : price < rival) (side : Side) :
    ¬ ((settlement.flooredAt price).amountOf side).IsCents ↔
      (side = .rival ∧ rival.SameValue caller ∧
        ∃ below, caller.sub step = .ok below ∧ (max below .zero).roundCents < price) ∧
      ¬ price.IsCents := by
  rw [amountOf_flooredAt, Decimal.not_isCents_max_iff (isCents_amountOf settled side),
    amountOf_reconcile_lt_iff wholeCaller wholeRival step_nonneg settled below_caller below_rival]

/-- The leading bid is written first. -/
theorem bids_eq (settlement : Settlement) (item : ItemId) (round : Round)
    (callerId rivalId : UserId) (now : Instant) :
    settlement.bids item round callerId rivalId now =
      [autoBid item round (settlement.leader.user callerId rivalId) settlement.leading now,
        autoBid item round (settlement.leader.other.user callerId rivalId) settlement.trailing
          now] := by
  obtain ⟨leader, leading, trailing⟩ := settlement
  cases leader <;> rfl

theorem mem_bids {item : ItemId} {round : Round} {callerId rivalId : UserId} {now : Instant}
    {bid : NewBid} : bid ∈ settlement.bids item round callerId rivalId now ↔
      ∃ side : Side, bid =
        autoBid item round (side.user callerId rivalId) (settlement.amountOf side) now := by
  unfold bids
  rw [List.mem_map]
  constructor
  · rintro ⟨side, -, rfl⟩
    exact ⟨side, rfl⟩
  · rintro ⟨side, rfl⟩
    refine ⟨side, ?_, rfl⟩
    cases side <;> cases settlement.leader <;> decide

/-- Two ceilings and a step in whole cents are settled to the cent if there is room: the higher
ceiling leads, the caller's of equal ones, with a step above the lower one or all of itself, and the
other side stays below that. -/
theorem exists_reconcile (wholeCaller : caller.IsCents) (wholeRival : rival.IsCents)
    (wholeStep : step.IsCents) (caller_pos : 0 < caller.value) (rival_pos : 0 < rival.value)
    (step_pos : 0 < step.value) (room : caller.value + step.value < Decimal.centsLimit) :
    ∃ settlement, reconcile caller rival step = .ok settlement ∧
      settlement.leader = (if caller < rival then .rival else .caller) ∧
      settlement.leading.value =
        min (min caller.value rival.value + step.value) (max caller.value rival.value) ∧
      settlement.trailing.value < settlement.leading.value := by
  by_cases tied : caller.SameValue rival
  · have same := Decimal.sameValue_iff_value_eq.1 tied
    have not_lower : ¬ caller < rival := Decimal.not_lt.2 (Decimal.le_iff_value_le.2 same.ge)
    have difference_lt : |caller.value - step.value| < Decimal.centsLimit := by
      rw [abs_lt]
      constructor <;> linarith
    obtain ⟨difference, taken, wholeDifference, difference_value⟩ :=
      Decimal.sub_of_isCents wholeCaller wholeStep difference_lt
    rw [reconcile_of_tied tied, taken]
    refine ⟨_, rfl, (if_neg not_lower).symm, ?_, ?_⟩
    · rw [Decimal.value_roundCents wholeCaller, same, min_self, max_self,
        min_eq_right (by linarith)]
    · rw [Decimal.value_roundCents (wholeDifference.max Decimal.isCents_zero), Decimal.value_max,
        Decimal.value_zero, Decimal.value_roundCents wholeCaller, difference_value]
      exact max_lt (by linarith) caller_pos
  · have lower_value := Decimal.value_min caller rival
    have higher_value := Decimal.value_max caller rival
    have differ : caller.value ≠ rival.value := mt Decimal.sameValue_iff_value_eq.2 tied
    have lower_pos : 0 < min caller.value rival.value := lt_min caller_pos rival_pos
    have lower_le : min caller.value rival.value ≤ caller.value := min_le_left _ _
    have wholeLower := wholeCaller.min wholeRival
    have wholeHigher := wholeCaller.max wholeRival
    obtain ⟨sum, added, wholeSum, sum_value⟩ :=
      exists_sum wholeLower wholeStep (by linarith) step_pos.le (by linarith)
    rw [lower_value] at sum_value
    rw [reconcile_of_differ tied, added]
    refine ⟨_, rfl, rfl, ?_, ?_⟩
    · rw [value_roundCents_min wholeHigher wholeSum, sum_value, higher_value, min_comm]
    · rw [value_roundCents_min wholeHigher wholeSum, Decimal.value_roundCents wholeLower, sum_value,
        lower_value, higher_value]
      exact lt_min (min_lt_max.2 differ) (by linarith)

end Reconcile

end Settlement

end AuctionHouse
