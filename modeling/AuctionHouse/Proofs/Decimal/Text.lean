import AuctionHouse.Decimal.Parser
import AuctionHouse.Decimal.Printer
import AuctionHouse.Proofs.Text.Digits

/-!
# Amounts and their texts

An amount is read back from its text with its scale, so that trailing zeros are kept
(`ofText?_text`).  All that is lost is the minus sign of a zero.
-/

namespace AuctionHouse.Decimal

/-- The amount with a plain zero in the place of a negative one. -/
def plainZeros (amount : Decimal) : Decimal :=
  if amount.magnitude = 0 then amount.unsigned else amount

/-- A text of digits with a point has digits before it, as many behind it as there are places, and
together they spell the magnitude. -/
theorem pointed_parts (magnitude scale : Nat) :
    ∃ before behind : List Char, before ≠ [] ∧ behind.length = scale ∧
      (∀ c ∈ before ++ behind, c.isDigit = true) ∧
      Nat.ofDigitChars 10 (before ++ behind) 0 = magnitude ∧
      pointed magnitude scale = if scale = 0 then before else before ++ '.' :: behind := by
  have width_le : scale + 1 ≤ (Digits.padded (scale + 1) magnitude).length := by
    simp only [Digits.padded, List.leftpad, List.length_append, List.length_replicate]
    omega
  refine ⟨_, _, ?_, ?_, ?_, ?_, rfl⟩
  · apply List.ne_nil_of_length_pos
    rw [List.length_take]
    omega
  · rw [List.length_drop]
    omega
  · rw [List.take_append_drop]
    exact fun c => Digits.isDigit_of_mem_padded
  · rw [List.take_append_drop]
    exact Digits.value_padded ..

namespace Magnitude

/-- Digits before the point or behind it are all read, if there is room for their value and their
places. -/
theorem read?_digits {m : Magnitude} {started pointed : Bool} {digits rest : List Char}
    (all_digits : ∀ c ∈ digits, c.isDigit = true)
    (value_lt : Nat.ofDigitChars 10 digits m.coeff < limit)
    (places_le : pointed = true → m.scale + digits.length ≤ maxScale) :
    ∃ next : Magnitude, next.coeff = Nat.ofDigitChars 10 digits m.coeff ∧
      next.scale = m.scale + (if pointed then digits.length else 0) ∧
      m.read? started pointed (digits ++ rest) =
        next.read? (started || !digits.isEmpty) pointed rest := by
  induction digits generalizing m started with
  | nil => exact ⟨m, rfl, by simp, by simp⟩
  | cons c digits ih =>
    rw [Nat.ofDigitChars_cons, ← Digits.value_singleton] at value_lt ⊢
    rw [List.length_cons] at places_le ⊢
    -- All digits together fit, so the first of them does, and it is not past the last place.
    have fits := Nat.lt_of_le_of_lt (Digits.le_ofDigitChars digits _) value_lt
    have not_full : ¬ (pointed = true ∧ m.scale = maxScale) := by
      rintro ⟨behind, full⟩
      have := places_le behind
      omega
    have scale_le : (if pointed then m.scale + 1 else m.scale) ≤ maxScale := by
      split
      · next behind =>
        have := places_le behind
        omega
      · exact m.scale_le
    obtain ⟨next, coeff_eq, scale_eq, read_eq⟩ :=
      @ih ⟨10 * m.coeff + Digits.value [c], _, fits, scale_le⟩ true
        (fun d mem => all_digits d (List.mem_cons_of_mem c mem)) value_lt
        (fun behind => by
          have := places_le behind
          simp only [behind, if_true]
          omega)
    refine ⟨next, coeff_eq, ?_, ?_⟩
    · rw [scale_eq]
      cases pointed
      · simp
      · simp only [if_true]
        omega
    · rw [List.cons_append, read?, dif_neg not_full, if_pos (all_digits c List.mem_cons_self),
        dif_pos fits, read_eq]
      simp

theorem read?_point (m : Magnitude) (started : Bool) (rest : List Char) :
    m.read? started false ('.' :: rest) = m.read? started true rest := by
  rw [read?, dif_neg (by simp), if_neg (by decide), if_pos (by simp)]

theorem read?_nil (m : Magnitude) (pointed : Bool) : m.read? true pointed [] = some m := by
  rw [read?, if_pos rfl]

theorem eq_mk {m : Magnitude} {coeff scale : Nat} (coeff_lt : coeff < limit)
    (scale_le : scale ≤ maxScale) (coeff_eq : m.coeff = coeff) (scale_eq : m.scale = scale) :
    m = ⟨coeff, scale, coeff_lt, scale_le⟩ := by
  cases m
  subst coeff_eq scale_eq
  rfl

/-- The digits of a magnitude with the point in its place are read as that magnitude. -/
theorem read?_pointed {start : Magnitude} (coeff_zero : start.coeff = 0)
    (scale_zero : start.scale = 0) {magnitude scale : Nat} (magnitude_lt : magnitude < limit)
    (scale_le : scale ≤ maxScale) :
    start.read? false false (pointed magnitude scale) =
      some ⟨magnitude, scale, magnitude_lt, scale_le⟩ := by
  obtain ⟨before, behind, before_ne, behind_length, all_digits, value_eq, pointed_eq⟩ :=
    pointed_parts magnitude scale
  rw [Nat.ofDigitChars_append, ← coeff_zero] at value_eq
  have before_lt : Nat.ofDigitChars 10 before start.coeff < limit := by
    have := Digits.le_ofDigitChars behind (Nat.ofDigitChars 10 before start.coeff)
    omega
  have before_some : (false || !before.isEmpty) = true := by simpa using before_ne
  -- What stands behind the digits before the point is read from the magnitude that these have.
  have whole_read (rest : List Char) := @read?_digits start false false before rest
    (fun c mem => all_digits c (List.mem_append_left _ mem)) before_lt nofun
  rw [pointed_eq]
  split
  · next no_places =>
    obtain ⟨whole, coeff_eq, whole_scale, read_eq⟩ := whole_read []
    rw [List.eq_nil_of_length_eq_zero (behind_length.trans no_places)] at value_eq
    rw [List.append_nil, before_some, read?_nil] at read_eq
    rw [read_eq, eq_mk magnitude_lt scale_le (coeff_eq.trans value_eq)]
    rw [whole_scale, scale_zero, no_places]
    rfl
  · obtain ⟨whole, coeff_eq, whole_scale, read_eq⟩ := whole_read ('.' :: behind)
    rw [← coeff_eq] at value_eq
    obtain ⟨all, all_coeff, all_scale, all_read⟩ := @read?_digits whole true true behind []
      (fun c mem => all_digits c (List.mem_append_right _ mem)) (value_eq ▸ magnitude_lt)
      (fun _ => by rw [whole_scale, scale_zero, behind_length]; simpa using scale_le)
    rw [List.append_nil, Bool.true_or, read?_nil] at all_read
    rw [read_eq, before_some, read?_point, all_read,
      eq_mk magnitude_lt scale_le (all_coeff.trans value_eq)]
    rw [all_scale, whole_scale, scale_zero, behind_length]
    simp

end Magnitude

/-- An amount that is put together again from its coefficient has lost the sign of a zero. -/
theorem ofCoeff_coeff (amount : Decimal) :
    ofCoeff amount.coeff amount.scale amount.coeff_lt amount.scale_le = amount.plainZeros := by
  obtain ⟨negative, magnitude, scale, magnitude_lt, scale_le⟩ := amount
  unfold plainZeros
  cases negative
  · simp [ofCoeff, coeff, withSign, unsigned]
  · simp only [ofCoeff, coeff, withSign, unsigned, if_true]
    split <;> simp <;> omega

/-- The text of a magnitude begins with a digit. -/
theorem exists_pointed_eq_cons (magnitude scale : Nat) :
    ∃ c rest, c.isDigit = true ∧ pointed magnitude scale = c :: rest := by
  obtain ⟨before, behind, before_ne, -, all_digits, -, pointed_eq⟩ := pointed_parts magnitude scale
  obtain ⟨c, more, rfl⟩ := List.exists_cons_of_ne_nil before_ne
  refine ⟨c, if scale = 0 then more else more ++ '.' :: behind, all_digits c (by simp), ?_⟩
  rw [pointed_eq]
  split <;> rfl

/-- An amount is read back from its text, except that a zero loses its minus sign. -/
theorem ofText?_text (amount : Decimal) : ofText? amount.text = some amount.plainZeros := by
  have read_eq := @Magnitude.read?_pointed ⟨0, 0, Nat.le_of_ble_eq_true rfl, Nat.zero_le _⟩ rfl rfl
    _ _ amount.magnitude_lt amount.scale_le
  have plain_eq : plain? amount.chars = some amount.plainZeros := by
    rw [← ofCoeff_coeff]
    unfold plain? chars
    cases negative : amount.negative with
    | true => simp [read_eq, Magnitude.signed, coeff, negative]
    | false =>
      obtain ⟨c, rest, isDigit, pointed_eq⟩ :=
        exists_pointed_eq_cons amount.magnitude amount.scale
      rw [pointed_eq] at read_eq ⊢
      simp only [Bool.false_eq_true, if_false, List.nil_append]
      split
      · next minus =>
        obtain ⟨rfl, -⟩ := List.cons.inj minus
        exact absurd isDigit (by decide)
      · next plus =>
        obtain ⟨rfl, -⟩ := List.cons.inj plus
        exact absurd isDigit (by decide)
      · simp [read_eq, Magnitude.signed, coeff, negative]
  rw [ofText?, text, String.toList_ofList, ofChars?, plain_eq]
  rfl

end AuctionHouse.Decimal
