import AuctionHouse.Proofs.Decimal.Cents
import AuctionHouse.Proofs.Text.Digits

/-!
# Money in text

The text of an amount has parts (`Layout`): a sign, digits in groups, and two digits behind the
point.  The main result is that these digits are the cents that the amount is rounded to, and that
the text tells amounts apart that are not rounded to the same cents (`format_spells`).
-/

namespace AuctionHouse

namespace Money

/-- The parts of the text of an amount.  Before the point stand a group of at most three digits and
groups of three, and no zero leads but a single one; behind the point stand two digits. -/
structure Layout where
  negative : Bool
  first : List Char
  others : List (List Char)
  cents : List Char
  isDigit : ∀ c ∈ first ++ others.flatten ++ cents, c.isDigit = true
  length_first : 1 ≤ first.length ∧ first.length ≤ 3
  length_others : ∀ group ∈ others, group.length = 3
  length_cents : cents.length = 2
  leading_zero : (first ++ others.flatten).head? = some '0' → first ++ others.flatten = ['0']

namespace Layout

/-- The minus sign, if there is one. -/
def sign (layout : Layout) : String := if layout.negative then "-" else ""

/-- All digits, those of the cents among them. -/
def digits (layout : Layout) : List Char := layout.first ++ layout.others.flatten ++ layout.cents

/-- The parts one after the other, with `point` before the cents and `comma` between the groups. -/
def text (layout : Layout) (point comma : String) : String :=
  layout.sign ++ comma.intercalate ((layout.first :: layout.others).map String.ofList) ++ point ++
    String.ofList layout.cents

end Layout

section Groups

variable {digits group : List Char}

theorem flatten_threes (digits : List Char) : (threes digits).flatten = digits := by
  fun_induction threes digits <;> simp_all

theorem length_of_mem_threes (whole : digits.length % 3 = 0) (group_mem : group ∈ threes digits) :
    group.length = 3 := by
  fun_induction threes digits with
  | case1 a b c rest ih =>
    rcases List.mem_cons.1 group_mem with rfl | later
    · rfl
    · simp only [List.length_cons] at whole
      exact ih (by omega) later
  | case2 => cases group_mem
  | case3 rest long nonempty =>
    match rest with
    | [] => exact absurd rfl nonempty
    | [_] | [_, _] => cases whole
    | a :: b :: c :: rest => exact absurd rfl (long a b c rest)

/-- Digits fall into a group of at most three and groups of three. -/
theorem exists_groups (nonempty : digits ≠ []) :
    ∃ first others, groups digits = first :: others ∧ first ++ others.flatten = digits ∧
      (1 ≤ first.length ∧ first.length ≤ 3) ∧ ∀ group ∈ others, group.length = 3 := by
  unfold groups
  simp only
  split
  · next whole =>
    obtain ⟨first, others, groups_eq⟩ : ∃ first others, threes digits = first :: others := by
      refine List.exists_cons_of_ne_nil fun none => nonempty ?_
      rw [← flatten_threes digits, none, List.flatten_nil]
    have all_three : ∀ group ∈ first :: others, group.length = 3 := fun group mem =>
      length_of_mem_threes whole (groups_eq ▸ mem)
    have first_three := all_three first List.mem_cons_self
    refine ⟨first, others, groups_eq, ?_, by omega, fun group mem =>
      all_three group (List.mem_cons_of_mem _ mem)⟩
    rw [← List.flatten_cons, ← groups_eq, flatten_threes]
  · next rest =>
    have rest_lt := Nat.mod_lt digits.length (show 0 < 3 by decide)
    have first_length : (digits.take (digits.length % 3)).length = digits.length % 3 := by
      rw [List.length_take]
      exact Nat.min_eq_left (Nat.mod_le _ _)
    refine ⟨_, _, rfl, ?_, by omega, fun group => length_of_mem_threes ?_⟩
    · rw [flatten_threes, List.take_append_drop]
    · rw [List.length_drop]
      omega

end Groups

/-- An amount of at most two fraction digits is its number of cents, but for its sign. -/
theorem cents_div_hundred {amount : Decimal} (short : amount.scale ≤ 2) :
    (cents amount : ℚ) / 100 = |amount.value| := by
  have := (tenTo_cast_pos amount.scale).ne'
  have := (tenTo_cast_pos (2 - amount.scale)).ne'
  rw [Decimal.abs_value, cents, Decimal.hundred_eq short]
  push_cast
  field_simp

theorem isNegative_iff {amount : Decimal} : amount.isNegative = true ↔ amount < .zero := by
  have pos := tenTo_cast_pos amount.scale
  rw [Decimal.lt_iff_value_lt, Decimal.value_zero, Decimal.value, div_neg_iff, Decimal.isNegative]
  simp [pos, pos.not_gt]

/-- Digits before the point and two digits behind it spell a number of cents. -/
theorem value_units_append (cents : Nat) :
    Digits.value (Nat.toDigits 10 (cents / 100) ++ Digits.padded 2 (cents % 100)) = cents := by
  have width : (Digits.padded 2 (cents % 100)).length = 2 :=
    Digits.length_padded (by decide) (Nat.mod_lt _ (by decide))
  have units := Digits.value_toDigits (cents / 100)
  have rest := Digits.value_padded 2 (cents % 100)
  rw [Digits.value] at units rest
  rw [Digits.value, Nat.ofDigitChars_append, Nat.ofDigitChars_eq_ofDigitChars_zero, units, rest,
    width]
  exact Nat.div_add_mod cents 100

/-- The text of an amount has parts that spell the cents that the amount is rounded to. -/
theorem exists_layout (amount : Decimal) : ∃ layout : Layout,
    (∀ point comma, format amount point comma = layout.text point comma) ∧
      (Digits.value layout.digits : ℚ) / 100 = |amount.roundCents.value| ∧
      (layout.negative = true ↔ amount.roundCents < .zero) := by
  let number := cents amount.roundCents
  let units := Nat.toDigits 10 (number / 100)
  let rest := Digits.padded 2 (number % 100)
  obtain ⟨first, others, groups_eq, flatten_eq, length_first, length_others⟩ :=
    @exists_groups units Nat.toDigits_ne_nil
  have leading_zero : units.head? = some '0' → units = ['0'] := by
    intro zero
    rcases Nat.eq_zero_or_pos (number / 100) with none | some
    · simp [units, none]
    · exact absurd zero (Digits.head?_toDigits_ne some)
  have isDigit : ∀ c ∈ units ++ rest, c.isDigit = true := by
    intro c c_mem
    rcases List.mem_append.1 c_mem with mem | mem
    · exact Nat.isDigit_of_mem_toDigits (by decide) (by decide) mem
    · exact Digits.isDigit_of_mem_padded mem
  let layout : Layout :=
    { negative := amount.roundCents.isNegative
      first, others, cents := rest
      isDigit := flatten_eq ▸ isDigit
      length_first, length_others
      length_cents := Digits.length_padded (by decide) (Nat.mod_lt _ (by decide))
      leading_zero := flatten_eq ▸ leading_zero }
  refine ⟨layout, fun point comma => ?_, ?_, isNegative_iff⟩
  · simp only [format, Layout.text, layout, ← groups_eq]
    rfl
  · rw [← cents_div_hundred (Decimal.scale_roundCents_le amount), Layout.digits]
    simp only [layout, flatten_eq, units, rest, value_units_append]
    rfl

namespace Layout

variable {layout other : Layout} {point comma : String}

theorem filter_intercalate {p : Char → Bool} {separator : List Char}
    (foreign : separator.filter p = []) (parts : List (List Char)) :
    (separator.intercalate parts).filter p = parts.flatten.filter p := by
  induction parts with
  | nil => rfl
  | cons part rest ih =>
    cases rest with
    | nil => simp
    | cons next later =>
      rw [List.intercalate_cons_cons, List.filter_append, List.filter_append, foreign,
        List.append_nil, ih, ← List.filter_append, ← List.flatten_cons]

/-- Of the characters of a text that the separators do not have, only those of the sign and of the
digits are left. -/
theorem filter_text {p : Char → Bool} (foreign : ∀ c ∈ point.toList ++ comma.toList, p c = false)
    (layout : Layout) : (layout.text point comma).toList.filter p =
      layout.sign.toList.filter p ++ layout.digits.filter p := by
  have parts_eq : ((layout.first :: layout.others).map String.ofList).map String.toList =
      layout.first :: layout.others := by
    simp [Function.comp_def]
  obtain ⟨no_point, no_comma⟩ := List.forall_mem_append.1 foreign
  have point_eq : point.toList.filter p = [] := List.filter_eq_nil_iff.2 (by simpa using no_point)
  have comma_eq : comma.toList.filter p = [] := List.filter_eq_nil_iff.2 (by simpa using no_comma)
  simp only [text, digits, String.toList_append, String.toList_intercalate, parts_eq,
    List.filter_append, filter_intercalate comma_eq, point_eq, String.toList_ofList,
    List.flatten_cons, List.nil_append, List.append_assoc]

/-- The digits are read off a text, if the separators have none. -/
theorem filter_isDigit_text (foreign : ∀ c ∈ point.toList ++ comma.toList, c.isDigit = false)
    (layout : Layout) : (layout.text point comma).toList.filter Char.isDigit = layout.digits := by
  have sign_eq : layout.sign.toList.filter Char.isDigit = [] := by
    unfold sign
    split <;> rfl
  rw [filter_text foreign, sign_eq, List.nil_append]
  exact List.filter_eq_self.2 layout.isDigit

/-- The sign is read off a text, if the separators have no minus signs. -/
theorem filter_minus_text (foreign : ∀ c ∈ point.toList ++ comma.toList, (c == '-') = false)
    (layout : Layout) : (layout.text point comma).toList.filter (· == '-') =
      layout.sign.toList := by
  have sign_eq : layout.sign.toList.filter (· == '-') = layout.sign.toList := by
    unfold sign
    split <;> rfl
  have digits_eq : layout.digits.filter (· == '-') = [] := by
    refine List.filter_eq_nil_iff.2 fun c c_mem minus => ?_
    have digit := layout.isDigit c c_mem
    rw [beq_iff_eq.1 minus] at digit
    exact absurd digit (by decide)
  rw [filter_text foreign, sign_eq, digits_eq, List.append_nil]

/-- Texts that are alike have the same digits and the same sign. -/
theorem eq_of_text_eq (same : layout.text "." "," = other.text "." ",") :
    layout.digits = other.digits ∧ layout.negative = other.negative := by
  have digits_read (layout : Layout) :
      (layout.text "." ",").toList.filter Char.isDigit = layout.digits :=
    filter_isDigit_text (by simp) layout
  have sign_read (layout : Layout) :
      (layout.text "." ",").toList.filter (· == '-') = layout.sign.toList :=
    filter_minus_text (by simp) layout
  constructor
  · rw [← digits_read, same, digits_read]
  · have sign_eq : layout.sign.toList = other.sign.toList := by
      rw [← sign_read, same, sign_read]
    cases negative : layout.negative <;> cases other_negative : other.negative <;>
      simp_all [sign]

end Layout

/-- Amounts with the same text are rounded to the same cents. -/
theorem sameValue_of_format_eq {a b : Decimal} (same : format a "." "," = format b "." ",") :
    a.roundCents.SameValue b.roundCents := by
  obtain ⟨layout, text_eq, number_eq, negative_iff⟩ := exists_layout a
  obtain ⟨other, other_text_eq, other_number_eq, other_negative_iff⟩ := exists_layout b
  rw [text_eq, other_text_eq] at same
  obtain ⟨digits_same, sign_same⟩ := Layout.eq_of_text_eq same
  have abs_same : |a.roundCents.value| = |b.roundCents.value| := by
    rw [← number_eq, digits_same, other_number_eq]
  have negative_same : a.roundCents.value < 0 ↔ b.roundCents.value < 0 := by
    rw [← Decimal.value_zero, ← Decimal.lt_iff_value_lt, ← Decimal.lt_iff_value_lt,
      ← negative_iff, sign_same, other_negative_iff]
  rw [Decimal.sameValue_iff_value_eq]
  rcases abs_eq_abs.1 abs_same with value_same | opposite
  · exact value_same
  · -- Opposite values of one sign are zero.
    grind

/-- Amounts that are rounded to the same cents have the same text. -/
theorem format_eq_of_sameValue {a b : Decimal} (same : a.roundCents.SameValue b.roundCents)
    (point comma : String) : format a point comma = format b point comma := by
  rw [Decimal.sameValue_iff_value_eq] at same
  have cents_eq : (cents a.roundCents : ℚ) = cents b.roundCents := by
    have a_cents := cents_div_hundred (Decimal.scale_roundCents_le a)
    have b_cents := cents_div_hundred (Decimal.scale_roundCents_le b)
    rw [same] at a_cents
    linarith
  have sign_eq : a.roundCents.isNegative = b.roundCents.isNegative := by
    rw [Bool.eq_iff_iff, isNegative_iff, isNegative_iff, Decimal.lt_iff_value_lt,
      Decimal.lt_iff_value_lt, same]
  simp only [format, sign_eq, Nat.cast_injective cents_eq]

/-- The text of an amount is a sign, digits in groups of three from the point and two digits behind
it, whatever the separators.  The digits spell the amount in cents, to which it is rounded, and
there is a minus sign if it is below zero then.  So the text tells apart what is not rounded to the
same cents. -/
theorem format_spells :
    (∀ amount : Decimal, ∃ layout : Layout,
      (∀ point comma, format amount point comma = layout.text point comma) ∧
        (Digits.value layout.digits : ℚ) / 100 = |amount.roundCents.value| ∧
        (layout.negative = true ↔ amount.roundCents < .zero)) ∧
      ∀ a b : Decimal,
        format a "." "," = format b "." "," ↔ a.roundCents.SameValue b.roundCents :=
  ⟨exists_layout, fun _ _ =>
    ⟨sameValue_of_format_eq, fun same => format_eq_of_sameValue same "." ","⟩⟩

/-- A value that is rounded to zero has no sign, and separators may be of any length. -/
example : format (Decimal.ofParts 4 3).neg "." "," = "0.00" ∧
    format (Decimal.ofParts 123456785 3).neg " and " "" = "-123456 and 79" := by
  decide +kernel

end Money

end AuctionHouse
