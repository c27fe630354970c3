import AuctionHouse.Text.Digits
import Mathlib.Data.List.Basic
import Mathlib.Tactic.IntervalCases

/-!
# Reading digits that were written

A number that stands at the head of a text is read off it, and the rest of the text is left:
`run?_padded` where something that is no digit follows, `upTo?_padded` where the number has as many
digits as are looked for.
-/

namespace AuctionHouse.Digits

variable {digits rest : List Char} {width number : Nat}

theorem value_singleton (c : Char) : value [c] = c.toNat - '0'.toNat := by
  simp [value, Nat.ofDigitChars_cons]

theorem value_toDigits (number : Nat) : value (Nat.toDigits 10 number) = number :=
  Nat.ofDigitChars_toDigits (by decide) (by decide)

/-- More digits make a number no smaller. -/
theorem le_ofDigitChars (digits : List Char) (start : Nat) :
    start ≤ Nat.ofDigitChars 10 digits start := by
  rw [Nat.ofDigitChars_eq_ofDigitChars_zero]
  exact Nat.le_add_right_of_le (Nat.le_mul_of_pos_left _ (Nat.pow_pos (by decide)))

theorem length_padded (width_pos : 0 < width) (number_lt : number < tenTo width) :
    (padded width number).length = width := by
  have short := (Nat.length_toDigits_le_iff (by decide) width_pos).2 number_lt
  rw [padded, List.leftpad, List.length_append, List.length_replicate]
  omega

/-- Only zero begins with the digit zero. -/
theorem head?_toDigits_ne {number : Nat} (pos : 0 < number) :
    (Nat.toDigits 10 number).head? ≠ some '0' := by
  induction number using Nat.strongRecOn with
  | _ number ih =>
    by_cases single : number < 10
    · rw [Nat.toDigits_of_lt_base single]
      interval_cases number <;> decide
    · rw [Nat.toDigits_of_base_le (by decide) (Nat.le_of_not_lt single),
        List.head?_append_of_ne_nil _ Nat.toDigits_ne_nil]
      exact ih (number / 10) (by omega) (by omega)

theorem run?_append (digits_ne : digits ≠ []) (all_digits : ∀ c ∈ digits, c.isDigit = true)
    (stops : rest.takeWhile Char.isDigit = []) : run? (digits ++ rest) = some (value digits, rest) := by
  have taken : (digits ++ rest).takeWhile Char.isDigit = digits := by
    rw [List.takeWhile_append_of_pos all_digits, stops, List.append_nil]
  simp [run?, taken, digits_ne]

theorem run?_padded (width number : Nat) (stops : rest.takeWhile Char.isDigit = []) :
    run? (padded width number ++ rest) = some (number, rest) := by
  rw [run?_append (padded_ne_nil width number) (fun _ => isDigit_of_mem_padded) stops, value_padded]

theorem upTo?_padded (width_pos : 0 < width) (number_lt : number < tenTo width)
    (rest : List Char) : upTo? width (padded width number ++ rest) = some (number, rest) := by
  have length_eq := length_padded width_pos number_lt
  have all_taken : (padded width number).takeWhile Char.isDigit = padded width number := by
    rw [← List.append_nil (padded width number),
      List.takeWhile_append_of_pos fun _ => isDigit_of_mem_padded]
    rfl
  rw [upTo?, List.take_left' length_eq, all_taken, if_neg (by simp [padded_ne_nil]), value_padded,
    List.drop_left]

/-- A number in digits is read back. -/
theorem whole?_toDigits (number : Nat) : whole? (Nat.toDigits 10 number) = some number := by
  have read_eq := @run?_append (Nat.toDigits 10 number) [] Nat.toDigits_ne_nil
    (fun _ => Nat.isDigit_of_mem_toDigits (by decide) (by decide)) rfl
  rw [List.append_nil, value_toDigits] at read_eq
  rw [whole?, read_eq]

end AuctionHouse.Digits
