import AuctionHouse.Instant.Parser
import AuctionHouse.Instant.Printer
import AuctionHouse.Proofs.Instant.Calendar
import AuctionHouse.Proofs.Text.Digits

/-!
# Moments and their texts

A moment is read back from its text to the nanosecond (`ofText?_text`), whatever its year is and
also within a leap second.  Every part of the text is read off the head of what is left of it.
-/

namespace AuctionHouse

theorem Blank.not_isBlank_of_isDigit {c : Char} (h : c.isDigit = true) : isBlank c = false := by
  simp only [Char.isDigit, Bool.and_eq_true, decide_eq_true_eq, UInt32.le_iff_toNat_le] at h
  have low : 48 ≤ c.toNat := h.1
  have high : c.toNat ≤ 57 := h.2
  simp [isBlank]
  omega

/-- A text that begins with digits has no blanks at its head. -/
theorem Blank.skip_padded (width number : Nat) (rest : List Char) :
    skip (Digits.padded width number ++ rest) = Digits.padded width number ++ rest := by
  cases padded_eq : Digits.padded width number with
  | nil => exact absurd padded_eq (Digits.padded_ne_nil width number)
  | cons c more =>
    have isDigit := @Digits.isDigit_of_mem_padded width number c (by simp [padded_eq])
    rw [skip, List.cons_append, List.dropWhile_cons, not_isBlank_of_isDigit isDigit]
    rfl

namespace Instant

theorem component?_padded {low high number : Nat} (low_le : low ≤ number) (le_high : number ≤ high)
    (short : high < 100) (rest : List Char) :
    component? low high (Digits.padded 2 number ++ rest) = some (number, rest) := by
  rw [component?, Blank.skip_padded, Digits.upTo?_padded (by decide) (show number < 100 by omega)]
  exact if_pos ⟨low_le, le_high⟩

theorem mark?_dash (rest : List Char) : mark? '-' ('-' :: rest) = some rest := rfl

theorem mark?_colon (rest : List Char) : mark? ':' (':' :: rest) = some rest := rfl

/-- Digits are no sign, so that a year which begins with one is read as four digits. -/
theorem year?_padded (number : Nat) (rest : List Char) :
    year? (Digits.padded 4 number ++ rest) =
      (Digits.upTo? 4 (Digits.padded 4 number ++ rest)).map fun (n, rest) => ((n : Int), rest) := by
  rw [year?, Blank.skip_padded]
  cases padded_eq : Digits.padded 4 number with
  | nil => exact absurd padded_eq (Digits.padded_ne_nil 4 number)
  | cons c more =>
    have isDigit := @Digits.isDigit_of_mem_padded 4 number c (by simp [padded_eq])
    rw [List.cons_append]
    split
    · next minus =>
      obtain ⟨rfl, -⟩ := List.cons.inj minus
      exact absurd isDigit (by decide)
    · next plus =>
      obtain ⟨rfl, -⟩ := List.cons.inj plus
      exact absurd isDigit (by decide)
    · rfl

theorem year?_yearChars (year : Int) (rest : List Char) :
    year? (Date.yearChars year ++ '-' :: rest) = some (year, '-' :: rest) := by
  unfold Date.yearChars
  split
  · next four =>
    rw [year?_padded, Digits.upTo?_padded (by decide) (show year.toNat < 10000 by omega)]
    simp [four.1]
  · next signed =>
    have digits_read := @Digits.run?_padded ('-' :: rest) 4 year.natAbs rfl
    split
    · next negative =>
      have skipped (text : List Char) : Blank.skip ('-' :: text) = '-' :: text := rfl
      rw [List.cons_append, year?, skipped]
      simp only [digits_read, Option.map_some, show -(year.natAbs : Int) = year by omega]
    · next positive =>
      have skipped (text : List Char) : Blank.skip ('+' :: text) = '+' :: text := rfl
      rw [List.cons_append, year?, skipped]
      simp only [digits_read, Option.map_some, show (year.natAbs : Int) = year by omega]

theorem date?_chars {date : Date} (valid : date.Valid) (rest : List Char) :
    date? (date.chars ++ rest) = some (date, rest) := by
  obtain ⟨month_pos, month_le, day_pos, day_le⟩ := id valid
  have length_le : Date.monthLength date.year date.month ≤ 31 := by
    unfold Date.monthLength
    split
    · split <;> decide
    · split <;> decide
  have month_read := component?_padded month_pos month_le (by decide)
    ('-' :: (Digits.padded 2 date.day ++ rest))
  have day_read := component?_padded day_pos (Nat.le_trans day_le length_le) (by decide) rest
  simp [date?, Date.chars, year?_yearChars, mark?_dash, month_read, day_read, valid]

/-- Digits behind the point are read in units of their last place. -/
theorem fraction?_padded {width number : Nat} (width_pos : 0 < width) (width_le : width ≤ 9)
    (number_lt : number < tenTo width) (rest : List Char) :
    fraction? ('.' :: Digits.padded width number ++ 'Z' :: rest) =
      some (number * tenTo (9 - width), 'Z' :: rest) := by
  have length_eq := Digits.length_padded width_pos number_lt
  have taken : (Digits.padded width number ++ 'Z' :: rest).takeWhile Char.isDigit =
      Digits.padded width number := by
    rw [List.takeWhile_append_of_pos fun _ => Digits.isDigit_of_mem_padded]
    exact List.append_nil _
  have kept : (Digits.padded width number).take 9 = Digits.padded width number :=
    List.take_of_length_le (by omega)
  rw [List.cons_append, fraction?, taken, if_neg (by simp [Digits.padded_ne_nil])]
  simp only [kept, Digits.value_padded, length_eq, List.drop_left' length_eq]

/-- A fraction is read back, in however many digits it was written. -/
theorem fraction?_fractionChars {nano : Nat} (nano_lt : nano < nanosPerSecond) (rest : List Char) :
    fraction? (fractionChars nano ++ 'Z' :: rest) = some (nano, 'Z' :: rest) := by
  rw [nanosPerSecond] at nano_lt
  unfold fractionChars
  split
  · next zero => rw [zero]; rfl
  split
  · next millis =>
    rw [fraction?_padded (by decide) (by decide) (show nano / 1000000 < 1000 by omega)]
    rw [show nano / 1000000 * tenTo (9 - 3) = nano from
      Nat.div_mul_cancel (Nat.dvd_of_mod_eq_zero millis)]
  split
  · next micros =>
    rw [fraction?_padded (by decide) (by decide) (show nano / 1000 < 1000000 by omega)]
    rw [show nano / 1000 * tenTo (9 - 6) = nano from
      Nat.div_mul_cancel (Nat.dvd_of_mod_eq_zero micros)]
  · rw [fraction?_padded (by decide) (by decide) (show nano < 1000000000 from nano_lt)]
    rw [show nano * tenTo (9 - 9) = nano from Nat.mul_one nano]

/-- A time of day is read back.  Within a leap second it is written with the second sixty. -/
theorem timeOfDay?_timeChars (t : Instant) (rest : List Char) :
    timeOfDay? (t.timeChars ++ 'Z' :: rest) = some (⟨t.second, t.nano⟩, 'Z' :: rest) := by
  have second_lt := t.second_lt
  have nano_lt := t.nano_lt
  have leap_second := t.leap_second
  rw [secondsPerDay] at second_lt
  have clock : t.second / 3600 * 3600 + t.second / 60 % 60 * 60 + t.second % 60 = t.second := by
    omega
  have fraction_read :=
    fraction?_fractionChars (Nat.mod_lt t.nano (by decide : 0 < nanosPerSecond)) rest
  have hour_read := @component?_padded 0 23 (t.second / 3600) (by omega) (by omega) (by decide)
  have minute_read := @component?_padded 0 59 (t.second / 60 % 60) (by omega) (by omega) (by decide)
  have second_read := @component?_padded 0 60 (t.second % 60 + (if t.inLeapSecond then 1 else 0))
    (by omega) (by split <;> omega) (by decide)
  simp only [timeOfDay?, timeChars, List.append_assoc, List.cons_append, hour_read, mark?_colon,
    minute_read, second_read, fraction_read, Option.bind_eq_bind, Option.bind_some]
  by_cases leap : nanosPerSecond ≤ t.nano
  · have last := leap_second leap
    have nano_eq : nanosPerSecond + t.nano % nanosPerSecond = t.nano := by
      simp only [nanosPerSecond] at *
      omega
    rw [last] at clock
    simp [inLeapSecond, leap, last, clock, nano_eq]
  · have nano_eq : t.nano % nanosPerSecond = t.nano := Nat.mod_eq_of_lt (Nat.lt_of_not_le leap)
    have ordinary : t.second % 60 ≠ 60 := by omega
    simp [inLeapSecond, leap, ordinary, clock, nano_eq]

/-- A moment is put together again from its date and its time of day. -/
theorem ofLocal?_self (t : Instant) :
    ofLocal? (Date.ofDay t.day) ⟨t.second, t.nano⟩ 0 = some t := by
  have second_lt := t.second_lt
  have day_eq : (t.day * secondsPerDay + t.second) / secondsPerDay = t.day := by
    simp only [secondsPerDay] at *
    omega
  have second_eq : ((t.day * secondsPerDay + t.second) % secondsPerDay).toNat = t.second := by
    simp only [secondsPerDay] at *
    omega
  unfold ofLocal?
  simp only [Date.toDay_ofDay, Int.sub_zero, day_eq, second_eq]
  exact dif_pos ⟨t.first_le, t.le_last, t.first_le, t.le_last, t.nano_lt, t.leap_second⟩

/-- A moment is read back from its text. -/
theorem ofText?_text (t : Instant) : ofText? t.text = some t := by
  have date_read := date?_chars (Date.valid_ofDay t.day) ('T' :: (t.timeChars ++ ['Z']))
  have between : separator? ('T' :: (t.timeChars ++ ['Z'])) = some (t.timeChars ++ ['Z']) := rfl
  have time_read := t.timeOfDay?_timeChars []
  have zone_chars : "Z".toList = ['Z'] := rfl
  have zone_read : zone? ['Z'] = some (0, []) := rfl
  have all_read : (Blank.skip []).isEmpty = true := rfl
  rw [ofText?, text, String.toList_ofList, chars, written, zone_chars, List.append_assoc,
    List.cons_append, ofChars?]
  simp only [date_read, between, time_read, zone_read, all_read, Option.bind_eq_bind,
    Option.bind_some, if_true, ofLocal?_self]

end Instant

end AuctionHouse
