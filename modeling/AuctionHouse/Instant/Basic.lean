import AuctionHouse.Power
import AuctionHouse.Fault
import AuctionHouse.Instant.Calendar

/-!
# Moments

A moment is a day of the calendar, a second of that day and a nanosecond of that second.  The last
second of a minute may be followed by a leap second, which is read as nanoseconds past the first
thousand million of the second before it.  Years run from -262143 to 262142.
-/

namespace AuctionHouse

/-- The first day of the calendar. -/
def Date.first : Int := Date.toDay ⟨-262143, 1, 1⟩

/-- The last day of the calendar. -/
def Date.last : Int := Date.toDay ⟨262142, 12, 31⟩

/-- Nanoseconds of a second. -/
def nanosPerSecond : Nat := 1000000000

/-- Seconds of a day. -/
def secondsPerDay : Nat := 86400

/-- A moment of universal time. -/
structure Instant where
  day : Int
  second : Nat
  nano : Nat
  first_le : Date.first ≤ day
  le_last : day ≤ Date.last
  second_lt : second < secondsPerDay
  nano_lt : nano < 2 * nanosPerSecond
  leap_second : nanosPerSecond ≤ nano → second % 60 = 59
deriving DecidableEq

namespace Instant

/-- The place of a moment in the order of moments.  A leap second lies between its second and the
next one. -/
def rank (t : Instant) : Int :=
  (t.day * secondsPerDay + t.second) * (2 * nanosPerSecond) + t.nano

instance : LT Instant := ⟨fun a b => a.rank < b.rank⟩

instance : LE Instant := ⟨fun a b => a.rank ≤ b.rank⟩

instance (a b : Instant) : Decidable (a < b) := inferInstanceAs (Decidable (a.rank < b.rank))

instance (a b : Instant) : Decidable (a ≤ b) := inferInstanceAs (Decidable (a.rank ≤ b.rank))

instance : Ord Instant := ⟨fun a b => compare a.rank b.rank⟩

theorem lt_def {a b : Instant} : a < b ↔ a.rank < b.rank := Iff.rfl

theorem le_def {a b : Instant} : a ≤ b ↔ a.rank ≤ b.rank := Iff.rfl

/-- Two moments of one rank are one moment. -/
theorem rank_injective {a b : Instant} (h : a.rank = b.rank) : a = b := by
  obtain ⟨day, second, nano, _, _, hs, hn, _⟩ := a
  obtain ⟨day', second', nano', _, _, hs', hn', _⟩ := b
  simp only [rank, secondsPerDay, nanosPerSecond] at h hs hs' hn hn'
  have : day = day' ∧ second = second' ∧ nano = nano' := by omega
  obtain ⟨rfl, rfl, rfl⟩ := this
  rfl

/-- Whether the moment lies in a leap second. -/
def inLeapSecond (t : Instant) : Bool := nanosPerSecond ≤ t.nano

/-- The moment `seconds` after the start of day zero, and `nano` nanoseconds more, if the calendar
has it. -/
def ofSeconds? (seconds : Int) (nano : Nat) (nano_lt : nano < nanosPerSecond) : Option Instant :=
  let day := seconds / secondsPerDay
  if h : Date.first ≤ day ∧ day ≤ Date.last then
    some {
      day
      second := (seconds % secondsPerDay).toNat
      nano
      first_le := h.1
      le_last := h.2
      second_lt := by simp only [secondsPerDay]; omega
      nano_lt := by omega
      leap_second := by omega }
  else
    none

/-- The longest duration in seconds. -/
def longestSeconds : Int := 9223372036854775

/-- The moment a number of seconds later, or earlier if the number is negative.  Leaving a leap
second forwards goes on from the second that it belongs to, leaving it backwards from the next. -/
def plusSeconds (t : Instant) (seconds : Int) : Except Fault Instant :=
  if seconds < -longestSeconds ∨ longestSeconds < seconds then .error .durationOutOfRange
  else if seconds = 0 then .ok t
  else
    let start := t.day * secondsPerDay + t.second +
      (if t.inLeapSecond ∧ seconds < 0 then 1 else 0)
    (ofSeconds? (start + seconds) (t.nano % nanosPerSecond) (Nat.mod_lt _ (by decide))).elim
      (.error .momentOutOfRange) .ok

/-- The nanoseconds from one moment to another.  A leap second counts if it lies between the two
times of day. -/
def nanosSince (later earlier : Instant) : Int :=
  let leap : Int :=
    if earlier.second < later.second then if earlier.inLeapSecond then 1 else 0
    else if later.second < earlier.second then if later.inLeapSecond then -1 else 0
    else 0
  ((later.day - earlier.day) * secondsPerDay + (later.second - earlier.second : Int) + leap) *
    nanosPerSecond + (later.nano - earlier.nano : Int)

/-- The whole milliseconds from one moment to another, cut towards zero. -/
def millisSince (later earlier : Instant) : Int :=
  (nanosSince later earlier).tdiv 1000000

/-- The calendar is so short that milliseconds fit 64 bits with room to spare. -/
theorem natAbs_millisSince_lt (later earlier : Instant) :
    (later.millisSince earlier).natAbs < twoTo 62 := by
  have first : Date.first = -95745824 := by decide
  have last : Date.last = 95745704 := by decide
  have nanos : nanosPerSecond = 1000000000 := rfl
  have bound : twoTo 62 = 4611686018427387904 := by decide
  obtain ⟨day, second, nano, hf, hl, hs, hn, _⟩ := later
  obtain ⟨day', second', nano', hf', hl', hs', hn', _⟩ := earlier
  rw [first] at hf hf'
  rw [last] at hl hl'
  simp only [secondsPerDay] at hs hs'
  simp only [millisSince, nanosSince, secondsPerDay, nanosPerSecond]
  generalize hleap : (if second' < second then _ else _ : Int) = leap
  have : -1 ≤ leap ∧ leap ≤ 1 := by
    rw [← hleap]
    split
    · split <;> decide
    · split
      · split <;> decide
      · decide
  rw [Int.natAbs_tdiv]
  refine Nat.div_lt_of_lt_mul ?_
  rw [bound]
  omega

end Instant

end AuctionHouse
