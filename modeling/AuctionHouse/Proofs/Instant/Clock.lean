import AuctionHouse.Instant.Basic

/-!
# Differences of moments

A leap second counts in a difference by the times of day, not by the days.  So a difference to a
moment in a leap second can be a second off, and is then not that of any clock.  Away from leap
seconds all differences are exact (`exact_of_not_leap`), and exact differences grow with the later
moment (`Exact.millisSince_le`).
-/

namespace AuctionHouse.Instant

/-- Whether the differences between some moments are exact: they are those of a clock that runs in
the order of the moments. -/
def Exact (moments : List Instant) : Prop :=
  ∃ clock : Instant → Int, ∀ a ∈ moments, ∀ b ∈ moments,
    (a ≤ b → clock a ≤ clock b) ∧ b.nanosSince a = clock b - clock a

/-- The nanoseconds from the start of day zero, without leap seconds. -/
def sinceDayZero (t : Instant) : Int :=
  (t.day * secondsPerDay + t.second) * nanosPerSecond + t.nano

/-- Moments that are not in leap seconds have exact differences. -/
theorem exact_of_not_leap {moments : List Instant}
    (plain : ∀ t ∈ moments, t.inLeapSecond = false) : Exact moments := by
  refine ⟨sinceDayZero, fun a a_mem b b_mem => ⟨fun le => ?_, ?_⟩⟩
  · have a_short : a.nano < nanosPerSecond := Nat.lt_of_not_le (of_decide_eq_false (plain a a_mem))
    have b_short : b.nano < nanosPerSecond := Nat.lt_of_not_le (of_decide_eq_false (plain b b_mem))
    simp only [le_def, rank, secondsPerDay, nanosPerSecond] at le a_short b_short
    simp only [sinceDayZero, secondsPerDay, nanosPerSecond]
    omega
  · simp only [nanosSince, plain a a_mem, plain b b_mem, Bool.false_eq_true, if_false, ite_self]
    simp only [sinceDayZero, secondsPerDay, nanosPerSecond]
    omega

variable {moments : List Instant} {start earlier later : Instant}

/-- Exact milliseconds since a moment grow with time. -/
theorem Exact.millisSince_le (exact : Exact moments) (start_mem : start ∈ moments)
    (earlier_mem : earlier ∈ moments) (later_mem : later ∈ moments) (order : earlier ≤ later) :
    earlier.millisSince start ≤ later.millisSince start := by
  obtain ⟨clock, reads⟩ := exact
  have grows := (reads earlier earlier_mem later later_mem).1 order
  unfold millisSince
  rw [(reads start start_mem earlier earlier_mem).2, (reads start start_mem later later_mem).2]
  exact Int.tdiv_le_tdiv (by decide) (by omega)

@[simp] theorem millisSince_self (t : Instant) : t.millisSince t = 0 := by
  simp [millisSince, nanosSince]

end AuctionHouse.Instant
