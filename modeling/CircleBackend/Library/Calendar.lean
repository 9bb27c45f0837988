import Mathlib.Order.Monotone.Basic

/-!
# The Gregorian calendar

Years begin in March, so that the leap day is the last day of its year, and months
are numbered through from March of the year 0.

* `yearOfEra_bounds`: the year of a day of the 400 years that repeat, from a division;
* `dayMonth_bounds`: the month that a day lies in.
-/

namespace CircleBackend.Library

/-- The leap days of the first `y` years. -/
def leapDays (y : Nat) : Nat := y / 4 - y / 100 + y / 400

theorem leapDays_le (y : Nat) : leapDays y ≤ leapDays (y + 1) := by
  unfold leapDays
  by_cases century : (y + 1) % 100 = 0
  · omega
  · have same : (y + 1) / 100 = y / 100 := by omega
    omega

theorem leapDays_succ (y : Nat) : leapDays (y + 1) ≤ leapDays y + 1 := by
  unfold leapDays
  by_cases century : (y + 1) % 100 = 0
  · omega
  · have same : (y + 1) / 100 = y / 100 := by omega
    omega

/-- The days before the month `n`, counted from the first of March of the year 0. -/
def marchMonth (n : Nat) : Nat := 365 * (n / 12) + leapDays (n / 12) + (153 * (n % 12) + 2) / 5

theorem marchMonth_lt (n : Nat) : marchMonth n + 28 ≤ marchMonth (n + 1) := by
  unfold marchMonth
  by_cases last : n % 12 = 11
  · have year : (n + 1) / 12 = n / 12 + 1 := by omega
    have month : (n + 1) % 12 = 0 := by omega
    have leap := leapDays_le (n / 12)
    rw [year, month, last]
    omega
  · have year : (n + 1) / 12 = n / 12 := by omega
    have month : (n + 1) % 12 = n % 12 + 1 := by omega
    rw [year, month]
    omega

theorem marchMonth_mono : Monotone marchMonth := by
  apply monotone_nat_of_le_succ
  intro n
  have next := marchMonth_lt n
  omega

/-- The year of the day `doe` of 400 years. -/
def yearOfEra (doe : Nat) : Nat := (doe - doe / 1460 + doe / 36524 - doe / 146096) / 365

theorem yearOfEra_eq {c k s : Nat} (century : c < 4) (cycle : k < 25) (day : s < 1461)
    (whole : k = 24 → s < 1460) :
    yearOfEra (36524 * c + 1461 * k + s) = 100 * c + 4 * k + min (s / 365) 3 := by
  unfold yearOfEra
  have era : (36524 * c + 1461 * k + s) / 146096 = 0 := by omega
  have centuries : (36524 * c + 1461 * k + s) / 36524 = c := by omega
  rw [era, centuries]
  by_cases late : 1460 ≤ 24 * c + k + s
  · have cycles : (36524 * c + 1461 * k + s) / 1460 = 25 * c + k + 1 := by omega
    rw [cycles]
    omega
  · have cycles : (36524 * c + 1461 * k + s) / 1460 = 25 * c + k := by omega
    rw [cycles]
    omega

theorem yearOfEra_bounds {doe : Nat} (h : doe < 146097) :
    yearOfEra doe < 400 ∧ 365 * yearOfEra doe + leapDays (yearOfEra doe) ≤ doe ∧
      doe < 365 * (yearOfEra doe + 1) + leapDays (yearOfEra doe + 1) := by
  by_cases last : doe = 146096
  · subst last
    decide
  · obtain ⟨c, hc⟩ : ∃ c, c = doe / 36524 := ⟨_, rfl⟩
    obtain ⟨k, hk⟩ : ∃ k, k = doe % 36524 / 1461 := ⟨_, rfl⟩
    obtain ⟨s, hs⟩ : ∃ s, s = doe % 36524 % 1461 := ⟨_, rfl⟩
    have split : doe = 36524 * c + 1461 * k + s := by omega
    have century : c < 4 := by omega
    have cycle : k < 25 := by omega
    have day : s < 1461 := by omega
    have whole : k = 24 → s < 1460 := by omega
    clear hc hk hs
    rw [split, yearOfEra_eq century cycle day whole]
    unfold leapDays
    obtain ⟨j, hj⟩ : ∃ j, j = min (s / 365) 3 := ⟨_, rfl⟩
    rw [← hj]
    have quad : (100 * c + 4 * k + j) / 4 = 25 * c + k := by omega
    have cent : (100 * c + 4 * k + j) / 100 = c := by omega
    have era : (100 * c + 4 * k + j) / 400 = 0 := by omega
    rw [quad, cent, era]
    refine ⟨by omega, by omega, ?_⟩
    by_cases inner : j < 3
    · have quad : (100 * c + 4 * k + j + 1) / 4 = 25 * c + k := by omega
      have cent : (100 * c + 4 * k + j + 1) / 100 = c := by omega
      omega
    · have three : j = 3 := by omega
      subst three
      have quad : (100 * c + 4 * k + 3 + 1) / 4 = 25 * c + k + 1 := by omega
      by_cases ends : k = 24
      · omega
      · have cent : (100 * c + 4 * k + 3 + 1) / 100 = c := by omega
        omega

/-- The month of a day, counted from the first of March of the year 0. -/
def dayMonth (z : Nat) : Nat :=
  let yoe := yearOfEra (z % 146097)
  12 * (400 * (z / 146097) + yoe) + (5 * (z % 146097 - (365 * yoe + leapDays yoe)) + 2) / 153

theorem leapDays_era (era y : Nat) : leapDays (400 * era + y) = 97 * era + leapDays y := by
  unfold leapDays
  omega

theorem marchMonth_era {era y m : Nat} (month : m < 12) :
    marchMonth (12 * (400 * era + y) + m) =
      146097 * era + 365 * y + leapDays y + (153 * m + 2) / 5 := by
  unfold marchMonth
  have year : (12 * (400 * era + y) + m) / 12 = 400 * era + y := by omega
  have own : (12 * (400 * era + y) + m) % 12 = m := by omega
  rw [year, own, leapDays_era]
  omega

theorem dayMonth_bounds (z : Nat) :
    marchMonth (dayMonth z) ≤ z ∧ z < marchMonth (dayMonth z + 1) := by
  obtain ⟨year, low, high⟩ := yearOfEra_bounds (Nat.mod_lt z (show 0 < 146097 by decide))
  have whole := Nat.div_add_mod z 146097
  obtain ⟨yoe, hyoe⟩ : ∃ yoe, yoe = yearOfEra (z % 146097) := ⟨_, rfl⟩
  obtain ⟨doy, hdoy⟩ : ∃ doy, doy = z % 146097 - (365 * yoe + leapDays yoe) := ⟨_, rfl⟩
  have leap := leapDays_succ yoe
  rw [← hyoe] at low high
  have short : doy < 366 := by omega
  have month : (5 * doy + 2) / 153 < 12 := by omega
  have numbered : dayMonth z = 12 * (400 * (z / 146097) + yoe) + (5 * doy + 2) / 153 := by
    unfold dayMonth
    rw [← hyoe]
    dsimp only
    rw [← hdoy]
  rw [numbered]
  refine ⟨by rw [marchMonth_era month]; omega, ?_⟩
  by_cases last : (5 * doy + 2) / 153 = 11
  · have next : 12 * (400 * (z / 146097) + yoe) + (5 * doy + 2) / 153 + 1 =
        12 * (400 * (z / 146097) + (yoe + 1)) + 0 := by omega
    rw [next, marchMonth_era (by decide)]
    omega
  · rw [Nat.add_assoc, marchMonth_era (by omega)]
    omega

end CircleBackend.Library
