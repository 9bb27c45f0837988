import CircleBackend.Library.Calendar
import CircleBackend.Memberships.Grants

/-!
# The months of a date

`utcDate` and `utcDays` against the months that are numbered through: a date is
`utcDays` of its own parts, and lies before the first of the next month.
-/

namespace CircleBackend.Memberships

open Library

/-- The days from the first of March of the year 0 to the epoch. -/
def epochDay : Nat := 719468

/-- The month of a date, numbered through. -/
def UtcDate.march (date : UtcDate) : Nat := 12 * date.year + date.month - 2

theorem utcDays_march {year month day : Nat} (some' : 2 ≤ 12 * year + month) (first : 1 ≤ day) :
    utcDays year month day = marchMonth (12 * year + month - 2) + day - 1 - epochDay := by
  obtain ⟨y, hy⟩ : ∃ y, y = year + month / 12 := ⟨_, rfl⟩
  obtain ⟨m, hm⟩ : ∃ m, m = month % 12 := ⟨_, rfl⟩
  have same : 12 * year + month = 12 * y + m := by omega
  have month12 : m < 12 := by omega
  unfold utcDays epochDay
  rw [same, ← hy, ← hm]
  dsimp only
  unfold marchMonth leapDays
  by_cases late : 2 ≤ m
  · have year' : (12 * y + m - 2) / 12 = y := by omega
    have month' : (12 * y + m - 2) % 12 = m - 2 := by omega
    rw [if_neg (by omega), if_pos late, year', month']
    omega
  · have year' : (12 * y + m - 2) / 12 = y - 1 := by omega
    have month' : (12 * y + m - 2) % 12 = m + 10 := by omega
    rw [if_pos (by omega), if_neg late, year', month']
    omega

/-- The parts of a date, from its year of 400 and its day of the year. -/
theorem utcDate_parts (days : Nat) : ∃ doy < 366,
    marchMonth (12 * (400 * ((days + epochDay) / 146097) +
        yearOfEra ((days + epochDay) % 146097)) + (5 * doy + 2) / 153) +
        (doy - (153 * ((5 * doy + 2) / 153) + 2) / 5) = days + epochDay ∧
      dayMonth (days + epochDay) = 12 * (400 * ((days + epochDay) / 146097) +
        yearOfEra ((days + epochDay) % 146097)) + (5 * doy + 2) / 153 ∧
      (utcDate days).march = dayMonth (days + epochDay) ∧
      (utcDate days).day = doy - (153 * ((5 * doy + 2) / 153) + 2) / 5 + 1 := by
  obtain ⟨z, hz⟩ : ∃ z, z = days + epochDay := ⟨_, rfl⟩
  obtain ⟨year, low, high⟩ := yearOfEra_bounds (Nat.mod_lt z (show 0 < 146097 by decide))
  have whole := Nat.div_add_mod z 146097
  obtain ⟨yoe, hyoe⟩ : ∃ yoe, yoe = yearOfEra (z % 146097) := ⟨_, rfl⟩
  have started : 365 * yoe + yoe / 4 - yoe / 100 = 365 * yoe + leapDays yoe := by
    unfold leapDays
    omega
  have leap := leapDays_succ yoe
  obtain ⟨doy, hdoy⟩ : ∃ doy, doy = z % 146097 - (365 * yoe + leapDays yoe) := ⟨_, rfl⟩
  rw [← hyoe] at low high
  have short : doy < 366 := by omega
  have month : (5 * doy + 2) / 153 < 12 := by omega
  have numbered : dayMonth z = 12 * (400 * (z / 146097) + yoe) + (5 * doy + 2) / 153 := by
    unfold dayMonth
    rw [← hyoe]
    dsimp only
    rw [← hdoy]
  have date : utcDate days =
      { year := yoe + z / 146097 * 400 +
          (if (if (5 * doy + 2) / 153 < 10 then (5 * doy + 2) / 153 + 2
            else (5 * doy + 2) / 153 - 10) ≤ 1 then 1 else 0)
        month := if (5 * doy + 2) / 153 < 10 then (5 * doy + 2) / 153 + 2
          else (5 * doy + 2) / 153 - 10
        day := doy - (153 * ((5 * doy + 2) / 153) + 2) / 5 + 1 } := by
    rw [hdoy, ← started, hyoe, hz]
    rfl
  rw [← hz]
  refine ⟨doy, short, ?_, ?_, ?_, ?_⟩
  · rw [← hyoe, marchMonth_era month]
    omega
  · rw [numbered, hyoe]
  · rw [numbered, date]
    unfold UtcDate.march
    dsimp only
    split <;> split <;> omega
  · rw [date]

theorem utcDate_day (days : Nat) :
    marchMonth (utcDate days).march + (utcDate days).day = days + epochDay + 1 ∧
      1 ≤ (utcDate days).day ∧ days + epochDay < marchMonth ((utcDate days).march + 1) := by
  obtain ⟨doy, short, whole, numbered, month, day⟩ := utcDate_parts days
  have inside := (dayMonth_bounds (days + epochDay)).2
  rw [month, day]
  refine ⟨?_, by omega, inside⟩
  rw [numbered]
  omega

/-- The first of January 1970 is the first of a month. -/
theorem marchMonth_epoch : marchMonth (12 * 1970 - 2) = epochDay := by decide

theorem march_epoch (days : Nat) : 12 * 1970 - 2 ≤ (utcDate days).march := by
  by_contra before
  have next : (utcDate days).march + 1 ≤ 12 * 1970 - 2 := by omega
  have low := marchMonth_mono next
  rw [marchMonth_epoch] at low
  have inside := (utcDate_day days).2.2
  omega

/-- The first of the month that is `months` after the one of a date. -/
theorem utcDays_later (days months : Nat) :
    utcDays (utcDate days).year ((utcDate days).month + months) 1 + epochDay =
      marchMonth ((utcDate days).march + months) := by
  have after := march_epoch days
  have late : 2 ≤ 12 * (utcDate days).year + (utcDate days).month := by
    unfold UtcDate.march at after
    omega
  have same : 12 * (utcDate days).year + ((utcDate days).month + months) - 2 =
      (utcDate days).march + months := by
    unfold UtcDate.march
    omega
  have low := marchMonth_mono (show 12 * 1970 - 2 ≤ (utcDate days).march + months by omega)
  rw [marchMonth_epoch] at low
  rw [utcDays_march (by omega) (Nat.le_refl 1), same]
  omega

/-- A day of the month that begins at `low` and ends at `high`, moved to the month that
begins at `low'` and ends at `high'`. -/
theorem clamped_le {days day epoch low high low' high' from' until' : Nat}
    (whole : low + day = days + epoch + 1) (first : 1 ≤ day) (inside : days + epoch < high)
    (start : from' + epoch = low') (ends : until' + epoch = high') (long : low' + 28 ≤ high')
    (later : low' = low ∧ high' = high ∨ high ≤ low') :
    days ≤ from' + min day (until' - from') - 1 := by
  rcases later with ⟨rfl, rfl⟩ | later
  · have kept : day ≤ until' - from' := by omega
    rw [Nat.min_eq_left kept]
    omega
  · have positive : 1 ≤ min day (until' - from') := by
      apply Nat.le_min.mpr
      omega
    omega

/-- The day that a date falls on `months` later. -/
theorem days_le_later (days months : Nat) :
    days ≤ utcDays (utcDate days).year ((utcDate days).month + months) 1 +
      min (utcDate days).day (utcDays (utcDate days).year ((utcDate days).month + months + 1) 1 -
        utcDays (utcDate days).year ((utcDate days).month + months) 1) - 1 := by
  obtain ⟨whole, first, inside⟩ := utcDate_day days
  apply clamped_le whole first inside (utcDays_later days months) (utcDays_later days (months + 1))
    (marchMonth_lt _)
  by_cases none' : months = 0
  · left
    constructor
    · rw [none', Nat.add_zero]
    · rw [none', Nat.add_zero]
  · exact Or.inr (marchMonth_mono (by omega))

theorem addUtcCalendarMonths_le (source : Time) (months : Nat) :
    source ≤ addUtcCalendarMonths source months := by
  have scaled := Nat.mul_le_mul_right msPerDay (days_le_later (source / msPerDay) months)
  have moved := Nat.add_le_add_right scaled (source % msPerDay)
  rw [Nat.div_add_mod'] at moved
  exact moved

end CircleBackend.Memberships
