import CircleBackend.Library.Calendar
import CircleBackend.Library.Decimal

/-!
# Dates

The days before and after the epoch, with their months numbered through, and the text of a
date. Texts of years of four digits are in the order of their days.

* `monthOfDay_bounds`: the month that a day lies in;
* `isoDate_lt`: the texts are in the order of the days.
-/

namespace CircleBackend.Library

def msPerDay : Int := 86400000

/-- The month of a day since the epoch, numbered through from March of the year 0. -/
def monthOfDay (d : Int) : Int :=
  4800 * ((d + 719468) / 146097) + dayMonth ((d + 719468) % 146097).toNat

/-- The first day of a month. -/
def firstOfMonth (m : Int) : Int := 146097 * (m / 4800) + marchMonth (m % 4800).toNat - 719468

def yearOfDay (d : Int) : Int := (monthOfDay d + 2) / 12

/-- Zero is January. -/
def monthInYear (d : Int) : Int := (monthOfDay d + 2) % 12

def dayInMonth (d : Int) : Int := d - firstOfMonth (monthOfDay d) + 1

/-! ## Months -/

theorem marchMonth_cycle : marchMonth 4800 = 146097 := by decide

theorem firstOfMonth_lt (m : Int) : firstOfMonth m + 28 ≤ firstOfMonth (m + 1) := by
  unfold firstOfMonth
  have next := marchMonth_lt (m % 4800).toNat
  by_cases last : m % 4800 = 4799
  · have era : (m + 1) / 4800 = m / 4800 + 1 := by omega
    have first : (m + 1) % 4800 = 0 := by omega
    rw [last] at next ⊢
    rw [era, first]
    have cycle := marchMonth_cycle
    have zero : marchMonth 0 = 0 := by decide
    simp only [Int.toNat_zero, zero]
    have same : Int.toNat 4799 + 1 = 4800 := by decide
    rw [same] at next
    omega
  · have era : (m + 1) / 4800 = m / 4800 := by omega
    have later : ((m + 1) % 4800).toNat = (m % 4800).toNat + 1 := by omega
    rw [era, later]
    omega

theorem firstOfMonth_lt_iff {m n : Int} : firstOfMonth m < firstOfMonth n ↔ m < n := by
  refine StrictMono.lt_iff_lt (strictMono_int_of_lt_succ fun k => ?_)
  have next := firstOfMonth_lt k
  omega

theorem firstOfMonth_mono {m n : Int} (le : m ≤ n) : firstOfMonth m ≤ firstOfMonth n :=
  Int.not_lt.mp fun less => Int.not_lt.mpr le (firstOfMonth_lt_iff.mp less)

theorem dayMonth_lt {z : Nat} (day : z < 146097) : dayMonth z < 4800 := by
  by_contra late
  have low := marchMonth_mono (Nat.not_lt.mp late)
  have bounds := (dayMonth_bounds z).1
  rw [marchMonth_cycle] at low
  omega

theorem monthOfDay_bounds (d : Int) :
    firstOfMonth (monthOfDay d) ≤ d ∧ d < firstOfMonth (monthOfDay d + 1) := by
  obtain ⟨z, hz⟩ : ∃ z, z = ((d + 719468) % 146097).toNat := ⟨_, rfl⟩
  have inside : z < 146097 := by omega
  have short := dayMonth_lt inside
  obtain ⟨low, high⟩ := dayMonth_bounds z
  have own : monthOfDay d = 4800 * ((d + 719468) / 146097) + dayMonth z := by
    rw [hz]
    rfl
  have first : firstOfMonth (monthOfDay d) =
      146097 * ((d + 719468) / 146097) + marchMonth (dayMonth z) - 719468 := by
    have era : (4800 * ((d + 719468) / 146097) + (dayMonth z : Int)) / 4800 =
        (d + 719468) / 146097 := by omega
    have rest : ((4800 * ((d + 719468) / 146097) + (dayMonth z : Int)) % 4800).toNat =
        dayMonth z := by omega
    rw [own, firstOfMonth, era, rest]
  refine ⟨by omega, ?_⟩
  by_cases last : dayMonth z = 4799
  · have next : firstOfMonth (monthOfDay d + 1) =
        146097 * ((d + 719468) / 146097 + 1) - 719468 := by
      have era : (4800 * ((d + 719468) / 146097) + (4799 : Int) + 1) / 4800 =
          (d + 719468) / 146097 + 1 := by omega
      have rest : ((4800 * ((d + 719468) / 146097) + (4799 : Int) + 1) % 4800).toNat = 0 := by
        omega
      rw [own, last, firstOfMonth, Nat.cast_ofNat, era, rest]
      have zero : marchMonth 0 = 0 := by decide
      rw [zero]
      omega
    omega
  · have next : firstOfMonth (monthOfDay d + 1) =
        146097 * ((d + 719468) / 146097) + marchMonth (dayMonth z + 1) - 719468 := by
      have era : (4800 * ((d + 719468) / 146097) + (dayMonth z : Int) + 1) / 4800 =
          (d + 719468) / 146097 := by omega
      have rest : ((4800 * ((d + 719468) / 146097) + (dayMonth z : Int) + 1) % 4800).toNat =
          dayMonth z + 1 := by omega
      rw [own, firstOfMonth, era, rest]
    omega

theorem monthOfDay_eq_iff {d m : Int} :
    monthOfDay d = m ↔ firstOfMonth m ≤ d ∧ d < firstOfMonth (m + 1) := by
  constructor
  · rintro rfl
    exact monthOfDay_bounds d
  · rintro ⟨low, high⟩
    obtain ⟨own, next⟩ := monthOfDay_bounds d
    apply le_antisymm
    · exact Int.lt_add_one_iff.mp (firstOfMonth_lt_iff.mp (own.trans_lt high))
    · exact Int.lt_add_one_iff.mp (firstOfMonth_lt_iff.mp (low.trans_lt next))

theorem monthOfDay_mono {d e : Int} (le : d ≤ e) : monthOfDay d ≤ monthOfDay e :=
  Int.lt_add_one_iff.mp <| firstOfMonth_lt_iff.mp <|
    (monthOfDay_bounds d).1.trans_lt (le.trans_lt (monthOfDay_bounds e).2)

/-- A year and a month in it are a month numbered through. -/
theorem monthOfDay_iff {d year month : Int} (inYear : 0 ≤ month ∧ month < 12) :
    monthOfDay d = 12 * year + month - 2 ↔ yearOfDay d = year ∧ monthInYear d = month := by
  unfold yearOfDay monthInYear
  omega

theorem firstOfMonth_le (m : Int) : firstOfMonth (m + 1) ≤ firstOfMonth m + 31 := by
  unfold firstOfMonth
  have bound (n : Nat) : marchMonth (n + 1) ≤ marchMonth n + 31 := by
    unfold marchMonth
    by_cases last : n % 12 = 11
    · have year : (n + 1) / 12 = n / 12 + 1 := by omega
      have month : (n + 1) % 12 = 0 := by omega
      have leap := leapDays_succ (n / 12)
      rw [year, month, last]
      omega
    · have year : (n + 1) / 12 = n / 12 := by omega
      have month : (n + 1) % 12 = n % 12 + 1 := by omega
      rw [year, month]
      omega
  have next := bound (m % 4800).toNat
  by_cases last : m % 4800 = 4799
  · have era : (m + 1) / 4800 = m / 4800 + 1 := by omega
    have first : (m + 1) % 4800 = 0 := by omega
    have zero : marchMonth 0 = 0 := by decide
    have same : marchMonth 4799 = 146068 := by decide
    have own : (m % 4800).toNat = 4799 := by omega
    rw [era, first, own, same, Int.toNat_zero, zero]
    omega
  · have era : (m + 1) / 4800 = m / 4800 := by omega
    have later : ((m + 1) % 4800).toNat = (m % 4800).toNat + 1 := by omega
    rw [era, later]
    omega

theorem dayInMonth_bounds (d : Int) : 1 ≤ dayInMonth d ∧ dayInMonth d ≤ 31 := by
  obtain ⟨low, high⟩ := monthOfDay_bounds d
  have short := firstOfMonth_le (monthOfDay d)
  unfold dayInMonth
  omega

/-! ## Texts -/

/-- `padStart(2, '0')` of a number below 100. -/
def twoDigits (n : Nat) : JsString := [(48 + n / 10).toUInt16, (48 + n % 10).toUInt16]

def fourDigits (n : Nat) : JsString := twoDigits (n / 100) ++ twoDigits (n % 100)

/-- The year of a date text, with a sign and six digits where it has no four. -/
def isoYear (year : Int) : JsString :=
  if 0 ≤ year ∧ year ≤ 9999 then fourDigits year.toNat
  else (if year < 0 then 45 else 43) ::
    (twoDigits (year.natAbs / 10000) ++ fourDigits (year.natAbs % 10000))

def isoDate (d : Int) : JsString :=
  isoYear (yearOfDay d) ++ 45 :: (twoDigits (monthInYear d + 1).toNat ++
    45 :: twoDigits (dayInMonth d).toNat)

theorem digit_toNat {n : Nat} (small : n < 10) : (48 + n).toUInt16.toNat = 48 + n := by
  rw [Nat.toUInt16, UInt16.toNat_ofNat']
  omega

theorem twoDigits_lt {m n : Nat} {s t : JsString} (first : m < 100) (second : n < 100) :
    twoDigits m ++ s < twoDigits n ++ t ↔ m < n ∨ m = n ∧ s < t := by
  have digits (k : Nat) (small : k < 100) : (48 + k / 10).toUInt16.toNat = 48 + k / 10 ∧
      (48 + k % 10).toUInt16.toNat = 48 + k % 10 := ⟨digit_toNat (by omega), digit_toNat (by omega)⟩
  obtain ⟨tens, ones⟩ := digits m first
  obtain ⟨tens', ones'⟩ := digits n second
  simp only [twoDigits, List.cons_append, List.nil_append, List.cons_lt_cons_iff,
    UInt16.lt_iff_toNat_lt, ← UInt16.toNat_inj, tens, ones, tens', ones']
  by_cases below : s < t
  · simp only [below, and_true]
    omega
  · simp only [below, and_false, or_false]
    omega

theorem fourDigits_lt {m n : Nat} {s t : JsString} (first : m < 10000) (second : n < 10000) :
    fourDigits m ++ s < fourDigits n ++ t ↔ m < n ∨ m = n ∧ s < t := by
  rw [fourDigits, fourDigits, List.append_assoc, List.append_assoc,
    twoDigits_lt (by omega) (by omega), twoDigits_lt (by omega) (by omega)]
  by_cases below : s < t
  · simp only [below, and_true]
    omega
  · simp only [below, and_false, or_false]
    omega

theorem natText_fourDigits {n : Nat} (low : 1000 ≤ n) (high : n < 10000) :
    natText n = fourDigits n := by
  unfold natText
  rw [Nat.digits_def' (by decide) (by omega), Nat.digits_def' (by decide) (by omega),
    Nat.digits_def' (by decide) (by omega), Nat.digits_def' (by decide) (by omega)]
  have done : n / 10 / 10 / 10 / 10 = 0 := by omega
  have thousands : n / 10 / 10 / 10 % 10 = n / 100 / 10 := by omega
  have hundreds : n / 10 / 10 % 10 = n / 100 % 10 := by omega
  have tens : n / 10 % 10 = n % 100 / 10 := by omega
  have ones : n % 10 = n % 100 % 10 := by omega
  rw [done, thousands, hundreds, tens, ones]
  rfl

/-! ## Instants -/

def threeDigits (n : Nat) : JsString := (48 + n / 100).toUInt16 :: twoDigits (n % 100)

/-- The time of the day, from `T` on. -/
def isoTime (ms : Nat) : JsString :=
  84 :: (twoDigits (ms / 3600000) ++ 58 :: (twoDigits (ms / 60000 % 60) ++
    58 :: (twoDigits (ms / 1000 % 60) ++ 46 :: (threeDigits (ms % 1000) ++ [90]))))

def toISOString (t : Int) : JsString := isoDate (t / msPerDay) ++ isoTime (t % msPerDay).toNat

def digitsValue (s : JsString) : Nat := s.foldl (fun n c => n * 10 + (c.toNat - 48)) 0

/-- The instant of a text that `toISOString` writes. -/
def readISOString (s : JsString) : Option Int :=
  let signed := s.head? = some 43 ∨ s.head? = some 45
  let year : Int := digitsValue (if signed then s.tail.take 6 else s.take 4)
  let rest := s.drop (if signed then 7 else 4)
  let field (at' width : Nat) := digitsValue ((rest.drop at').take width)
  let day := firstOfMonth (12 * (if s.head? = some 45 then -year else year) + field 1 2 - 3) +
    field 4 2 - 1
  let t := day * msPerDay +
    (field 7 2 * 3600000 + field 10 2 * 60000 + field 13 2 * 1000 + field 16 3 : Nat)
  if toISOString t = s then some t else none

/-- A year of four digits. -/
def Plain (d : Int) : Prop := 1000 ≤ yearOfDay d ∧ yearOfDay d ≤ 9999

theorem isoDate_plain {d : Int} (plain : Plain d) : isoDate d = fourDigits (yearOfDay d).toNat ++
    45 :: (twoDigits (monthInYear d + 1).toNat ++ 45 :: twoDigits (dayInMonth d).toNat) := by
  obtain ⟨low, high⟩ := plain
  rw [isoDate, isoYear, if_pos ⟨by omega, high⟩]

theorem isoDate_lt {d e : Int} (first : Plain d) (second : Plain e) :
    isoDate d < isoDate e ↔ d < e := by
  obtain ⟨dayLow, dayHigh⟩ := dayInMonth_bounds d
  obtain ⟨dayLow', dayHigh'⟩ := dayInMonth_bounds e
  have low := monthOfDay_bounds d
  have low' := monthOfDay_bounds e
  have dash {s t : JsString} : (45 : UInt16) :: s < 45 :: t ↔ s < t := by
    simp
  have last (s : JsString) : twoDigits (dayInMonth d).toNat = twoDigits (dayInMonth d).toNat ++ [] ∧
      twoDigits (dayInMonth e).toNat = twoDigits (dayInMonth e).toNat ++ [] := by simp
  rw [isoDate_plain first, isoDate_plain second]
  unfold Plain at first second
  rw [fourDigits_lt (by omega) (by omega), dash, twoDigits_lt ?_ ?_, dash, (last []).1, (last []).2,
    twoDigits_lt (by omega) (by omega)]
  · have lt_irrefl : ¬([] : JsString) < [] := by simp
    simp only [lt_irrefl, and_false, or_false]
    -- the parts are the month numbered through, and the day in it
    have parts : yearOfDay d * 12 + monthInYear d = monthOfDay d + 2 ∧
        yearOfDay e * 12 + monthInYear e = monthOfDay e + 2 ∧ 0 ≤ monthInYear d ∧
        monthInYear d < 12 ∧ 0 ≤ monthInYear e ∧ monthInYear e < 12 := by
      unfold yearOfDay monthInYear
      omega
    rcases lt_trichotomy (monthOfDay d) (monthOfDay e) with before | same | after
    · have le : d < e := by
        by_contra later
        exact absurd (monthOfDay_mono (Int.not_lt.mp later)) (Int.not_le.mpr before)
      omega
    · have days : dayInMonth d - dayInMonth e = d - e := by
        unfold dayInMonth
        rw [same]
        omega
      omega
    · have le : e < d := by
        by_contra later
        exact absurd (monthOfDay_mono (Int.not_lt.mp later)) (Int.not_le.mpr after)
      omega
  all_goals
    unfold monthInYear
    omega

/-! ## Reading -/

theorem digitsValue_two {n : Nat} (small : n < 100) : digitsValue (twoDigits n) = n := by
  simp only [digitsValue, twoDigits, List.foldl_cons, List.foldl_nil,
    digit_toNat (show n / 10 < 10 by omega), digit_toNat (show n % 10 < 10 by omega)]
  omega

theorem digitsValue_four {n : Nat} (small : n < 10000) : digitsValue (fourDigits n) = n := by
  simp only [digitsValue, fourDigits, twoDigits, List.cons_append, List.nil_append, List.foldl_cons,
    List.foldl_nil, digit_toNat (show n / 100 / 10 < 10 by omega),
    digit_toNat (show n / 100 % 10 < 10 by omega), digit_toNat (show n % 100 / 10 < 10 by omega),
    digit_toNat (show n % 100 % 10 < 10 by omega)]
  omega

theorem digitsValue_three {n : Nat} (small : n < 1000) : digitsValue (threeDigits n) = n := by
  simp only [digitsValue, threeDigits, twoDigits, List.foldl_cons, List.foldl_nil,
    digit_toNat (show n / 100 < 10 by omega), digit_toNat (show n % 100 / 10 < 10 by omega),
    digit_toNat (show n % 100 % 10 < 10 by omega)]
  omega

theorem digitsValue_six {n : Nat} (small : n < 1000000) :
    digitsValue (twoDigits (n / 10000) ++ fourDigits (n % 10000)) = n := by
  have four := digitsValue_four (show n % 10000 < 10000 by omega)
  have two := digitsValue_two (show n / 10000 < 100 by omega)
  unfold digitsValue at *
  rw [List.foldl_append, two]
  simp only [fourDigits, twoDigits, List.cons_append, List.nil_append, List.foldl_cons,
    List.foldl_nil] at four ⊢
  omega

/-- What is written is read back, where six digits are enough for the year. -/
theorem readISOString_toISOString {t : Int} (near : (yearOfDay (t / msPerDay)).natAbs < 1000000) :
    readISOString (toISOString t) = some t := by
  obtain ⟨d, hd⟩ : ∃ d, d = t / msPerDay := ⟨_, rfl⟩
  obtain ⟨ms, hms⟩ : ∃ ms, ms = (t % msPerDay).toNat := ⟨_, rfl⟩
  obtain ⟨rest, hrest⟩ : ∃ rest, rest = 45 :: (twoDigits (monthInYear d + 1).toNat ++
      45 :: (twoDigits (dayInMonth d).toNat ++ isoTime ms)) := ⟨_, rfl⟩
  have text : toISOString t = isoYear (yearOfDay d) ++ rest := by
    rw [toISOString, isoDate, ← hd, ← hms, hrest]
    simp
  obtain ⟨dayLow, dayHigh⟩ := dayInMonth_bounds d
  have short : ms < 86400000 := by
    unfold msPerDay at hms
    omega
  have month : 0 ≤ monthInYear d ∧ monthInYear d < 12 := by
    unfold monthInYear
    omega
  -- the fields behind the year
  have fields : digitsValue ((rest.drop 1).take 2) = (monthInYear d + 1).toNat ∧
      digitsValue ((rest.drop 4).take 2) = (dayInMonth d).toNat ∧
      digitsValue ((rest.drop 7).take 2) = ms / 3600000 ∧
      digitsValue ((rest.drop 10).take 2) = ms / 60000 % 60 ∧
      digitsValue ((rest.drop 13).take 2) = ms / 1000 % 60 ∧
      digitsValue ((rest.drop 16).take 3) = ms % 1000 := by
    rw [hrest]
    exact ⟨digitsValue_two (by omega), digitsValue_two (by omega), digitsValue_two (by omega),
      digitsValue_two (by omega), digitsValue_two (by omega), digitsValue_three (by omega)⟩
  have whole : (firstOfMonth (12 * yearOfDay d + ((monthInYear d + 1).toNat : Int) - 3) +
      ((dayInMonth d).toNat : Int) - 1) * msPerDay + ((ms / 3600000 * 3600000 +
        ms / 60000 % 60 * 60000 + ms / 1000 % 60 * 1000 + ms % 1000 : Nat) : Int) = t := by
    have months : 12 * yearOfDay d + ((monthInYear d + 1).toNat : Int) - 3 = monthOfDay d := by
      unfold yearOfDay monthInYear
      omega
    have days : firstOfMonth (monthOfDay d) + ((dayInMonth d).toNat : Int) - 1 = d := by
      unfold dayInMonth at *
      omega
    have parts : ms / 3600000 * 3600000 + ms / 60000 % 60 * 60000 + ms / 1000 % 60 * 1000 +
        ms % 1000 = ms := by omega
    rw [months, days, parts, hd]
    unfold msPerDay at *
    omega
  obtain ⟨month', day', hour, minute, second, milli⟩ := fields
  rw [← hd] at near
  by_cases plain : 0 ≤ yearOfDay d ∧ yearOfDay d ≤ 9999
  · have year : digitsValue ((toISOString t).take 4) = (yearOfDay d).toNat := by
      rw [text, isoYear, if_pos plain]
      exact digitsValue_four (by omega)
    have later : (toISOString t).drop 4 = rest := by
      rw [text, isoYear, if_pos plain]
      rfl
    have digit (n : Nat) (small : n < 10) : (48 + n).toUInt16 ≠ 43 ∧ (48 + n).toUInt16 ≠ 45 := by
      revert n
      decide
    have head : ¬(toISOString t).head? = some 43 ∧ ¬(toISOString t).head? = some 45 := by
      rw [text, isoYear, if_pos plain]
      have other := digit ((yearOfDay d).toNat / 100 / 10) (by omega)
      simpa [fourDigits, twoDigits] using other
    simp only [readISOString, head, or_self, ↓reduceIte, year, later, month', day', hour, minute,
      second, milli, Int.toNat_of_nonneg plain.1, whole]
  · obtain ⟨sign, hsign⟩ : ∃ sign : UInt16, sign = if yearOfDay d < 0 then 45 else 43 := ⟨_, rfl⟩
    have shape : isoYear (yearOfDay d) = sign :: (twoDigits ((yearOfDay d).natAbs / 10000) ++
        fourDigits ((yearOfDay d).natAbs % 10000)) := by
      rw [isoYear, if_neg plain, hsign]
    have year : digitsValue ((toISOString t).tail.take 6) = (yearOfDay d).natAbs := by
      rw [text, shape]
      exact digitsValue_six near
    have later : (toISOString t).drop 7 = rest := by
      rw [text, shape]
      rfl
    have head : (toISOString t).head? = some sign := by
      rw [text, shape]
      rfl
    have value : (if sign = 45 then -((yearOfDay d).natAbs : Int) else (yearOfDay d).natAbs) =
        yearOfDay d := by
      by_cases negative : yearOfDay d < 0
      · rw [hsign, if_pos negative, if_pos rfl]
        omega
      · rw [hsign, if_neg negative, if_neg (by decide)]
        omega
    have signed : sign = 43 ∨ sign = 45 := by
      rw [hsign]
      split <;> simp
    simp only [readISOString, head, Option.some.injEq, signed, ↓reduceIte, year, later, month',
      day', hour, minute, second, milli, value, whole]

end CircleBackend.Library
