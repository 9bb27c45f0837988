import CircleBackend.Library.Dates

/-!
# The days of a month with messages

`messageDayWindows` cuts a month into the days of the client. In a time zone the beginning of
a day is found by bisection over the formatted dates (`search_first`), and the days found so
are those of the month, one after the other (`days_partition`).
-/

namespace CircleBackend.Chat

open Library

/-! ## What the calendar of the runtime does -/

/-- A `Date`, `none` where it is invalid. -/
def timeClip (t : Int) : Option Int := if t.natAbs ≤ 8640000000000000 then some t else none

/-- `Date.UTC`; months and days past the end of the year and of the month are later ones. -/
def dateUTC (year month day : Int) : Option Int :=
  timeClip ((firstOfMonth (12 * year + month - 2) + day - 1) * msPerDay)

/-- `toISOString().slice(0, 10)`, which throws where the date is invalid. -/
def isoDay (date : Option Int) : Option JsString := date.map fun t => (isoDate (t / msPerDay)).take 10

/-- A time zone whose date does not go back, at most 14 hours from UTC. -/
structure TimeZone where
  offset : Int → Int
  bounded : ∀ t, (offset t).natAbs ≤ 14 * 3600000
  forward : ∀ t u, t ≤ u → (t + offset t) / msPerDay ≤ (u + offset u) / msPerDay

/-- The local date, as a day since the epoch. -/
def TimeZone.day (zone : TimeZone) (t : Int) : Int := (t + zone.offset t) / msPerDay

/-- `en-US` with `year: 'numeric'` and two digits of the month and the day; there is no year 0. -/
def formatZonedDate (zone : TimeZone) (date : Int) : JsString :=
  let year := yearOfDay (zone.day date)
  natText (if 0 < year then year else 1 - year).toNat ++
    45 :: (twoDigits (monthInYear (zone.day date) + 1).toNat ++
      45 :: twoDigits (dayInMonth (zone.day date)).toNat)

/-! ## The windows -/

structure MessageDayWindow where
  day : JsString
  start : Option Int
  «end» : Option Int

/-- The `while` loop. -/
def bisect (zone : TimeZone) (target : JsString) (low high : Int) : Int :=
  if low < high then
    let middle := (low + high) / 2
    if formatZonedDate zone middle < target then bisect zone target (middle + 1) high
    else bisect zone target low middle
  else low
termination_by (high - low).toNat

def findUtcStartOfZonedDate (zone : TimeZone) (year month day : Int) : Option Int := do
  let normalized ← dateUTC year month day
  let target ← isoDay normalized
  return bisect zone target (normalized - 36 * 60 * 60 * 1000) (normalized + 36 * 60 * 60 * 1000)

/-- Outside `none`, a `RangeError`; inside it, `NaN`. -/
def startOf (year month tzOffsetMinutes : Int) (timeZone : Option TimeZone) (day : Int) :
    Option (Option Int) :=
  match timeZone with
  | some zone => (findUtcStartOfZonedDate zone year month day).map some
  | none => some ((dateUTC year month day).map (· + tzOffsetMinutes * 60000))

/-- `none` where a `RangeError` is thrown. -/
def messageDayWindows (year month tzOffsetMinutes : Int) (timeZone : Option TimeZone) :
    Option (List MessageDayWindow) := do
  let daysInMonth := ((dateUTC year (month + 1) 0).map fun t => (dayInMonth (t / msPerDay)).toNat).getD 0
  let starts ← (List.range (daysInMonth + 1)).mapM fun (i : Nat) =>
    startOf year month tzOffsetMinutes timeZone (i + 1)
  if starts.all Option.isSome then
    (List.range daysInMonth).mapM fun (i : Nat) => do
      let day ← isoDay (dateUTC year month (i + 1))
      return { day := day
               start := (starts[i]?.join).bind timeClip
               «end» := (starts[i + 1]?.join).bind timeClip }
  else return []

/-! ## The search -/

variable {zone : TimeZone} {year month : Int}

theorem zone_day_mono {t u : Int} (le : t ≤ u) : zone.day t ≤ zone.day u := zone.forward t u le

theorem format_plain {t : Int} (plain : Plain (zone.day t)) :
    formatZonedDate zone t = isoDate (zone.day t) := by
  rw [isoDate_plain plain, formatZonedDate]
  obtain ⟨low, high⟩ := plain
  rw [if_pos (by omega), natText_fourDigits (by omega) (by omega)]

/-- From the bracket on, the loop ends at the first instant of the day or later. -/
theorem bisect_first {d : Int} {low high : Int} (le : low ≤ high)
    (format : ∀ t, low ≤ t → t < high →
      (formatZonedDate zone t < isoDate d ↔ zone.day t < d))
    (before : ∀ t < low, zone.day t < d) (reached : d ≤ zone.day high) :
    ∀ t, d ≤ zone.day t ↔ bisect zone (isoDate d) low high ≤ t := by
  induction low, high using bisect.induct zone (isoDate d) with
  | case1 low high lt middle less ih =>
    have inside : low ≤ middle ∧ middle < high := by omega
    rw [bisect, if_pos lt]
    simp only [show formatZonedDate zone ((low + high) / 2) < isoDate d from less, ↓reduceIte]
    have early := (format middle inside.1 inside.2).mp less
    apply ih (by omega)
    · intro t above below
      exact format t (by omega) below
    · intro t below
      exact (zone_day_mono (by omega)).trans_lt early
    · exact reached
  | case2 low high lt middle less ih =>
    have inside : low ≤ middle ∧ middle < high := by omega
    rw [bisect, if_pos lt]
    simp only [show ¬formatZonedDate zone ((low + high) / 2) < isoDate d from less, ↓reduceIte]
    apply ih inside.1
    · intro t above below
      exact format t above (by omega)
    · exact before
    · exact Int.not_lt.mp fun early => less ((format middle inside.1 inside.2).mpr early)
  | case3 low high stop =>
    have same : high = low := by omega
    rw [bisect, if_neg stop]
    intro t
    constructor
    · intro later
      by_contra early
      exact absurd (before t (by omega)) (Int.not_lt.mpr later)
    · intro later
      exact (same ▸ reached).trans (zone_day_mono later)

/-- The days from the first of `month` on, to the first of the next month. -/
theorem monthDay_plain {d : Int} (low : 1001 ≤ year) (high : year ≤ 9998)
    (inYear : 0 ≤ month ∧ month < 12) (from' : firstOfMonth (12 * year + month - 2) ≤ d + 3)
    (until' : d ≤ firstOfMonth (12 * year + month - 1) + 3) : Plain d := by
  have months : 12 * year + month - 3 ≤ monthOfDay d ∧ monthOfDay d ≤ 12 * year + month - 1 := by
    constructor
    · by_contra early
      have next := (monthOfDay_bounds d).2
      have mono := firstOfMonth_mono
        (show monthOfDay d + 1 ≤ 12 * year + month - 3 by omega)
      have long := firstOfMonth_lt (12 * year + month - 3)
      rw [show 12 * year + month - 3 + 1 = 12 * year + month - 2 by omega] at long
      omega
    · by_contra late
      have own := (monthOfDay_bounds d).1
      have mono := firstOfMonth_mono
        (show 12 * year + month ≤ monthOfDay d by omega)
      have long := firstOfMonth_lt (12 * year + month - 1)
      rw [show 12 * year + month - 1 + 1 = 12 * year + month by omega] at long
      omega
  unfold Plain yearOfDay
  omega

/-- The years in question are far inside the times that a `Date` has. -/
theorem dateUTC_some (low : 1001 ≤ year) (high : year ≤ 9998) (inYear : 0 ≤ month ∧ month ≤ 12)
    {day : Int} (first : 0 ≤ day) (last : day ≤ 32) :
    dateUTC year month day =
      some ((firstOfMonth (12 * year + month - 2) + day - 1) * msPerDay) := by
  have down := firstOfMonth_mono (show 12000 ≤ 12 * year + month - 2 by omega)
  have up := firstOfMonth_mono (show 12 * year + month - 2 ≤ 120000 by omega)
  have least : -400000 ≤ firstOfMonth 12000 := by decide
  have most : firstOfMonth 120000 ≤ 3000000 := by decide
  unfold dateUTC timeClip msPerDay
  rw [if_pos (by omega)]

variable (zone) in
/-- The search ends at the first instant whose local date is the target or later. -/
theorem search_first (low : 1001 ≤ year) (high : year ≤ 9998) (inYear : 0 ≤ month ∧ month < 12)
    {day : Int} (first : 1 ≤ day)
    (last : firstOfMonth (12 * year + month - 2) + day - 1 ≤ firstOfMonth (12 * year + month - 1)) :
    ∃ start, findUtcStartOfZonedDate zone year month day = some start ∧
      (∀ t, firstOfMonth (12 * year + month - 2) + day - 1 ≤ zone.day t ↔ start ≤ t) ∧
      timeClip start = some start := by
  obtain ⟨d, hd⟩ : ∃ d, d = firstOfMonth (12 * year + month - 2) + day - 1 := ⟨_, rfl⟩
  have short := firstOfMonth_le (12 * year + month - 2)
  rw [show 12 * year + month - 2 + 1 = 12 * year + month - 1 by omega] at short
  have near (t : Int) (above : d * msPerDay - 36 * 60 * 60 * 1000 ≤ t)
      (below : t ≤ d * msPerDay + 36 * 60 * 60 * 1000) : d - 3 ≤ zone.day t ∧ zone.day t ≤ d + 3 := by
    have bounded := zone.bounded t
    unfold TimeZone.day msPerDay at *
    omega
  have format (t : Int) (above : d * msPerDay - 36 * 60 * 60 * 1000 ≤ t)
      (below : t < d * msPerDay + 36 * 60 * 60 * 1000) :
      formatZonedDate zone t < isoDate d ↔ zone.day t < d := by
    obtain ⟨from', until'⟩ := near t above below.le
    have plain : Plain (zone.day t) := monthDay_plain low high inYear (by omega) (by omega)
    rw [format_plain plain]
    exact isoDate_lt plain (monthDay_plain low high inYear (by omega) (by omega))
  have before (t : Int) (early : t < d * msPerDay - 36 * 60 * 60 * 1000) : zone.day t < d := by
    have bounded := zone.bounded t
    unfold TimeZone.day msPerDay at *
    omega
  have reached : d ≤ zone.day (d * msPerDay + 36 * 60 * 60 * 1000) := by
    have bounded := zone.bounded (d * msPerDay + 36 * 60 * 60 * 1000)
    unfold TimeZone.day msPerDay at *
    omega
  have found := bisect_first (by omega) format before reached
  have plain : Plain d := monthDay_plain low high inYear (by omega) (by omega)
  have text : (isoDate d).take 10 = isoDate d := by
    rw [isoDate_plain plain]
    rfl
  have utc := dateUTC_some low high ⟨inYear.1, inYear.2.le⟩ (show 0 ≤ day by omega) (by omega)
  rw [← hd] at utc ⊢
  refine ⟨_, ?_, found, ?_⟩
  · have whole : d * msPerDay / msPerDay = d := Int.mul_ediv_cancel _ (by decide)
    simp only [findUtcStartOfZonedDate, utc, isoDay, whole, text, Option.map_some,
      Option.bind_eq_bind, Option.bind_some]
    rfl
  · -- the first instant lies in the bracket
    have upper := (found _).mp reached
    have lower : ¬bisect zone (isoDate d) (d * msPerDay - 36 * 60 * 60 * 1000)
        (d * msPerDay + 36 * 60 * 60 * 1000) < d * msPerDay - 36 * 60 * 60 * 1000 := fun early =>
      absurd ((found _).mpr le_rfl) (Int.not_le.mpr (before _ early))
    have down := firstOfMonth_mono (show 12000 ≤ 12 * year + month - 2 by omega)
    have up := firstOfMonth_mono (show 12 * year + month - 2 ≤ 120000 by omega)
    have least : -400000 ≤ firstOfMonth 12000 := by decide
    have most : firstOfMonth 120000 ≤ 3000000 := by decide
    unfold timeClip
    rw [if_pos]
    unfold msPerDay at *
    omega

/-! ## The windows -/

/-- The client's date of an instant. -/
def localDay (tzOffsetMinutes : Int) (timeZone : Option TimeZone) (t : Int) : Int :=
  match timeZone with
  | some zone => zone.day t
  | none => (t - tzOffsetMinutes * 60000) / msPerDay

theorem mapM_some {α β : Type} {f : α → Option β} {g : α → β} {l : List α}
    (all : ∀ a ∈ l, f a = some (g a)) : l.mapM f = some (l.map g) := by
  induction l with
  | nil => rfl
  | cons a l ih =>
    rw [List.mapM_cons, all a List.mem_cons_self,
      ih fun b inside => all b (List.mem_cons_of_mem _ inside)]
    rfl

/-- Every window, from where each day begins. -/
theorem windows_of {tzOffsetMinutes : Int} {timeZone : Option TimeZone} {count : Nat}
    (first : Int) (starts : Nat → Int)
    (last : (dateUTC year (month + 1) 0).map (fun t => (dayInMonth (t / msPerDay)).toNat) = some count)
    (begins : ∀ i : Nat, i ≤ count → startOf year month tzOffsetMinutes timeZone (i + 1) =
      some (some (starts i)) ∧ timeClip (starts i) = some (starts i))
    (label : ∀ i : Nat, i < count → isoDay (dateUTC year month (i + 1)) = some (isoDate (first + i))) :
    messageDayWindows year month tzOffsetMinutes timeZone = some ((List.range count).map fun (i : Nat) =>
      ⟨isoDate (first + i), some (starts i), some (starts (i + 1))⟩) := by
  have run := mapM_some (l := List.range (count + 1)) fun i inside =>
    (begins i (Nat.lt_succ_iff.mp (List.mem_range.mp inside))).1
  have at' (i : Nat) (le : i ≤ count) :
      (((List.range (count + 1)).map fun i => some (starts i))[i]?.join).bind timeClip =
        some (starts i) := by
    rw [List.getElem?_map, List.getElem?_range (Nat.lt_succ_of_le le)]
    exact (begins i le).2
  simp only [messageDayWindows, last, Option.getD_some, Option.bind_eq_bind]
  rw [run, Option.bind_some, if_pos (by simp)]
  refine mapM_some fun i inside => ?_
  have lt := List.mem_range.mp inside
  rw [label i lt, at' i lt.le, at' (i + 1) lt]
  rfl

theorem days_partition {tzOffsetMinutes : Int} {timeZone : Option TimeZone} (low : 1001 ≤ year)
    (high : year ≤ 9998) (inYear : 0 ≤ month ∧ month < 12)
    (near : timeZone = none → tzOffsetMinutes.natAbs ≤ 14 * 60) :
    ∃ (windows : List MessageDayWindow) (first : Int),
      messageDayWindows year month tzOffsetMinutes timeZone = some windows ∧
      (∀ d, yearOfDay d = year ∧ monthInYear d = month ↔ ∃ i < windows.length, d = first + i) ∧
      (∀ (i : Nat) w, windows[i]? = some w → w.day = isoDate (first + i) ∧
        ∃ start «end», w.start = some start ∧ w.end = some «end» ∧ start ≤ «end» ∧
          ∀ t, start ≤ t ∧ t < «end» ↔ localDay tzOffsetMinutes timeZone t = first + i) ∧
      (∀ (i : Nat) v w, windows[i]? = some v → windows[i + 1]? = some w → v.end = w.start) ∧
      ∀ zone, timeZone = some zone → ∀ i : Nat, i ≤ windows.length → ∃ start,
        findUtcStartOfZonedDate zone year month (i + 1) = some start ∧
          IsLeast {t | first + i ≤ zone.day t} start := by
  obtain ⟨first, hfirst⟩ : ∃ first, first = firstOfMonth (12 * year + month - 2) := ⟨_, rfl⟩
  obtain ⟨next, hnext⟩ : ∃ next, next = firstOfMonth (12 * year + month - 1) := ⟨_, rfl⟩
  have succ : 12 * year + month - 2 + 1 = 12 * year + month - 1 := by omega
  have long := firstOfMonth_lt (12 * year + month - 2)
  have short := firstOfMonth_le (12 * year + month - 2)
  rw [succ, ← hfirst, ← hnext] at long short
  obtain ⟨count, hcount⟩ : ∃ count : Nat, next = first + count := ⟨(next - first).toNat, by omega⟩
  have whole (d : Int) : d * msPerDay / msPerDay = d := Int.mul_ediv_cancel _ (by decide)
  have utc (i : Nat) (le : i ≤ count) :
      dateUTC year month (i + 1) = some ((first + i) * msPerDay) := by
    rw [dateUTC_some low high ⟨inYear.1, inYear.2.le⟩ (by omega) (by omega), ← hfirst]
    congr 2
    omega
  -- where the days begin
  have begins (i : Nat) (le : i ≤ count) : ∃ start,
      startOf year month tzOffsetMinutes timeZone (i + 1) = some (some start) ∧
      timeClip start = some start ∧ ∀ t, first + i ≤ localDay tzOffsetMinutes timeZone t ↔ start ≤ t := by
    cases timeZone with
    | some zone =>
      obtain ⟨start, found, least, clip⟩ := search_first zone low high inYear
        (show 1 ≤ (i : Int) + 1 by omega) (by omega)
      refine ⟨start, by rw [startOf, found]; rfl, clip, fun t => ?_⟩
      rw [← least t, ← hfirst, localDay]
      omega
    | none =>
      refine ⟨(first + i) * msPerDay + tzOffsetMinutes * 60000, by rw [startOf, utc i le]; rfl, ?_, ?_⟩
      · have down := firstOfMonth_mono (show 12000 ≤ 12 * year + month - 2 by omega)
        have up := firstOfMonth_mono (show 12 * year + month - 2 ≤ 120000 by omega)
        have least : -400000 ≤ firstOfMonth 12000 := by decide
        have most : firstOfMonth 120000 ≤ 3000000 := by decide
        have bounded := near rfl
        unfold timeClip msPerDay
        rw [if_pos (by omega)]
      · intro t
        dsimp only [localDay, msPerDay]
        omega
  choose! starts begin' using begins
  have windows := windows_of first starts ?last
    (fun i le => ⟨(begin' i le).1, (begin' i le).2.1⟩) ?label
  case last =>
    have previous := dateUTC_some low high (show 0 ≤ month + 1 ∧ month + 1 ≤ 12 by omega)
      (le_refl 0) (by decide)
    have own : monthOfDay (next - 1) = 12 * year + month - 2 := by
      rw [monthOfDay_eq_iff, succ, ← hfirst, ← hnext]
      omega
    rw [previous, show 12 * year + (month + 1) - 2 = 12 * year + month - 1 by omega, ← hnext,
      Option.map_some, show next + 0 - 1 = next - 1 by omega, whole, dayInMonth, own, ← hfirst]
    congr 1
    omega
  case label =>
    intro i lt
    have plain : Plain (first + i) := monthDay_plain low high inYear (by omega) (by omega)
    rw [utc i lt.le, isoDay, Option.map_some, whole, isoDate_plain plain]
    rfl
  have entry (i : Nat) (w : MessageDayWindow) (there : ((List.range count).map fun (i : Nat) =>
      (⟨isoDate (first + i), some (starts i), some (starts (i + 1))⟩ : MessageDayWindow))[i]? =
        some w) : i < count ∧ w = ⟨isoDate (first + i), some (starts i), some (starts (i + 1))⟩ := by
    obtain ⟨j, inside, rfl⟩ := Option.map_eq_some_iff.mp (List.getElem?_map ▸ there)
    obtain ⟨lt, rfl⟩ := List.getElem?_eq_some_iff.mp inside
    rw [List.length_range] at lt
    rw [List.getElem_range]
    exact ⟨lt, rfl⟩
  refine ⟨_, first, windows, ?_, ?_, ?_, ?_⟩
  · intro d
    rw [← monthOfDay_iff inYear, monthOfDay_eq_iff, succ, ← hfirst, ← hnext, List.length_map,
      List.length_range]
    constructor
    · rintro ⟨from', until'⟩
      exact ⟨(d - first).toNat, by omega, by omega⟩
    · rintro ⟨i, lt, rfl⟩
      omega
  · intro i w there
    obtain ⟨lt, rfl⟩ := entry i w there
    have own := (begin' i lt.le).2.2
    have later := (begin' (i + 1) lt).2.2
    refine ⟨rfl, _, _, rfl, rfl, ?_, fun t => ?_⟩
    · have reached := (later (starts (i + 1))).mpr le_rfl
      exact (own _).mp (by omega)
    · rw [← own t, ← not_le, ← later t]
      omega
  · intro i v w there there'
    obtain ⟨-, rfl⟩ := entry i v there
    obtain ⟨-, rfl⟩ := entry (i + 1) w there'
    rfl
  · rintro zone rfl i le
    rw [List.length_map, List.length_range] at le
    obtain ⟨found, -, least⟩ := begin' i le
    obtain ⟨start, found, same⟩ := Option.map_eq_some_iff.mp found
    cases same
    exact ⟨_, found, (least _).mpr le_rfl, fun t later => (least t).mp later⟩

/-- February of a leap year, an hour east of UTC. -/
theorem days_partition_february :
    ∃ (windows : List MessageDayWindow) (first : Int),
      messageDayWindows 2024 1 (-60) none = some windows ∧
      (∀ d, yearOfDay d = 2024 ∧ monthInYear d = 1 ↔ ∃ i < windows.length, d = first + i) ∧
      (∀ (i : Nat) w, windows[i]? = some w → w.day = isoDate (first + i) ∧
        ∃ start «end», w.start = some start ∧ w.end = some «end» ∧ start ≤ «end» ∧
          ∀ t, start ≤ t ∧ t < «end» ↔ localDay (-60) none t = first + i) ∧
      (∀ (i : Nat) v w, windows[i]? = some v → windows[i + 1]? = some w → v.end = w.start) ∧
      ∀ zone, none = some zone → ∀ i : Nat, i ≤ windows.length → ∃ start,
        findUtcStartOfZonedDate zone 2024 1 (i + 1) = some start ∧
          IsLeast {t | first + i ≤ zone.day t} start :=
  days_partition (by decide) (by decide) (by decide) fun _ => by decide

end CircleBackend.Chat
