import Mathlib.Tactic.IntervalCases
import ProgramTrace.Time.Calendar

/-!
# `ProgramTrace.Proofs.Time.Calendar` — days and dates are the same thing, in the same order.

Everything rests on one count, `daysBeforeMarch`: 365 days for each year, one more for every fourth, one less for
every hundredth, one more for every four hundredth.  Taking a day apart finds the year between whose two counts it
lies (`yearInCycle_spec`) and the month likewise (`monthOfDay_spec`), so that the date is one of the calendar
(`Date.valid_ofDay`) and its day is the one it came from (`Date.toDay_ofDay`).  The other way round, a later date has a
later day (`Date.toDay_lt_of_before`), so that no two dates share one, and days and dates correspond in order
(`Date.before_ofDay_iff`).

That the count is the right one is said without it: the date after a day is the next in the calendar
(`Date.ofDay_add_one`), beginning with the first of January 1970.
-/

namespace ProgramTrace.Calendar

/-! ## Years -/

theorem isLeap_iff {year : Int} : isLeap year ↔ year % 4 = 0 ∧ (year % 100 ≠ 0 ∨ year % 400 = 0) := by
  simp [isLeap]

/-- The days from the first of March of the year 0 to the first of March of a year. -/
def daysBeforeMarch (year : Int) : Int := 365 * year + year / 4 - year / 100 + year / 400

/-- How many days a year has. -/
def yearLength (year : Int) : Nat := if isLeap year then 366 else 365

theorem yearLength_bounds (year : Int) : 365 ≤ yearLength year ∧ yearLength year ≤ 366 := by
  unfold yearLength
  split <;> omega

/-- From one March to the next there are the days of a year, that of the February in between. -/
theorem daysBeforeMarch_add_one (year : Int) :
    daysBeforeMarch (year + 1) = daysBeforeMarch year + yearLength (year + 1) := by
  unfold daysBeforeMarch yearLength
  split
  · have leap := isLeap_iff.mp ‹_›
    omega
  · have common := mt isLeap_iff.mpr ‹_›
    omega

/-- Each cycle is like the first. -/
theorem daysBeforeMarch_cycle (cycle year : Int) :
    daysBeforeMarch (cycle * 400 + year) = cycle * cycleDays + daysBeforeMarch year := by
  unfold daysBeforeMarch cycleDays
  omega

/-- In a cycle the days of full centuries, of full groups of four years and of full years add up. -/
theorem daysBeforeMarch_parts {year : Int} {c g y : Nat} (parts : year = 100 * c + 4 * g + y)
    (hc : c ≤ 3) (hg : g ≤ 24) (hy : y ≤ 3) : daysBeforeMarch year = 36524 * c + 1461 * g + 365 * y := by
  unfold daysBeforeMarch
  omega

/-- A day that is in its century, in its group and in its year comes before the next year.  The last century of a cycle,
the last group of a century and the last year of a group may be a day longer than the others. -/
theorem lt_daysBeforeMarch_add_one {year : Int} {c g y n : Nat} (parts : year = 100 * c + 4 * g + y)
    (hc : c ≤ 3) (hg : g ≤ 24) (hy : y ≤ 3) (century : c < 3 → 1461 * g + n < 36524) (group : n < 1461)
    (inYear : y < 3 → n < 365 * (y + 1)) : 36524 * c + 1461 * g + n < daysBeforeMarch (year + 1) := by
  -- The next year begins the next year of the group, the next group, the next century or the next cycle.
  by_cases short : y < 3
  · rw [@daysBeforeMarch_parts _ c g (y + 1)] <;> omega
  by_cases few : g < 24
  · rw [@daysBeforeMarch_parts _ c (g + 1) 0] <;> omega
  by_cases early : c < 3
  · rw [@daysBeforeMarch_parts _ (c + 1) 0 0] <;> omega
  · obtain rfl : year = 399 := by omega
    simp only [daysBeforeMarch]
    omega

/-- **The year of a day is the one whose count is the last that the day has reached.** -/
theorem yearInCycle_spec {day : Nat} (h : day < 146097) :
    (yearInCycle day).1 < 400 ∧ (day : Int) = daysBeforeMarch (yearInCycle day).1 + (yearInCycle day).2 ∧
      (day : Int) < daysBeforeMarch ((yearInCycle day).1 + 1) := by
  simp only [yearInCycle]
  generalize hc : min (day / 36524) 3 = c
  generalize hr : day - c * 36524 = r
  generalize hg : r / 1461 = g
  generalize hn : r % 1461 = n
  generalize hy : min (n / 365) 3 = y
  have parts : ((c * 100 + g * 4 + y : Nat) : Int) = 100 * c + 4 * g + y := by omega
  have whole : (day : Int) = 36524 * c + 1461 * g + n := by omega
  have start := daysBeforeMarch_parts parts (by omega) (by omega) (by omega)
  have next : 36524 * c + 1461 * g + n < daysBeforeMarch ((c * 100 + g * 4 + y : Nat) + 1) := by
    apply lt_daysBeforeMarch_add_one parts <;> omega
  omega

/-! ## Months -/

theorem monthLength_bounds (year : Int) (month : Nat) : 1 ≤ monthLength year month ∧ monthLength year month ≤ 31 := by
  unfold monthLength
  split
  · split <;> decide
  · split <;> decide

/-- The month of a year that begins with January, for a month from 0 of one that begins with March. -/
def monthFromMarch (month : Nat) : Nat := if month < 10 then month + 3 else month - 9

/-- The counts of the months grow by the lengths of the months, up to February. -/
theorem daysBeforeMonth_add_one (year : Int) {month : Nat} (h : month < 11) :
    daysBeforeMonth (month + 1) = daysBeforeMonth month + monthLength year (monthFromMarch month) := by
  interval_cases month <;> rfl

/-- February ends the year. -/
theorem daysBeforeMonth_february (year : Int) :
    daysBeforeMonth 11 + monthLength year 2 = yearLength year := by
  show 337 + (if isLeap year then 29 else 28) = if isLeap year then 366 else 365
  split <;> rfl

/-- **The month of a day is the one whose count is the last that the day has reached.** -/
theorem monthOfDay_spec {day : Nat} (h : day < 366) :
    monthOfDay day < 12 ∧ daysBeforeMonth (monthOfDay day) ≤ day ∧
      day < daysBeforeMonth (monthOfDay day + 1) := by
  unfold daysBeforeMonth monthOfDay
  omega

/-! ## From days to dates -/

namespace Date

variable {d e : Date}

/-- The year of a date, counted from March. -/
def marchYear (d : Date) : Int := if d.month ≤ 2 then d.year - 1 else d.year

/-- The month of a date from 0, counted from March. -/
def marchMonth (d : Date) : Nat := if d.month ≤ 2 then d.month + 9 else d.month - 3

/-- The day of a date, by the count of its year and that of its month. -/
theorem toDay_eq (d : Date) :
    d.toDay = daysBeforeMarch d.marchYear + daysBeforeMonth d.marchMonth + d.day - 1 - epochOffset := by
  have count (y : Int) : y / 400 * cycleDays + y % 400 * 365 + y % 400 / 4 - y % 400 / 100 = daysBeforeMarch y := by
    unfold daysBeforeMarch cycleDays
    omega
  show _ / 400 * cycleDays + _ % 400 * 365 + _ % 400 / 4 - _ % 400 / 100 + _ + _ - 1 - epochOffset = _
  rw [count]
  rfl

/-- The date of a day of a year, both counted from March. -/
def ofMarch (year : Int) (day : Nat) : Date :=
  { year := year + (if monthOfDay day < 10 then 0 else 1)
    month := monthFromMarch (monthOfDay day)
    day := day - daysBeforeMonth (monthOfDay day) + 1 }

theorem march_ofMarch (year : Int) {day : Nat} (h : day < 366) :
    (ofMarch year day).marchYear = year ∧ (ofMarch year day).marchMonth = monthOfDay day := by
  have month := (monthOfDay_spec h).1
  unfold marchYear marchMonth ofMarch monthFromMarch
  by_cases early : monthOfDay day < 10
  · simp [early]
  · simp only [if_neg early]
    rw [if_pos (by omega), if_pos (by omega)]
    omega

/-- The date of a day has that day. -/
theorem toDay_ofMarch (year : Int) {day : Nat} (h : day < 366) :
    (ofMarch year day).toDay = daysBeforeMarch year + day - epochOffset := by
  obtain ⟨sameYear, sameMonth⟩ := march_ofMarch year h
  have reached := (monthOfDay_spec h).2.1
  rw [toDay_eq, sameYear, sameMonth]
  simp only [ofMarch]
  omega

/-- A day that is in its year has a date of the calendar. -/
theorem valid_ofMarch {year : Int} {day : Nat} (h : daysBeforeMarch year + day < daysBeforeMarch (year + 1)) :
    (ofMarch year day).Valid := by
  rw [daysBeforeMarch_add_one] at h
  have long := (yearLength_bounds (year + 1)).2
  obtain ⟨month, reached, before⟩ := @monthOfDay_spec day (by omega)
  have inMonth : day - daysBeforeMonth (monthOfDay day) + 1 ≤
      monthLength (ofMarch year day).year (monthFromMarch (monthOfDay day)) := by
    by_cases february : monthOfDay day = 11
    · -- The last month is as long as is left of the year.
      have whole := daysBeforeMonth_february (year + 1)
      have next : (ofMarch year day).year = year + 1 := by simp [ofMarch, february]
      rw [next, february]
      rw [february] at reached
      show _ ≤ monthLength (year + 1) 2
      omega
    · have whole := @daysBeforeMonth_add_one (ofMarch year day).year (monthOfDay day) (by omega)
      omega
  have months : 1 ≤ monthFromMarch (monthOfDay day) ∧ monthFromMarch (monthOfDay day) ≤ 12 := by
    unfold monthFromMarch
    split <;> omega
  exact ⟨months.1, months.2, Nat.le_add_left .., inMonth⟩

/-- The date of a day is that of a day of a year which the day is in. -/
theorem exists_ofDay_eq (day : Int) : ∃ (year : Int) (n : Nat), ofDay day = ofMarch year n ∧
    day + epochOffset = daysBeforeMarch year + n ∧ day + epochOffset < daysBeforeMarch (year + 1) := by
  generalize cycle : (day + epochOffset) / cycleDays = c
  generalize inCycle : ((day + epochOffset) % cycleDays).toNat = n
  have split : day + epochOffset = c * cycleDays + n ∧ n < 146097 := by
    unfold cycleDays at *
    omega
  obtain ⟨-, reached, before⟩ := yearInCycle_spec split.2
  refine ⟨c * 400 + (yearInCycle n).1, (yearInCycle n).2, ?_, ?_, ?_⟩
  · rw [← cycle, ← inCycle]
    rfl
  · rw [daysBeforeMarch_cycle]
    omega
  · rw [Int.add_assoc, daysBeforeMarch_cycle]
    omega

/-- **Every day has a date of the calendar.** -/
theorem valid_ofDay (day : Int) : (ofDay day).Valid := by
  obtain ⟨year, n, same, reached, before⟩ := exists_ofDay_eq day
  rw [same]
  exact valid_ofMarch (reached ▸ before)

/-- **The date of a day has that day.** -/
theorem toDay_ofDay (day : Int) : (ofDay day).toDay = day := by
  obtain ⟨year, n, same, reached, before⟩ := exists_ofDay_eq day
  rw [daysBeforeMarch_add_one] at before
  have long := (yearLength_bounds (year + 1)).2
  rw [same, toDay_ofMarch year (by omega)]
  omega

/-! ## The order of dates -/

/-- A date comes before another by its year, its month or its day, the first in which they differ. -/
def Before (d e : Date) : Prop :=
  d.year < e.year ∨ d.year = e.year ∧ (d.month < e.month ∨ d.month = e.month ∧ d.day < e.day)

/-- The same by year and month counted from March. -/
theorem Before.march (h : d.Before e) (hd : d.Valid) (he : e.Valid) : d.marchYear < e.marchYear ∨
    d.marchYear = e.marchYear ∧ (d.marchMonth < e.marchMonth ∨ d.marchMonth = e.marchMonth ∧ d.day < e.day) := by
  obtain ⟨hd, hd', -, -⟩ := hd
  obtain ⟨he, he', -, -⟩ := he
  unfold Before at h
  unfold marchYear marchMonth
  split <;> split <;> omega

theorem daysBeforeMarch_mono {y z : Int} (h : y ≤ z) : daysBeforeMarch y ≤ daysBeforeMarch z := by
  unfold daysBeforeMarch
  omega

theorem monthFromMarch_marchMonth (h : d.Valid) : d.marchMonth < 12 ∧ monthFromMarch d.marchMonth = d.month := by
  obtain ⟨first, last, -, -⟩ := h
  unfold monthFromMarch marchMonth
  split <;> split <;> omega

/-- A date is in its month. -/
theorem day_le (h : d.Valid) : daysBeforeMonth d.marchMonth + d.day ≤ daysBeforeMonth (d.marchMonth + 1) := by
  obtain ⟨inYear, same⟩ := monthFromMarch_marchMonth h
  have inMonth := h.2.2.2
  by_cases february : d.marchMonth = 11
  · have long := (yearLength_bounds d.year).2
    have whole := daysBeforeMonth_february d.year
    rw [← same, february] at inMonth
    rw [february]
    show _ ≤ 367
    change _ ≤ monthLength d.year 2 at inMonth
    omega
  · rw [daysBeforeMonth_add_one d.year (by omega), same]
    exact Nat.add_le_add_left inMonth _

/-- A date is in its year. -/
theorem add_day_le (h : d.Valid) :
    daysBeforeMarch d.marchYear + daysBeforeMonth d.marchMonth + d.day ≤ daysBeforeMarch (d.marchYear + 1) := by
  obtain ⟨inYear, same⟩ := monthFromMarch_marchMonth h
  have inMonth := h.2.2.2
  rw [daysBeforeMarch_add_one]
  by_cases february : d.marchMonth = 11
  · have whole := daysBeforeMonth_february d.year
    rw [← same, february] at inMonth
    change _ ≤ monthLength d.year 2 at inMonth
    have next : d.marchYear + 1 = d.year := by
      unfold marchYear
      unfold marchMonth at february
      have last := h.2.1
      split at february
      · rw [if_pos ‹_›]
        omega
      · omega
    rw [next, february]
    omega
  · have short := (yearLength_bounds (d.marchYear + 1)).1
    have inMonth := day_le h
    have early : daysBeforeMonth (d.marchMonth + 1) ≤ 337 := by
      unfold daysBeforeMonth
      omega
    omega

/-- **An earlier date has an earlier day.** -/
theorem toDay_lt_of_before (h : d.Before e) (hd : d.Valid) (he : e.Valid) : d.toDay < e.toDay := by
  have first := he.2.2.1
  rw [toDay_eq, toDay_eq]
  obtain year | ⟨year, month | ⟨month, day⟩⟩ := h.march hd he
  · have inYear := add_day_le hd
    have later := daysBeforeMarch_mono year
    omega
  · have inMonth := day_le hd
    have later : daysBeforeMonth (d.marchMonth + 1) ≤ daysBeforeMonth e.marchMonth := by
      unfold daysBeforeMonth
      omega
    rw [year]
    omega
  · rw [year, month]
    omega

theorem eq_iff : d = e ↔ d.year = e.year ∧ d.month = e.month ∧ d.day = e.day := by
  cases d
  cases e
  rw [Date.mk.injEq]

theorem before_trichotomy (d e : Date) : d.Before e ∨ d = e ∨ e.Before d := by
  rw [eq_iff]
  unfold Before
  omega

/-- **Dates are in the order of their days.** -/
theorem before_iff (hd : d.Valid) (he : e.Valid) : d.Before e ↔ d.toDay < e.toDay := by
  refine ⟨fun h => toDay_lt_of_before h hd he, fun h => ?_⟩
  obtain before | rfl | after := before_trichotomy d e
  · exact before
  · exact absurd h (Int.lt_irrefl _)
  · exact absurd (toDay_lt_of_before after he hd) (by omega)

/-- No two dates have the same day. -/
theorem eq_of_toDay (hd : d.Valid) (he : e.Valid) (h : d.toDay = e.toDay) : d = e := by
  obtain before | same | after := before_trichotomy d e
  · exact absurd (toDay_lt_of_before before hd he) (by omega)
  · exact same
  · exact absurd (toDay_lt_of_before after he hd) (by omega)

/-- **Days are in the order of their dates.** -/
theorem before_ofDay_iff {m n : Int} : (ofDay m).Before (ofDay n) ↔ m < n := by
  rw [before_iff (valid_ofDay m) (valid_ofDay n), toDay_ofDay, toDay_ofDay]

theorem ofDay_inj {m n : Int} : ofDay m = ofDay n ↔ m = n := by
  refine ⟨fun same => ?_, fun same => by rw [same]⟩
  rw [← toDay_ofDay m, same, toDay_ofDay]

/-- **The day of a date has that date.** -/
theorem ofDay_toDay (h : d.Valid) : ofDay d.toDay = d :=
  eq_of_toDay (valid_ofDay _) h (toDay_ofDay _)

/-! ## Counting day by day -/

/-- The date after a date. -/
def next (d : Date) : Date :=
  if d.day < monthLength d.year d.month then { d with day := d.day + 1 }
  else if d.month < 12 then ⟨d.year, d.month + 1, 1⟩
  else ⟨d.year + 1, 1, 1⟩

theorem valid_next (h : d.Valid) : d.next.Valid := by
  obtain ⟨first, last, start, inMonth⟩ := h
  unfold next
  split
  · exact ⟨first, last, Nat.le_add_left .., ‹_›⟩
  · split
    · exact ⟨Nat.le_add_left .., ‹_›, Nat.le_refl 1, (monthLength_bounds ..).1⟩
    · exact ⟨Nat.le_refl 1, Nat.le_add_left 1 11, Nat.le_refl 1, (monthLength_bounds ..).1⟩

/-- From the first of a month to the first of the next there are the days of the month. -/
theorem toDay_first_add_one (year : Int) {month : Nat} (first : 1 ≤ month) (last : month < 12) :
    toDay ⟨year, month + 1, 1⟩ = toDay ⟨year, month, 1⟩ + monthLength year month := by
  rw [toDay_eq, toDay_eq]
  by_cases february : month = 2
  · subst february
    have whole := daysBeforeMonth_february year
    have years := daysBeforeMarch_add_one (year - 1)
    rw [Int.sub_add_cancel] at years
    have begins : daysBeforeMonth 0 = 0 := rfl
    simp only [marchYear, marchMonth, Nat.reduceAdd, Nat.reduceLeDiff, if_true, if_false, Nat.reduceSub]
    omega
  · have turns : marchYear ⟨year, month + 1, 1⟩ = marchYear ⟨year, month, 1⟩ ∧
        marchMonth ⟨year, month + 1, 1⟩ = marchMonth ⟨year, month, 1⟩ + 1 ∧ marchMonth ⟨year, month, 1⟩ < 11 ∧
          monthFromMarch (marchMonth ⟨year, month, 1⟩) = month := by
      interval_cases month <;> simp_all [marchYear, marchMonth, monthFromMarch]
    obtain ⟨sameYear, nextMonth, early, back⟩ := turns
    have whole := daysBeforeMonth_add_one year early
    rw [back] at whole
    rw [sameYear, nextMonth, whole]
    simp only
    omega

/-- A date lies as many days after the first of its month as its day says. -/
theorem toDay_eq_first (d : Date) : d.toDay = toDay ⟨d.year, d.month, 1⟩ + d.day - 1 := by
  rw [toDay_eq, toDay_eq]
  show _ = daysBeforeMarch d.marchYear + daysBeforeMonth d.marchMonth + 1 - 1 - epochOffset + d.day - 1
  omega

/-- The day after a day of the calendar. -/
theorem toDay_next (h : d.Valid) : d.next.toDay = d.toDay + 1 := by
  obtain ⟨first, last, -, inMonth⟩ := h
  unfold next
  split
  · rw [toDay_eq_first, toDay_eq_first d]
    simp only
    omega
  · have full : d.day = monthLength d.year d.month := by omega
    split
    · rw [toDay_first_add_one d.year first ‹_›, toDay_eq_first d]
      omega
    · obtain december : d.month = 12 := by omega
      have whole : daysBeforeMonth 10 = daysBeforeMonth 9 + monthLength d.year 12 := rfl
      rw [toDay_eq_first d, full, december, toDay_eq, toDay_eq]
      simp only [marchYear, marchMonth, Nat.reduceAdd, Nat.reduceLeDiff, if_true, if_false, Nat.reduceSub,
        Int.add_sub_cancel]
      omega

/-- **The date of the day after a day is the next in the calendar**, beginning with the first of January 1970. -/
theorem ofDay_add_one (day : Int) : ofDay (day + 1) = (ofDay day).next := by
  have valid := valid_ofDay day
  rw [← toDay_ofDay day, ← toDay_next valid, ofDay_toDay (valid_next valid), toDay_ofDay]

example : ofDay 0 = ⟨1970, 1, 1⟩ := by decide

end Date

end ProgramTrace.Calendar
