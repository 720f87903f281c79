/-!
# `ProgramTrace.Time.Calendar` — days and dates in the proleptic Gregorian calendar.

Days are counted from 1970-01-01.  The count runs in years that begin with March, so that a leap day ends
its year: 400 such years have 146097 days, and within them a century has 36524 days, four years have
1461 and a year 365, the last one of each kind taking what is left over.  `Date.ofDay` divides by these in
turn; `Date.toDay` adds them up again.
-/

namespace ProgramTrace.Calendar

structure Date where
  year : Int
  month : Nat
  day : Nat
  deriving DecidableEq, Repr

def isLeap (year : Int) : Bool :=
  year % 4 = 0 && (year % 100 ≠ 0 || year % 400 = 0)

def monthLength (year : Int) (month : Nat) : Nat :=
  if month = 2 then (if isLeap year then 29 else 28)
  else if month = 4 ∨ month = 6 ∨ month = 9 ∨ month = 11 then 30
  else 31

/-- The dates that the calendar has. -/
def Date.Valid (d : Date) : Prop :=
  1 ≤ d.month ∧ d.month ≤ 12 ∧ 1 ≤ d.day ∧ d.day ≤ monthLength d.year d.month

instance (d : Date) : Decidable d.Valid := inferInstanceAs (Decidable (_ ∧ _))

/-- How many days before 1970-01-01 the first of March of the year 0 lies. -/
def epochOffset : Int := 719468

def cycleDays : Int := 146097

/-- The year and the day in it, both from 0 and both counted from March, of a day of a 400-year cycle. -/
def yearInCycle (day : Nat) : Nat × Nat :=
  let century := min (day / 36524) 3
  let inCentury := day - century * 36524
  let group := inCentury / 1461
  let inGroup := inCentury % 1461
  let year := min (inGroup / 365) 3
  (century * 100 + group * 4 + year, inGroup - year * 365)

/-- The month from 0, counted from March, of a day of the year: five months have 153 days. -/
def monthOfDay (day : Nat) : Nat := (5 * day + 2) / 153

/-- The days of a year before a month, both counted from March. -/
def daysBeforeMonth (month : Nat) : Nat := (153 * month + 2) / 5

def Date.ofDay (day : Int) : Date :=
  let shifted := day + epochOffset
  let cycle := shifted / cycleDays
  let (year, dayOfYear) := yearInCycle (shifted % cycleDays).toNat
  let month := monthOfDay dayOfYear
  { year := cycle * 400 + year + (if month < 10 then 0 else 1)
    month := if month < 10 then month + 3 else month - 9
    day := dayOfYear - daysBeforeMonth month + 1 }

def Date.toDay (d : Date) : Int :=
  let marchYear := if d.month ≤ 2 then d.year - 1 else d.year
  let month := if d.month ≤ 2 then d.month + 9 else d.month - 3
  let year := marchYear % 400
  marchYear / 400 * cycleDays + year * 365 + year / 4 - year / 100
    + daysBeforeMonth month + d.day - 1 - epochOffset

end ProgramTrace.Calendar
