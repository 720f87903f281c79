import ProgramTrace.Text.Decimal
import ProgramTrace.Time.Calendar

/-!
# `ProgramTrace.Time.Instant` — points of time and lengths of time, and their texts.

An instant is a count of seconds from 1970-01-01T00:00:00Z and of nanoseconds within the second.  A
leap second has no count of its own: it is the second before it with 10⁹ more nanoseconds, and is shown
as second 60.  `Instant.stamp` shows an instant to the second, `Instant.fineStamp` to the microsecond.
-/

namespace ProgramTrace

open Calendar (Date)

/-! ## Instants -/

structure Instant where
  seconds : Int
  nanos : Nat
  deriving DecidableEq, Repr

namespace Instant

def nanosPerSecond : Nat := 1000000000

def secondsPerDay : Int := 86400

def isLeap (i : Instant) : Bool := nanosPerSecond ≤ i.nanos

def date (i : Instant) : Date := .ofDay (i.seconds / secondsPerDay)

/-- The second of the day of an instant, leap seconds not counted. -/
def secondOfDay (i : Instant) : Nat := (i.seconds % secondsPerDay).toNat

/-- The text of a year: four digits from 0 to 9999, otherwise a sign and at least four digits. -/
def yearText (year : Int) : Text :=
  if 0 ≤ year ∧ year ≤ 9999 then Decimal.fixed 4 year.toNat
  else (if year < 0 then '-' else '+') :: Decimal.padded 4 year.natAbs

def dateText (i : Instant) : Text :=
  yearText i.date.year ++ '-' :: Decimal.fixed 2 i.date.month ++ '-' :: Decimal.fixed 2 i.date.day

/-- The time of day of an instant as text, to the second. -/
def timeText (i : Instant) : Text :=
  Decimal.fixed 2 (i.secondOfDay / 3600) ++
    ':' :: Decimal.fixed 2 (i.secondOfDay / 60 % 60) ++
    ':' :: Decimal.fixed 2 (i.secondOfDay % 60 + if i.isLeap then 1 else 0)

/-- An instant as text to the second: date, `T`, time and `Z`. -/
def stamp (i : Instant) : Text := i.dateText ++ 'T' :: i.timeText ++ ['Z']

/-- An instant as text to the microsecond. -/
def fineStamp (i : Instant) : Text :=
  i.dateText ++ 'T' :: i.timeText ++ '.' :: Decimal.fixed 6 (i.nanos % nanosPerSecond / 1000) ++ ['Z']

end Instant

/-! ## Lengths of time -/

structure Duration where
  seconds : Nat
  nanos : Nat
  deriving DecidableEq, Repr

namespace Duration

def toNanos (d : Duration) : Nat := d.seconds * 1000000000 + d.nanos

def ofNanos (n : Nat) : Duration := ⟨n / 1000000000, n % 1000000000⟩

def toMillis (d : Duration) : Nat := d.toNanos / 1000000

/-- A number of `unit` pieces with the fraction that is left, without zeros at its end. -/
def quantity (n unit width : Nat) (name : Text) : Text :=
  let fraction := ((Decimal.fixed width (n % unit)).reverse.dropWhile (· == '0')).reverse
  Decimal.ofNat (n / unit) ++ (if fraction = [] then [] else '.' :: fraction) ++ name

/-- A length of time as text, in the largest unit of which it has one: s, ms, µs or ns. -/
def text (d : Duration) : Text :=
  let n := d.toNanos
  if 1000000000 ≤ n then quantity n 1000000000 9 ['s']
  else if 1000000 ≤ n then quantity n 1000000 6 ['m', 's']
  else if 1000 ≤ n then quantity n 1000 3 ['µ', 's']
  else quantity n 1 0 ['n', 's']

end Duration

/-- The instant that lies a length of time after another, outside leap seconds. -/
def Instant.after (i : Instant) (d : Duration) : Instant :=
  let nanos := i.nanos + d.toNanos
  ⟨i.seconds + (nanos / Instant.nanosPerSecond : Nat), nanos % Instant.nanosPerSecond⟩

end ProgramTrace
