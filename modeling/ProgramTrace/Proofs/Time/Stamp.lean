import ProgramTrace.Proofs.Decimal
import ProgramTrace.Proofs.Time.Calendar
import ProgramTrace.Session

/-!
# `ProgramTrace.Proofs.Time.Stamp` — a time stamp denotes the second in which a session began.

A stamp is read without the function that writes it.  `Moment.Shown` says which texts show a moment, that is a date
with a time of day: fields of digits between fixed separators, where only the year can have a sign or more than four
digits.  No text shows two moments (`Moment.Shown.unique`).  A moment is turned back into seconds by its day in the
calendar (`Moment.toSeconds`), with second 60 counted as 59.

* **`Session.startText_denotes`**: the stamp of a session shows one moment, which the calendar and the clock have; it
  turns back into the seconds of the start, and its second is 60 exactly in a leap second.  The count of days is that of
  the calendar: second 0 is the first of 1970-01-01, and a day later the stamp shows the next date
  (`Instant.moment_nextDay`).  So two sessions have the same stamp exactly if they began in the same second and both or
  neither in a leap second.
-/

namespace ProgramTrace

open Calendar (Date)
open Decimal (fixed padded toNat?)

/-! ## Instants that a clock gives -/

namespace Instant

/-- The instants that a clock gives: nanoseconds go beyond a second only in a leap second, which lengthens the last
second of a minute. -/
def Valid (i : Instant) : Prop :=
  i.nanos < nanosPerSecond ∨ i.nanos < 2 * nanosPerSecond ∧ i.seconds % 60 = 59

instance (i : Instant) : Decidable i.Valid := inferInstanceAs (Decidable (_ ∨ _))

/-- A leap second comes at the end of a minute. -/
theorem Valid.leap {i : Instant} (h : i.Valid) (leap : i.isLeap) : i.seconds % 60 = 59 := by
  unfold isLeap at leap
  obtain short | ⟨-, last⟩ := h
  · exact absurd (of_decide_eq_true leap) (by omega)
  · exact last

/-- A time stamp consists of digits and its separators. -/
theorem isDigit_or_of_mem_stamp {i : Instant} {c : Char} (h : c ∈ i.stamp) :
    c.isDigit ∨ c ∈ ['+', '-', ':', 'T', 'Z'] := by
  have fixed : ∀ {width n : Nat}, c ∈ Decimal.fixed width n → c.isDigit := Decimal.isDigit_of_mem_fixed
  have year : ∀ {y : Int}, c ∈ yearText y → c.isDigit ∨ c = '+' ∨ c = '-' := by
    intro y h
    unfold yearText at h
    split at h
    · exact .inl (fixed h)
    · obtain rfl | h := List.mem_cons.mp h
      · split <;> simp
      · exact .inl (Decimal.isDigit_of_mem_padded h)
  simp only [stamp, dateText, timeText, List.mem_append, List.mem_cons, List.not_mem_nil, or_false] at h ⊢
  grind

end Instant

/-! ## Moments -/

/-- A date and a time of day. -/
structure Moment where
  date : Date
  hour : Nat
  minute : Nat
  second : Nat
  deriving DecidableEq, Repr

namespace Moment

/-- The moments that the calendar and the clock have.  A minute can have a second 60. -/
def Valid (m : Moment) : Prop := m.date.Valid ∧ m.hour < 24 ∧ m.minute < 60 ∧ m.second ≤ 60

/-- The seconds from 1970-01-01T00:00:00Z to a moment, where second 60 counts as second 59. -/
def toSeconds (m : Moment) : Int :=
  m.date.toDay * 86400 + m.hour * 3600 + m.minute * 60 + (min m.second 59 : Nat)

/-- The same time on the next date of the calendar. -/
def nextDay (m : Moment) : Moment := { m with date := m.date.next }

/-- The first moment of 1970-01-01. -/
def epoch : Moment := ⟨⟨1970, 1, 1⟩, 0, 0, 0⟩

/-- A field of two digits shows a number. -/
def ShownField (n : Nat) (t : Text) : Prop := t.length = 2 ∧ toNat? t = some n

/-- The texts that show a year: four digits, or a sign and at least four digits where the year is not one of those
from 0 to 9999. -/
inductive ShownYear : Int → Text → Prop where
  | plain {n : Nat} {t : Text} (width : t.length = 4) (value : toNat? t = some n) : ShownYear n t
  | before {n : Nat} {t : Text} (width : 4 ≤ t.length) (value : toNat? t = some n) (negative : 0 < n) :
      ShownYear (-n) ('-' :: t)
  | after {n : Nat} {t : Text} (width : 4 ≤ t.length) (value : toNat? t = some n) (late : 9999 < n) :
      ShownYear n ('+' :: t)

/-- The texts that show a moment. -/
inductive Shown (m : Moment) : Text → Prop where
  | intro {year month day hour minute second : Text} (hy : ShownYear m.date.year year)
      (hm : ShownField m.date.month month) (hd : ShownField m.date.day day) (hh : ShownField m.hour hour)
      (hn : ShownField m.minute minute) (hs : ShownField m.second second) :
      Shown m (year ++ ('-' :: month ++ ('-' :: day ++ ('T' :: hour ++ (':' :: minute ++ (':' :: second ++ ['Z']))))))

/-! ## No text shows two moments -/

theorem ShownField.unique {m n : Nat} {t : Text} (hm : ShownField m t) (hn : ShownField n t) : m = n :=
  Option.some.inj (hm.2.symm.trans hn.2)

/-- A number does not begin with a character that is no digit. -/
theorem toNat?_cons_ne {c : Char} (h : c.isDigit = false) {t : Text} {n : Nat} : toNat? (c :: t) ≠ some n := by
  intro value
  have digits := (Decimal.toNat?_eq_some_iff.mp value).1.2
  exact absurd (digits c (List.mem_cons_self ..)) (by simp [h])

theorem ShownYear.unique {y z : Int} {t : Text} (hy : ShownYear y t) (hz : ShownYear z t) : y = z := by
  have minus : Char.isDigit '-' = false := rfl
  have plus : Char.isDigit '+' = false := rfl
  cases hy with
  | plain _ value =>
    cases hz with
    | plain _ value' => rw [Option.some.inj (value.symm.trans value')]
    | before => exact absurd value (toNat?_cons_ne minus)
    | after => exact absurd value (toNat?_cons_ne plus)
  | before _ value _ =>
    cases hz with
    | plain _ value' => exact absurd value' (toNat?_cons_ne minus)
    | before _ value' _ => rw [Option.some.inj (value.symm.trans value')]
  | after _ value _ =>
    cases hz with
    | plain _ value' => exact absurd value' (toNat?_cons_ne plus)
    | after _ value' _ => rw [Option.some.inj (value.symm.trans value')]

/-- Fields of one width that are followed by something are the same if the texts are. -/
theorem field_inj {c : Char} {s t u v : Text} (h : c :: s ++ u = c :: t ++ v) (width : s.length = t.length) :
    s = t ∧ u = v :=
  List.append_inj (List.cons.inj h).2 width

/-- **A text shows at most one moment.** -/
theorem Shown.unique {m n : Moment} {t : Text} (hm : m.Shown t) (hn : n.Shown t) : m = n := by
  generalize same : t = u at hn
  obtain ⟨hy, hm, hd, hh, hi, hs⟩ := hm
  obtain ⟨hy', hm', hd', hh', hi', hs'⟩ := hn
  -- Only the year can vary in width, so it is what is left of the text before the other fields.
  obtain ⟨year, months⟩ := List.append_inj' same (by
    simp only [List.length_append, List.length_cons, hm.1, hd.1, hh.1, hi.1, hs.1, hm'.1, hd'.1, hh'.1, hi'.1, hs'.1])
  obtain ⟨month, days⟩ := field_inj months (hm.1.trans hm'.1.symm)
  obtain ⟨day, hours⟩ := field_inj days (hd.1.trans hd'.1.symm)
  obtain ⟨hour, minutes⟩ := field_inj hours (hh.1.trans hh'.1.symm)
  obtain ⟨minute, seconds⟩ := field_inj minutes (hi.1.trans hi'.1.symm)
  obtain ⟨second, -⟩ := field_inj seconds (hs.1.trans hs'.1.symm)
  subst year month day hour minute second
  obtain ⟨⟨_, _, _⟩, _, _, _⟩ := m
  obtain ⟨⟨_, _, _⟩, _, _, _⟩ := n
  simp only [Moment.mk.injEq, Date.mk.injEq]
  exact ⟨⟨hy.unique hy', hm.unique hm', hd.unique hd'⟩, hh.unique hh', hi.unique hi', hs.unique hs'⟩

end Moment

/-! ## The moment of an instant -/

namespace Instant

variable {i j : Instant}

/-- The moment of an instant. -/
def moment (i : Instant) : Moment :=
  ⟨i.date, i.secondOfDay / 3600, i.secondOfDay / 60 % 60, i.secondOfDay % 60 + if i.isLeap then 1 else 0⟩

theorem secondOfDay_lt (i : Instant) : i.secondOfDay < 86400 := by
  unfold secondOfDay secondsPerDay
  omega

/-- The moment of an instant is one of the calendar and the clock. -/
theorem valid_moment (i : Instant) : i.moment.Valid := by
  have day := i.secondOfDay_lt
  refine ⟨Date.valid_ofDay _, ?_, ?_, ?_⟩
  · show i.secondOfDay / 3600 < 24
    omega
  · show i.secondOfDay / 60 % 60 < 60
    omega
  · show i.secondOfDay % 60 + (if i.isLeap then 1 else 0) ≤ 60
    split <;> omega

/-- The seconds of a day fall on the seconds of a minute as those of all time do. -/
theorem secondOfDay_mod (i : Instant) : (i.secondOfDay % 60 : Nat) = i.seconds % 60 := by
  unfold secondOfDay secondsPerDay
  omega

/-- Second 60 is a leap second. -/
theorem second_moment_iff (h : i.Valid) : i.moment.second = 60 ↔ i.isLeap := by
  have inMinute := i.secondOfDay_mod
  show i.secondOfDay % 60 + (if i.isLeap then 1 else 0) = 60 ↔ _
  by_cases leap : i.isLeap
  · have last := h.leap leap
    rw [if_pos leap]
    exact iff_of_true (by omega) leap
  · rw [if_neg leap]
    exact iff_of_false (by omega) leap

/-- The moment of an instant turns back into its seconds. -/
theorem toSeconds_moment (h : i.Valid) : i.moment.toSeconds = i.seconds := by
  have inMinute := i.secondOfDay_mod
  have second : min i.moment.second 59 = i.secondOfDay % 60 := by
    show min (i.secondOfDay % 60 + if i.isLeap then 1 else 0) 59 = _
    by_cases leap : i.isLeap
    · have last := h.leap leap
      rw [if_pos leap]
      omega
    · rw [if_neg leap]
      omega
  have day : i.moment.date.toDay = i.seconds / 86400 := Date.toDay_ofDay _
  have inDay : (i.secondOfDay : Int) = i.seconds % 86400 := by
    unfold secondOfDay secondsPerDay
    omega
  rw [Moment.toSeconds, second, day]
  show i.seconds / 86400 * 86400 + (i.secondOfDay / 3600 : Nat) * 3600 + (i.secondOfDay / 60 % 60 : Nat) * 60 + _ = _
  omega

/-- A day of 86400 seconds later. -/
def nextDay (i : Instant) : Instant := { i with seconds := i.seconds + 86400 }

/-- **A day later it is the same time on the next date of the calendar.** -/
theorem moment_nextDay (i : Instant) : i.nextDay.moment = i.moment.nextDay := by
  have day : (i.seconds + 86400) / secondsPerDay = i.seconds / secondsPerDay + 1 := by
    unfold secondsPerDay
    omega
  have date : i.nextDay.date = i.date.next := by
    show Date.ofDay ((i.seconds + 86400) / secondsPerDay) = _
    rw [day, Date.ofDay_add_one]
    rfl
  have time : i.nextDay.secondOfDay = i.secondOfDay := by
    show ((i.seconds + 86400) % secondsPerDay).toNat = (i.seconds % secondsPerDay).toNat
    unfold secondsPerDay
    omega
  rw [moment, date, time]
  rfl

/-- The clock is in the first moment of 1970-01-01 exactly in second 0. -/
theorem moment_eq_epoch_iff (h : i.Valid) : i.moment = Moment.epoch ↔ i.seconds = 0 := by
  constructor
  · intro same
    rw [← toSeconds_moment h, same]
    decide
  · intro zero
    have noLeap : i.isLeap = false := by
      rw [Bool.eq_false_iff]
      intro leap
      have last := h.leap leap
      omega
    simp only [moment, date, secondOfDay, zero, noLeap]
    decide

/-! ## The stamp of an instant -/

theorem shownYear_yearText (year : Int) : Moment.ShownYear year (yearText year) := by
  unfold yearText
  by_cases plain : 0 ≤ year ∧ year ≤ 9999
  · obtain ⟨n, rfl⟩ : ∃ n : Nat, year = n := ⟨year.toNat, by omega⟩
    rw [if_pos plain, Int.toNat_natCast]
    exact .plain (Decimal.length_fixed ..) (Decimal.toNat?_fixed (by decide) (by omega))
  · rw [if_neg plain]
    by_cases negative : year < 0
    · obtain ⟨n, rfl⟩ : ∃ n : Nat, year = -n := ⟨year.natAbs, by omega⟩
      rw [if_pos negative, Int.natAbs_neg, Int.natAbs_natCast]
      exact .before (Decimal.le_length_padded ..) (Decimal.toNat?_padded ..) (by omega)
    · obtain ⟨n, rfl⟩ : ∃ n : Nat, year = n := ⟨year.natAbs, by omega⟩
      rw [if_neg negative, Int.natAbs_natCast]
      exact .after (Decimal.le_length_padded ..) (Decimal.toNat?_padded ..) (by omega)

theorem shownField_fixed {n : Nat} (h : n < 100) : Moment.ShownField n (fixed 2 n) :=
  ⟨Decimal.length_fixed .., Decimal.toNat?_fixed (by decide) h⟩

/-- **The stamp of an instant shows its moment.** -/
theorem shown_stamp (i : Instant) : i.moment.Shown i.stamp := by
  obtain ⟨⟨-, month, -, day⟩, hour, minute, second⟩ := i.valid_moment
  have inMonth := (Calendar.monthLength_bounds i.moment.date.year i.moment.date.month).2
  have texts : i.stamp = yearText i.date.year ++ ('-' :: fixed 2 i.date.month ++ ('-' :: fixed 2 i.date.day ++
      ('T' :: fixed 2 (i.secondOfDay / 3600) ++ (':' :: fixed 2 (i.secondOfDay / 60 % 60) ++
        (':' :: fixed 2 (i.secondOfDay % 60 + if i.isLeap then 1 else 0) ++ ['Z']))))) := by
    simp only [stamp, dateText, timeText, List.append_assoc, List.cons_append]
  rw [texts]
  exact .intro (m := i.moment) (shownYear_yearText _) (shownField_fixed (by omega)) (shownField_fixed (by omega))
    (shownField_fixed (by omega)) (shownField_fixed (by omega)) (shownField_fixed (by omega))

example : stamp ⟨-62167219201, 1500000000⟩ = "-0001-12-31T23:59:60Z".toList := by decide

/-- Instants of a clock with one moment are in one second. -/
theorem eq_of_moment (hi : i.Valid) (hj : j.Valid) (same : i.moment = j.moment) :
    i.seconds = j.seconds ∧ i.isLeap = j.isLeap := by
  constructor
  · rw [← toSeconds_moment hi, same, toSeconds_moment hj]
  · rw [Bool.eq_iff_iff, ← second_moment_iff hi, same, second_moment_iff hj]

/-- Instants of a clock have one stamp exactly if they are in one second, leap seconds told apart. -/
theorem stamp_inj (hi : i.Valid) (hj : j.Valid) :
    i.stamp = j.stamp ↔ i.seconds = j.seconds ∧ i.isLeap = j.isLeap := by
  constructor
  · intro same
    exact eq_of_moment hi hj (i.shown_stamp.unique (same ▸ j.shown_stamp))
  · rintro ⟨seconds, leap⟩
    unfold stamp dateText timeText date secondOfDay
    rw [seconds, leap]

end Instant

/-! ## The stamp of a session -/

/-- **The stamp of a session denotes the second in which it began.**  It shows one moment, which the calendar and the
clock have; the moment turns back into the seconds of the start, and its second is 60 exactly in a leap second.  That is
the first moment of 1970-01-01 exactly in second 0, and a day later it is the same time on the next date.  Two sessions
have the same stamp exactly if they began in the same second, leap seconds told apart. -/
theorem Session.startText_denotes (s : Session) (clock : s.startedAt.Valid) :
    (∃ m : Moment, m.Shown s.startText ∧ (∀ n : Moment, n.Shown s.startText → n = m) ∧ m.Valid ∧
      (m.second = 60 ↔ s.startedAt.isLeap) ∧ m.toSeconds = s.startedAt.seconds ∧
      (m = .epoch ↔ s.startedAt.seconds = 0) ∧
      ∀ s' : Session, s'.startedAt = s.startedAt.nextDay → m.nextDay.Shown s'.startText) ∧
    ∀ s' : Session, s'.startedAt.Valid → (s.startText = s'.startText ↔
      s.startedAt.seconds = s'.startedAt.seconds ∧ s.startedAt.isLeap = s'.startedAt.isLeap) := by
  have shown : s.startedAt.moment.Shown s.startText := s.startedAt.shown_stamp
  constructor
  · refine ⟨s.startedAt.moment, shown, fun n other => other.unique shown, s.startedAt.valid_moment, ?_, ?_, ?_, ?_⟩
    · exact Instant.second_moment_iff clock
    · exact Instant.toSeconds_moment clock
    · exact Instant.moment_eq_epoch_iff clock
    · intro s' later
      rw [← Instant.moment_nextDay, ← later]
      exact s'.startedAt.shown_stamp
  · intro s' clock'
    exact Instant.stamp_inj clock clock'

/-- A session of a program that ended at once, by the instant in which it began. -/
def Session.begun (i : Instant) : Session := ⟨['p'], [], i, ⟨0, 0⟩, some 0⟩

/-- A leap second before the year 0, at the end of the year -1: its stamp shows second 60, and is not the stamp of the
second before it. -/
theorem Session.startText_in_leap_second :
    let s := begun ⟨-62167219201, 1500000000⟩
    let s' := begun ⟨-62167219201, 999999999⟩
    s.startedAt.Valid ∧ s'.startedAt.Valid ∧
      (∃ m : Moment, m.Shown s.startText ∧ m.second = 60 ∧ m.toSeconds = -62167219201) ∧
      s.startText ≠ s'.startText := by
  intro s s'
  have clock : s.startedAt.Valid := by decide
  have clock' : s'.startedAt.Valid := by decide
  obtain ⟨⟨m, shown, -, -, leap, seconds, -, -⟩, same⟩ := startText_denotes s clock
  refine ⟨clock, clock', ⟨m, shown, leap.mpr (by decide), seconds⟩, ?_⟩
  intro one
  exact absurd ((same s' clock').mp one).2 (by decide)

end ProgramTrace
